import PredicateIndex.Decimal.Numeral
import PredicateIndex.Text.CodePoint
import PredicateIndex.Tree.Basic
import PredicateIndex.Tree.Fault
import PredicateIndex.Value.Display

/-!
# Decoding syntax trees

A tree is decoded from a structured value field by field, in a fixed order: line, column and
payload, for items the span, then the tag, then the fields of the kind; lists by position, depth
first. The first field that breaks its rule is the fault. Unknown keys are ignored, unknown tags
give nodes of an unknown kind, and a bare value in the place of a term gives a term of an unknown
kind that keeps the value's text. Terms nest at most `termLevels` deep below an item; the number
of levels left is what the recursion runs on.

Tags are looked up before fields are checked: `badTag?` finds the first tag that is a list or an
object among the nodes that decoding would visit.
-/
namespace PredicateIndex

/-- Decoding gives a value or the first fault. -/
abbrev Decoded (α : Type) := Except Fault α

namespace Decode

/-- Put a step in front of the path of a fault. -/
def under {α : Type} (step : PathStep) : Decoded α → Decoded α
  | .ok a => .ok a
  | .error fault => .error { fault with path := step :: fault.path }

/-- A fault at this place. -/
def fail {α : Type} (problem : Problem) : Decoded α := .error ⟨[], problem⟩

/-- Decode a field, or take its default if it is absent. -/
def field {α : Type} (fields : Fields) (name : String) (default : α) (decode : Value → Decoded α) :
    Decoded α :=
  match fields.get? name with
  | none => .ok default
  | some v => under (.key name) (decode v)

/-- Decode a field that must be present. -/
def required {α : Type} (fields : Fields) (name : String) (decode : Value → Decoded α) :
    Decoded α :=
  under (.key name) (match fields.get? name with
    | none => fail .required
    | some v => decode v)

/-- Null stands for an absent value. -/
def nullable {α : Type} (decode : Value → Decoded α) : Value → Decoded (Option α)
  | .null => .ok none
  | v => (decode v).map some

/-- Decode the elements of a list by position. -/
def elements {α : Type} (decode : Value → Decoded α) : Nat → List Value → Decoded (List α)
  | _, [] => .ok []
  | n, v :: rest => do
    let first ← under (.index n) (decode v)
    let others ← elements decode (n + 1) rest
    return first :: others

/-- A list of values of one kind. -/
def tuple {α : Type} (decode : Value → Decoded α) : Value → Decoded (List α)
  | .list items => elements decode 0 items
  | _ => fail .notTuple

/-- A text. -/
def text : Value → Decoded String
  | .text s => .ok s
  | _ => fail .notText

/-- Doubles that stand for integers lie strictly between these bounds. -/
def doubleBound : Int := 9223372036854775808

/-- An integer, from an integer, a truth value, a whole double or a numeral. -/
def integer : Value → Decoded Int
  | .int n => .ok n
  | .bool b => .ok (if b then 1 else 0)
  | .float x =>
    if !x.isFinite then fail .notFinite
    else match x.toInt? with
      | none => fail .fractional
      | some n => if -doubleBound < n && n < doubleBound then .ok n else fail .oversized
  | .text s =>
    if !Text.isWellFormed s then fail .notCharacters
    else match Numeral.readInteger s with
      | .ok n => .ok n
      | .error .malformed => fail .notIntegerText
      | .error .oversized => fail .oversized
  | _ => fail .notInteger

/-- A number: an integer or a double as it stands, and a numeral as an integer if it is one. -/
def number : Value → Decoded Number
  | .int n => .ok (.int n)
  | .bool b => .ok (.int (if b then 1 else 0))
  | .float x => .ok (.float x)
  | .text s =>
    if !Text.isWellFormed s then under (.kind "int") (fail .notCharacters)
    else match Numeral.readInteger s, Numeral.readDecimal? s with
      | .ok n, _ => .ok (.int n)
      | .error _, some x => .ok (.float x)
      | .error .malformed, none => under (.kind "int") (fail .notIntegerText)
      | .error .oversized, none => under (.kind "int") (fail .oversized)
  | _ => under (.kind "int") (fail .notInteger)

/-- The texts of a list, if it holds nothing else. -/
def texts? : List Value → Option (List String)
  | [] => some []
  | .text s :: rest => (texts? rest).map (s :: ·)
  | _ :: _ => none

/-- A payload: a text or a list of texts. -/
def payload : Value → Decoded Payload
  | .text s => .ok (.text s)
  | .list items =>
    match texts? items with
    | some lines => .ok (.lines lines)
    | none => under (.kind "str") (fail .notText)
  | _ => under (.kind "str") (fail .notText)

/-- Position and payload of a node. -/
def mark (fields : Fields) : Decoded Mark := do
  let line ← field fields "line" none (nullable integer)
  let column ← field fields "column" none (nullable integer)
  let raw ← field fields "raw" none (nullable payload)
  return { line, column, raw }

/-- One end of a span. -/
def spanPoint : Value → Decoded SpanPoint
  | .object fields => do
    let line ← required fields "line" integer
    let column ← required fields "column" integer
    return { line, column }
  | _ => fail (.notObject "SpanPoint")

/-- A span. -/
def span : Value → Decoded Span
  | .object fields => do
    let start ← required fields "start" spanPoint
    let stop ← required fields "end" spanPoint
    return { start, stop }
  | _ => fail (.notObject "Span")

/-- The span of an item, under either of its two names; the first wins when both are present. -/
def itemSpan (fields : Fields) : Decoded (Option Span) :=
  if fields.has "fullRange" then field fields "fullRange" none (nullable span)
  else field fields "full_range" none (nullable span)

/-- The kind of the term an object describes. -/
def termKind (fields : Fields) : TermKind :=
  match fields.get? "type" with
  | some (.text tag) => .ofTag tag
  | _ => .unknown

/-- The kind of the item an object describes. -/
def itemKind (fields : Fields) : ItemKind :=
  match fields.get? "type" with
  | some (.text tag) => .ofTag tag
  | _ => .unknown

/-- The tag of a node of an unknown kind. -/
def unknownTag (fields : Fields) : Decoded String := field fields "type" "unknown" text

/-- The tag of the operator of an operation. -/
def operatorTag : Value → Decoded Unit
  | .text tag =>
    if !Text.isWellFormed tag then fail .notCharacters
    else if tag == "operator" then .ok () else fail .notOperatorTag
  | _ => fail .notOperatorTag

/-- An operator symbol from the fields of its object. -/
def operatorFields (fields : Fields) : Decoded Operator := do
  let mark ← mark fields
  field fields "type" () operatorTag
  let symbol ← field fields "op" "" text
  return { mark, symbol }

/-- The operator of an operation, with the number of levels left for it. -/
def operatorAt (levels : Nat) (v : Value) : Decoded Operator :=
  match levels, v with
  | 0, _ => fail .tooDeep
  | _ + 1, .object fields => operatorFields fields
  | _ + 1, _ => fail (.notObject "Operator")

/-- A bare value in the place of a term. -/
def bareTerm (v : Value) : Term :=
  .unknown { raw := if v.isNull then none else some (.text v.display) } "unknown"

/-- The kind under which a value in the place of a term is decoded. -/
def kindOf : Value → TermKind
  | .object fields => termKind fields
  | _ => .unknown

/-- A term of the given kind from the fields of its object; `deeper` decodes the terms below. -/
def termOfKind (levels : Nat) (deeper : Value → Decoded Term) (kind : TermKind) (fields : Fields) :
    Decoded Term := do
  let mark ← mark fields
  match kind with
  | .atom => return .atom mark (← field fields "text" "" text)
  | .var =>
    let tag ← field fields "type" "var" text
    return .var mark (tag == "unnamed_var") (← field fields "name" "_" text)
  | .number => return .number mark (← field fields "value" (.int 0) number)
  | .operator => return .operator { mark, symbol := ← field fields "op" "" text }
  | .compound =>
    let name ← field fields "name" "" text
    let arity ← field fields "arity" none (nullable integer)
    let params ← field fields "params" [] (tuple deeper)
    return .compound mark name arity params
  | .operation =>
    let symbol ← field fields "op" none (nullable (operatorAt levels))
    let left ← field fields "left" none (nullable deeper)
    let right ← field fields "right" none (nullable deeper)
    return .operation mark symbol left right
  | .list =>
    let items ← field fields "items" [] (tuple deeper)
    let head ← field fields "head" none (nullable deeper)
    let tail ← field fields "tail" none (nullable deeper)
    return .list mark items head tail
  | .group => return .group mark (← field fields "content" [] (tuple deeper))
  | .cut => return .cut mark
  | .param => return .param mark (← field fields "value" none (nullable deeper))
  | .unknown => return .unknown mark (← unknownTag fields)

/-- A term, with the number of levels left for it and the terms below it. -/
def term : Nat → Value → Decoded Term
  | 0, v => under (.kind (kindOf v).name) (fail .tooDeep)
  | levels + 1, v =>
    match v with
    | .object fields =>
      under (.kind (termKind fields).name)
        (termOfKind levels (term levels) (termKind fields) fields)
    | _ => .ok (bareTerm v)

/-- The number of levels of terms below an item. -/
def termLevels : Nat := 254

/-- A term directly below an item. -/
def topTerm (v : Value) : Decoded Term := term termLevels v

/-- What an item of the given kind says. -/
def itemBody (kind : ItemKind) (fields : Fields) : Decoded ItemBody := do
  match kind with
  | .rule =>
    let head ← field fields "head" none (nullable topTerm)
    let body ← field fields "body" [] (tuple topTerm)
    return .rule head body
  | .fact => return .fact (← field fields "head" none (nullable topTerm))
  | .directive => return .directive (← field fields "directives" [] (tuple topTerm))
  | .parseError => return .parseError (← field fields "kind" "syntax" text)
  | .unknown => return .unknown (← unknownTag fields)

/-- A top-level item. -/
def item : Value → Decoded Item
  | .object fields => under (.kind (itemKind fields).name) do
    let mark ← mark fields
    let span ← itemSpan fields
    let body ← itemBody (itemKind fields) fields
    return { mark, span, body }
  | _ => under (.kind "unknown") (fail (.notObject "UnknownItem"))

/-- A tree from the fields of its root. -/
def tree (fields : Fields) : Decoded Tree := do
  let file ← field fields "file" "" text
  let items ← field fields "predicates" [] (tuple item)
  return { file, items }

/-- The refused tag of an object, if its tag is a list or an object. -/
def ownBadTag? (fields : Fields) : Option BadTag :=
  match fields.get? "type" with
  | some (.list _) => some .list
  | some (.object _) => some .object
  | _ => none

/-- The first refused tag among the elements of a field that is a list. -/
def badTagInList? (look : Value → Option BadTag) (fields : Fields) (name : String) :
    Option BadTag :=
  match fields.get? name with
  | some (.list items) => items.findSome? look
  | _ => none

/-- The first refused tag at a field that holds one term. -/
def badTagAt? (look : Value → Option BadTag) (fields : Fields) (name : String) : Option BadTag :=
  (fields.get? name).bind look

/-- The first refused tag below a term of the given kind. -/
def badTagBelow? (look : Value → Option BadTag) (kind : TermKind) (fields : Fields) :
    Option BadTag :=
  match kind with
  | .compound => badTagInList? look fields "params"
  | .operation => (badTagAt? look fields "left").or (badTagAt? look fields "right")
  | .list =>
    ((badTagInList? look fields "items").or (badTagAt? look fields "head")).or
      (badTagAt? look fields "tail")
  | .group => badTagInList? look fields "content"
  | .param => badTagAt? look fields "value"
  | _ => none

/-- The first refused tag of a term and the terms below it. -/
def termBadTag? : Nat → Value → Option BadTag
  | 0, .object fields => ownBadTag? fields
  | levels + 1, .object fields =>
    (ownBadTag? fields).or (badTagBelow? (termBadTag? levels) (termKind fields) fields)
  | _, _ => none

/-- The first refused tag of an item and the terms below it. -/
def itemBadTag? : Value → Option BadTag
  | .object fields =>
    (ownBadTag? fields).or <|
      match itemKind fields with
      | .rule =>
        (badTagAt? (termBadTag? termLevels) fields "head").or
          (badTagInList? (termBadTag? termLevels) fields "body")
      | .fact => badTagAt? (termBadTag? termLevels) fields "head"
      | .directive => badTagInList? (termBadTag? termLevels) fields "directives"
      | _ => none
  | _ => none

/-- The first refused tag of a tree. -/
def badTag? (fields : Fields) : Option BadTag := badTagInList? itemBadTag? fields "predicates"

end Decode

namespace Tree

/-- The tree a structured value describes. -/
def ofValue : Value → Except TreeError Tree
  | .object fields =>
    if !Ledger.has fields "predicates" then .error .root
    else match Decode.badTag? fields with
      | some bad => .error (.tag bad)
      | none => (Decode.tree fields).mapError .field
  | _ => .error .root

/-- The tree a JSON text describes. -/
def ofText (text : String) : Except TreeError Tree :=
  match Json.read text with
  | .ok value => ofValue value
  | .error (.malformed complaint place) => .error (.text complaint place)
  | .error (.oversized digits) => .error (.oversizedInteger digits)
  | .error (.tooDeep shape) => .error (.nesting shape)

end Tree

end PredicateIndex
