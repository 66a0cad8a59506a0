import PredicateIndex.Table.Handler
import PredicateIndex.Table.Pictograph
import PredicateIndex.Table.Strip
import PredicateIndex.Table.Style

/-!
# Markup in table texts

A text of a table may hold tags in square brackets that style what follows. A tag starts with a
small letter, a number sign, a slash or an at sign and ends at the next closing bracket; other
brackets are text. A tag that starts with a slash closes the last open tag of its name, or the last
open tag if it has none. Tables are printed without styles, so tags leave nothing; but closing what
is not open is a fault, and so is a handler that cannot be read. A backslash before a tag makes it
text. The names of pictographs in the text are replaced.
-/
namespace PredicateIndex.Markup

/-- What is wrong with a tag. -/
inductive Fault where
  /-- No tag of that name is open. -/
  | notOpen (tag : String) (position : Nat)
  /-- No tag is open at all. -/
  | nothingOpen (position : Nat)
  /-- A colour has a component without a value. -/
  | component (fault : Count.Fault)
  /-- A handler cannot be read. -/
  | handler (fault : Handler.Fault)
  deriving DecidableEq, Repr

/-- The words of a fault. -/
def Fault.message : Fault → String
  | .notOpen tag position =>
    s!"closing tag '[{tag}]' at position {position} doesn't match any open tag"
  | .nothingOpen position => s!"closing tag '[/]' at position {position} has nothing to close"
  | .component fault => fault.message
  | .handler fault => fault.message

/-- A piece of a text: plain characters, or a tag and its position. -/
inductive Piece where
  /-- Plain characters. -/
  | plain (characters : List Char)
  /-- A tag without its brackets. -/
  | tag (characters : List Char) (position : Nat)
  deriving DecidableEq, Repr

/-- Whether a character can start a tag. -/
def startsTag (c : Char) : Bool := c.isLower || c == '#' || c == '/' || c == '@'

/-- The tag at an opening bracket and the characters after it. -/
def tagAt? : List Char → Option (List Char × List Char)
  | '[' :: c :: rest =>
    let body := rest.takeWhile fun d => d != '[' && d != ']'
    match rest.dropWhile fun d => d != '[' && d != ']' with
    | ']' :: after => if startsTag c then some (c :: body, after) else none
    | _ => none
  | _ => none

/-- Plain characters in which a backslash before an opening bracket is dropped. -/
def unescaped : List Char → List Char
  | '\\' :: '[' :: rest => '[' :: unescaped rest
  | c :: rest => c :: unescaped rest
  | [] => []

/-- The pieces of a tag after backslashes: two backslashes stand for one, and a single one left over
makes the tag text. -/
def taggedPieces (backslashes position : Nat) (tag : List Char) : List Piece :=
  let kept := Piece.plain (List.replicate (backslashes / 2) '\\')
  if backslashes % 2 == 1 then [kept, .plain ('[' :: tag ++ [']'])]
  else [kept, .tag tag (position + backslashes)]

/-- The pieces of a text from a position on, given the plain characters before it in reverse. -/
def piecesFrom : Nat → Nat → List Char → List Char → List Piece
  | 0, _, before, cs => [.plain (unescaped (before.reverse ++ cs))]
  | fuel + 1, position, before, cs =>
    let count := (cs.takeWhile (· == '\\')).length
    match tagAt? (cs.drop count) with
    | some (tag, after) =>
      .plain (unescaped before.reverse) :: taggedPieces count position tag ++
        piecesFrom fuel (position + count + Text.pointCount tag + 2) [] after
    | none =>
      match cs with
      | [] => [.plain (unescaped before.reverse)]
      | _ =>
        let taken := if count == 0 then 1 else count
        let plain := cs.take taken
        piecesFrom fuel (position + Text.pointCount plain) (plain.reverse ++ before) (cs.drop taken)

/-- The pieces of a text. -/
def pieces (cs : List Char) : List Piece := piecesFrom (cs.length + 1) 0 [] cs

/-- A tag that is open. -/
structure OpenTag where
  /-- The normal form of its name. -/
  name : String
  /-- What follows the equals sign. -/
  parameters : Option String := none
  /-- The position of the first character that it covers. -/
  start : Nat := 0
  deriving DecidableEq, Repr

/-- The name of a tag, which ends at an equals sign. -/
def tagName (tag : List Char) : List Char := tag.takeWhile (· != '=')

/-- What follows the equals sign of a tag. -/
def tagParameters (tag : List Char) : Option String :=
  match tag.dropWhile (· != '=') with
  | [] => none
  | _ :: parameters => some (String.ofList parameters)

/-- The last open tag of a name and the others. -/
def closeNamed (name : String) : List OpenTag → Option (OpenTag × List OpenTag)
  | [] => none
  | first :: rest =>
    if first.name == name then some (first, rest)
    else (closeNamed name rest).map fun (found, others) => (found, first :: others)

/-- The normal form of a name. -/
def normalName (name : List Char) : Except Fault String :=
  (Style.normalForm name).mapError .component

/-- The tag that a closing tag closes, and the others. -/
def closed (stack : List OpenTag) (tag name : List Char) (position : Nat) :
    Except Fault (OpenTag × List OpenTag) :=
  if name.all Text.isBlank then
    match stack with
    | [] => .error (.nothingOpen position)
    | last :: rest => .ok (last, rest)
  else do
    match closeNamed (← normalName (Text.trim Text.isBlank name)) stack with
    | some found => return found
    | none => throw (.notOpen (String.ofList tag) position)

/-- Check the handler of a tag that is closed, if it has one. -/
def OpenTag.check (tag : OpenTag) : Except Fault Unit :=
  match tag.parameters with
  | some handler =>
    if tag.name.startsWith "@" && handler != "" then (Handler.check handler).mapError .handler
    else .ok ()
  | none => .ok ()

/-- Whether a character is dropped from table texts: bell, backspace, vertical tab, form feed and
carriage return. -/
def isDropped (c : Char) : Bool := [7, 8, 11, 12, 13].contains c.toNat

/-- A text of which some pieces were read. -/
structure Reading where
  /-- What is shown of them. -/
  shown : Strip := {}
  /-- The open tags, the last one first. -/
  stack : List OpenTag := []
  deriving DecidableEq, Repr

namespace Reading

/-- The position after the last character that is shown. -/
def position (reading : Reading) : Nat := reading.shown.characters.length

/-- The extent of a tag that ends here. -/
def extent (reading : Reading) (tag : OpenTag) : Extent := ⟨tag.start, reading.position⟩

/-- Read plain characters. -/
def addPlain (reading : Reading) (cs : List Char) : Reading :=
  let drawn := (Pictograph.drawn cs).filter (!isDropped ·)
  { reading with shown := { reading.shown with characters := reading.shown.characters ++ drawn } }

/-- Read a tag that stands at a position of the text. -/
def addTag (reading : Reading) (tag : List Char) (position : Nat) : Except Fault Reading := do
  match tagName tag with
  | '/' :: name =>
    let (last, rest) ← closed reading.stack tag name position
    last.check
    let extents := reading.shown.extents ++ [reading.extent last]
    return { shown := { reading.shown with extents }, stack := rest }
  | name =>
    let opened : OpenTag :=
      { name := ← normalName name, parameters := tagParameters tag, start := reading.position }
    return { reading with stack := opened :: reading.stack }

/-- Read a piece. -/
def add (reading : Reading) : Piece → Except Fault Reading
  | .plain cs => .ok (reading.addPlain cs)
  | .tag tag position => reading.addTag tag position

/-- What is shown in the end: tags that are still open end with the text. -/
def finished (reading : Reading) : Strip :=
  { reading.shown with
    extents := reading.shown.extents ++ reading.stack.map fun tag => reading.extent tag }

end Reading

/-- What a table shows of a text. -/
def shown (text : String) : Except Fault Strip := do
  return (← (pieces text.toList).foldlM Reading.add {}).finished

end PredicateIndex.Markup
