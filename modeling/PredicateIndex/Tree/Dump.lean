import PredicateIndex.Tree.Basic

/-!
# Syntax trees as structured values

Every node is written as an object with all of its fields, absent ones as null. The exported form
leaves the null fields and the debugging payloads out.
-/
namespace PredicateIndex

/-- A payload as a value. -/
def Payload.toValue : Payload → Value
  | .text s => .text s
  | .lines items => .list (items.map .text)

/-- The common fields of a node. -/
def Mark.toFields (mark : Mark) : Fields :=
  [("line", .ofInt? mark.line), ("column", .ofInt? mark.column),
   ("raw", match mark.raw with
    | some payload => payload.toValue
    | none => .null)]

/-- A number as a value. -/
def Number.toValue : Number → Value
  | .int n => .int n
  | .float x => .float x

/-- An operator symbol as a value. -/
def Operator.toValue (operator : Operator) : Value :=
  .object (operator.mark.toFields ++ [("type", .text "operator"), ("op", .text operator.symbol)])

/-- The fields of a term: the common ones, its tag, and those of its kind. -/
def Term.node (mark : Mark) (tag : String) (own : Fields) : Value :=
  .object (mark.toFields ++ ("type", .text tag) :: own)

mutual

/-- A term as a value. -/
def Term.toValue : Term → Value
  | .atom mark text => Term.node mark "atom" [("text", .text text)]
  | .var mark unnamed name =>
    Term.node mark (if unnamed then "unnamed_var" else "var") [("name", .text name)]
  | .number mark value => Term.node mark "number" [("value", value.toValue)]
  | .operator symbol => symbol.toValue
  | .compound mark name arity params =>
    Term.node mark "functor"
      [("name", .text name), ("arity", .ofInt? arity), ("params", .list (Term.toValues params))]
  | .operation mark symbol? left right =>
    Term.node mark "infix"
      [("op", match symbol? with
        | some symbol => symbol.toValue
        | none => .null),
       ("left", Term.toValue? left), ("right", Term.toValue? right)]
  | .list mark items head tail =>
    Term.node mark "list"
      [("items", .list (Term.toValues items)), ("head", Term.toValue? head),
       ("tail", Term.toValue? tail)]
  | .group mark content => Term.node mark "parenthesis" [("content", .list (Term.toValues content))]
  | .cut mark => Term.node mark "cut" []
  | .param mark value => Term.node mark "param" [("value", Term.toValue? value)]
  | .unknown mark tag => Term.node mark tag []

/-- Terms as values. -/
def Term.toValues : List Term → List Value
  | [] => []
  | t :: rest => Term.toValue t :: Term.toValues rest

/-- A term as a value, an absent one as null. -/
def Term.toValue? : Option Term → Value
  | none => .null
  | some t => Term.toValue t

end

/-- One end of a span as a value. -/
def SpanPoint.toValue (point : SpanPoint) : Value :=
  .object [("line", .int point.line), ("column", .int point.column)]

/-- A span as a value. -/
def Span.toValue (span : Span) : Value :=
  .object [("start", span.start.toValue), ("end", span.stop.toValue)]

/-- The fields of an item's kind. -/
def ItemBody.toFields : ItemBody → Fields
  | .rule head body => [("head", Term.toValue? head), ("body", .list (Term.toValues body))]
  | .fact head => [("head", Term.toValue? head)]
  | .directive goals => [("directives", .list (Term.toValues goals))]
  | .parseError kind => [("kind", .text kind)]
  | .unknown _ => []

/-- An item as a value. -/
def Item.toValue (item : Item) : Value :=
  .object (item.mark.toFields ++
    ("fullRange", match item.span with
      | some span => span.toValue
      | none => .null) ::
    ("type", .text item.body.tag) :: item.body.toFields)

namespace Tree

/-- A tree as a value, with every field of every node. -/
def toValue (tree : Tree) : Value :=
  .object [("file", .text tree.file), ("predicates", .list (tree.items.map Item.toValue))]

/-- A tree as it is handed out: without null fields and without debugging payloads. -/
def exported (tree : Tree) : Value := tree.toValue.dropNulls.stripRaw

end Tree

end PredicateIndex
