import PredicateIndex.Decimal.Shortest
import PredicateIndex.Index.Basic
import PredicateIndex.Tree.Basic

/-!
# Ranges of nodes and calls in bodies

A node covers the characters of its approximate text from its position on; a node without a
position gets the fallback range and a notice. Calls are found by a work list: the next term is
taken off its front and replaced by its children, so the calls come in the order of the source.
`Term.calls` says the same by recursion on the terms.
-/
namespace PredicateIndex

/-- The text of a number. -/
def Number.text : Number → String
  | .int n => toString n
  | .float x => x.text

/-- The text of a node whose text is not known. -/
def unknownText : String := "???"

mutual

/-- The approximate text of a term; only its length matters. -/
def Term.approximateText : Term → String
  | .atom _ text => text
  | .var _ _ name => name
  | .number _ value => value.text
  | .operator symbol => symbol.symbol
  | .compound _ name _ _ => name
  | .operation _ symbol _ _ =>
    match symbol with
    | some symbol => symbol.symbol
    | none => unknownText
  | .list .. => "[]"
  | .group .. => "()"
  | .cut _ => "!"
  | .param _ value => Term.approximateText? value
  | .unknown .. => unknownText

/-- The approximate text of a wrapped term. -/
def Term.approximateText? : Option Term → String
  | none => unknownText
  | some t => Term.approximateText t

end

/-- The range of `length` characters from a mark's position on. -/
def Mark.range? (mark : Mark) (length : Nat) : Option SourceRange :=
  match mark.line, mark.column with
  | some line, some column =>
    if line != 0 && column != 0 then
      some (.ofCoordinates line (column - 1) line (column - 1 + length))
    else none
  | _, _ => none

/-- The range of a term. -/
def Term.range (t : Term) : SourceRange :=
  (t.mark.range? (Text.size t.approximateText)).getD .fallback

/-- What indexing a tree draws attention to. -/
inductive IndexNotice where
  /-- A node has no position; its kind is given. -/
  | missingPosition (tag : String)
  /-- A clause has no head that names a predicate. -/
  | unsupportedHead (file : String) (line : Option Int) (headTag : Option String)
  deriving DecidableEq, Repr

/-- The notice of a term without a position. -/
def Term.positionNotices (t : Term) : List IndexNotice :=
  if t.mark.hasPosition then [] else [.missingPosition t.tag]

/-- The call a term makes by itself. -/
def Term.ownCall? : Term → Option CallSite
  | .compound mark name arity params =>
    some ⟨name, Term.declaredArity arity params,
      (Term.compound mark name arity params).range⟩
  | _ => none

/-- The terms below a term in which calls are looked for. A list that repeats its first element
as its head is looked at through its elements. -/
def Term.children : Term → List (Option Term)
  | .compound _ _ _ params => params.map some
  | .operation _ _ left right => [left, right]
  | .list _ items head tail => (if items.isEmpty then [head] else items.map some) ++ [tail]
  | .group _ content => content.map some
  | .param _ value => [value]
  | _ => []

mutual

/-- The calls of a term and of the terms below it, by recursion: its own call first, then those
of its parts from left to right. -/
def Term.calls : Term → List CallSite
  | .compound mark name arity params =>
    ⟨name, Term.declaredArity arity params, (Term.compound mark name arity params).range⟩ ::
      Term.callsOfAll params
  | .operation _ _ left right => Term.calls? left ++ Term.calls? right
  | .list _ items head tail =>
    (if items.isEmpty then Term.calls? head else Term.callsOfAll items) ++ Term.calls? tail
  | .group _ content => Term.callsOfAll content
  | .param _ value => Term.calls? value
  | _ => []

/-- The calls of terms one after the other. -/
def Term.callsOfAll : List Term → List CallSite
  | [] => []
  | t :: rest => Term.calls t ++ Term.callsOfAll rest

/-- The calls of a term that may be absent. -/
def Term.calls? : Option Term → List CallSite
  | none => []
  | some t => Term.calls t

end

mutual

/-- The number of nodes of a term. -/
def Term.weight : Term → Nat
  | .compound _ _ _ params => Term.weights params + 1
  | .operation _ _ left right => Term.weight? left + Term.weight? right + 1
  | .list _ items head tail => Term.weights items + Term.weight? head + Term.weight? tail + 1
  | .group _ content => Term.weights content + 1
  | .param _ value => Term.weight? value + 1
  | _ => 1

/-- The number of nodes of a list of terms. -/
def Term.weights : List Term → Nat
  | [] => 0
  | t :: rest => Term.weight t + 1 + Term.weights rest

/-- The number of nodes of a term that may be absent, itself counted. -/
def Term.weight? : Option Term → Nat
  | none => 1
  | some t => Term.weight t + 1

end

/-- The number of nodes that a work list still holds. -/
def Term.pending : List (Option Term) → Nat
  | [] => 0
  | t :: rest => Term.weight? t + Term.pending rest

/-- Two work lists one after the other hold the nodes of both. -/
theorem Term.pending_append (a b : List (Option Term)) :
    Term.pending (a ++ b) = Term.pending a + Term.pending b := by
  induction a with
  | nil => simp [Term.pending]
  | cons t rest ih => simp [Term.pending, ih, Nat.add_assoc]

/-- Terms that are all present hold their own nodes. -/
theorem Term.pending_map_some (terms : List Term) :
    Term.pending (terms.map some) = Term.weights terms := by
  induction terms with
  | nil => simp [Term.pending, Term.weights]
  | cons t rest ih => simp [Term.pending, Term.weights, Term.weight?, ih]

/-- The children of a term hold fewer nodes than the term. -/
theorem Term.pending_children_lt (t : Term) : Term.pending t.children < Term.weight t := by
  cases t with
  | list mark items head tail =>
    by_cases empty : items = []
    · subst empty
      simp [Term.children, Term.pending, Term.weight, Term.weights]
    · have full : items.isEmpty = false := by simpa using empty
      simp only [Term.children, full, Bool.false_eq_true, if_false, Term.pending_append,
        Term.pending_map_some, Term.pending, Term.weight]
      omega
  | _ => simp [Term.children, Term.pending, Term.pending_map_some, Term.weight]

namespace Calls

/-- The calls found by a work list. -/
def collect (work : List (Option Term)) : List CallSite :=
  match work with
  | [] => []
  | none :: rest => collect rest
  | some t :: rest => t.ownCall?.toList ++ collect (t.children ++ rest)
termination_by Term.pending work
decreasing_by
  · simp [Term.pending, Term.weight?]
  · simp only [Term.pending_append, Term.pending, Term.weight?]
    have := Term.pending_children_lt t
    omega

/-- The notices that a work list gives, one for each call without a position. -/
def notices (work : List (Option Term)) : List IndexNotice :=
  match work with
  | [] => []
  | none :: rest => notices rest
  | some t :: rest =>
    (if t.ownCall?.isSome then t.positionNotices else []) ++ notices (t.children ++ rest)
termination_by Term.pending work
decreasing_by
  · simp [Term.pending, Term.weight?]
  · simp only [Term.pending_append, Term.pending, Term.weight?]
    have := Term.pending_children_lt t
    omega

/-- The calls in terms, in source order. -/
def inTerms (terms : List Term) : List CallSite := collect (terms.map some)

/-- The notices of the calls in terms. -/
def noticesInTerms (terms : List Term) : List IndexNotice := notices (terms.map some)

end Calls

end PredicateIndex
