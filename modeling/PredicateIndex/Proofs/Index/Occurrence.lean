import Mathlib.Data.List.Nodup
import PredicateIndex.Index.Calls

/-!
# Where terms occur

A place below a term is a path of steps from a term to one of its parts: to a parameter of a
compound, an operand of an operation, an element, the head or the tail of a list, a term in
parentheses, or the value of a wrapper. The head of a list counts only if the list has no elements,
since a list with elements repeats its head there. The calls in terms, which are found by a work
list, are exactly the calls that stand at such places, each found once.
-/
namespace PredicateIndex

/-- A step from a term to one of its parts. -/
inductive Step where
  /-- To a parameter of a compound. -/
  | param (index : Nat)
  /-- To the left operand. -/
  | left
  /-- To the right operand. -/
  | right
  /-- To an element of a list. -/
  | item (index : Nat)
  /-- To the head of a list without elements. -/
  | head
  /-- To the tail of a list. -/
  | tail
  /-- To a term in parentheses. -/
  | content (index : Nat)
  /-- To the value of a wrapper. -/
  | value
  deriving DecidableEq, Repr

/-- What is listed under distinct keys is listed once, if it is listed once under each and tells its
key. -/
theorem nodup_flatMap_of_key {α β κ : Type} {items : List α} {index : α → κ} {list : α → List β}
    (key : β → κ) (distinct : (items.map index).Nodup) (once : ∀ item ∈ items, (list item).Nodup)
    (told : ∀ item ∈ items, ∀ found ∈ list item, key found = index item) :
    (items.flatMap list).Nodup := by
  refine List.nodup_flatMap.mpr ⟨once, ?_⟩
  have apart := List.pairwise_map.mp distinct
  refine apart.imp_of_mem fun first second different found here there => ?_
  exact different ((told _ first found here).symm.trans (told _ second found there))

namespace Term

/-- The part of a term that a step leads to. -/
def part? : Term → Step → Option Term
  | .compound _ _ _ params, .param index => params[index]?
  | .operation _ _ left _, .left => left
  | .operation _ _ _ right, .right => right
  | .list _ items _ _, .item index => items[index]?
  | .list _ items head _, .head => if items.isEmpty then head else none
  | .list _ _ _ tail, .tail => tail
  | .group _ content, .content index => content[index]?
  | .param _ value, .value => value
  | _, _ => none

/-- The term at the end of a path. -/
def at? : Term → List Step → Option Term
  | t, [] => some t
  | t, step :: path => (t.part? step).bind fun part => part.at? path

/-- Terms in a row with the steps that lead to them. -/
def numbered (step : Nat → Step) (terms : List Term) : List (Step × Term) :=
  terms.zipIdx.map fun (t, index) => (step index, t)

/-- A term that may be absent with the step that leads to it. -/
def optional (step : Step) (t : Option Term) : List (Step × Term) := t.toList.map fun t => (step, t)

/-- The parts of a term with the steps that lead to them, from left to right. -/
def parts : Term → List (Step × Term)
  | .compound _ _ _ params => numbered .param params
  | .operation _ _ left right => optional .left left ++ optional .right right
  | .list _ items head tail =>
    (if items.isEmpty then optional .head head else numbered .item items) ++ optional .tail tail
  | .group _ content => numbered .content content
  | .param _ value => optional .value value
  | _ => []

/-- A term in a row is reached by the step of its number. -/
theorem mem_numbered {step : Nat → Step} {terms : List Term} {taken : Step} {t : Term} :
    (taken, t) ∈ numbered step terms ↔ ∃ index, step index = taken ∧ terms[index]? = some t := by
  simp [numbered, List.mem_zipIdx_iff_getElem?, and_comm]

/-- A term that may be absent is reached by its step. -/
theorem mem_optional {step taken : Step} {value : Option Term} {t : Term} :
    (taken, t) ∈ optional step value ↔ step = taken ∧ value = some t := by
  simp [optional, and_comm, eq_comm]

/-- The parts of a term are those that steps lead to. -/
theorem mem_parts {t part : Term} {step : Step} :
    (step, part) ∈ t.parts ↔ t.part? step = some part := by
  cases t with
  | compound mark name arity params => cases step <;> simp [parts, part?, mem_numbered]
  | operation mark symbol left right => cases step <;> simp [parts, part?, mem_optional]
  | list mark items head tail =>
    by_cases empty : items.isEmpty
    · cases step <;> simp_all [parts, part?, mem_optional]
    · cases step <;> simp [parts, part?, empty, mem_numbered, mem_optional]
  | group mark content => cases step <;> simp [parts, part?, mem_numbered]
  | param mark value => cases step <;> simp [parts, part?, mem_optional]
  | _ => simp [parts, part?]

/-- The steps to terms in a row are those of their numbers. -/
theorem numbered_map_fst (step : Nat → Step) (terms : List Term) :
    (numbered step terms).map Prod.fst = (List.range' 0 terms.length).map step := by
  rw [numbered, List.map_map, ← List.zipIdx_map_snd, List.map_map]
  rfl

/-- The terms in a row are the terms. -/
theorem numbered_map_snd (step : Nat → Step) (terms : List Term) :
    (numbered step terms).map Prod.snd = terms := by
  rw [numbered, List.map_map]
  exact List.zipIdx_map_fst 0 terms

/-- Different parts are reached by different steps. -/
theorem nodup_parts (t : Term) : (t.parts.map Prod.fst).Nodup := by
  have row : ∀ {step : Nat → Step} (terms : List Term), step.Injective →
      ((numbered step terms).map Prod.fst).Nodup := by
    intro step terms injective
    have numbers : (List.range' 0 terms.length).Nodup := List.nodup_range'
    rw [numbered_map_fst]
    exact numbers.map injective
  have one : ∀ (step : Step) (value : Option Term), ((optional step value).map Prod.fst).Nodup := by
    intro step value
    cases value <;> simp [optional]
  cases t with
  | compound mark name arity params => exact row params fun _ _ => Step.param.inj
  | operation mark symbol left right =>
    rw [parts, List.map_append, List.nodup_append]
    refine ⟨one _ left, one _ right, ?_⟩
    cases left <;> cases right <;> simp [optional]
  | list mark items head tail =>
    rw [parts, List.map_append, List.nodup_append]
    refine ⟨?_, one _ tail, ?_⟩
    · split
      · exact one _ head
      · exact row items fun _ _ => Step.item.inj
    · split
      · cases head <;> cases tail <;> simp [optional]
      · cases tail <;> simp [optional, numbered_map_fst]
  | group mark content => exact row content fun _ _ => Step.content.inj
  | param mark value => exact one .value value
  | _ => exact List.nodup_nil

/-- The parts of a term are its children that are present. -/
theorem parts_map_snd (t : Term) : t.parts.map Prod.snd = t.children.filterMap id := by
  cases t with
  | compound mark name arity params => simp [parts, children, numbered_map_snd]
  | operation mark symbol left right =>
    cases left <;> cases right <;> simp [parts, children, optional]
  | list mark items head tail =>
    by_cases empty : items.isEmpty
    · cases head <;> cases tail <;> simp [parts, children, optional, empty]
    · cases tail <;> simp [parts, children, optional, empty, numbered_map_snd]
  | group mark content => simp [parts, children, numbered_map_snd]
  | param mark value => cases value <;> simp [parts, children, optional]
  | _ => rfl

/-- A part of a term has fewer nodes than the term. -/
theorem weight_lt_of_mem_parts {t : Term} {part : Step × Term} (inside : part ∈ t.parts) :
    part.2.weight < t.weight := by
  have child : some part.2 ∈ t.children := by
    have present : part.2 ∈ t.children.filterMap id := by
      rw [← parts_map_snd]
      exact List.mem_map_of_mem inside
    simpa using present
  have bound : ∀ {terms : List (Option Term)}, some part.2 ∈ terms →
      part.2.weight < pending terms := by
    intro terms
    induction terms with
    | nil => simp
    | cons first rest ih =>
      intro inside
      rcases List.mem_cons.mp inside with rfl | inside
      · simp only [pending, weight?]
        omega
      · have := ih inside
        simp only [pending]
        omega
  exact Nat.lt_trans (bound child) (pending_children_lt t)

/-- The terms at all places below a term with their paths: the term itself, then those below its
parts from left to right. -/
def visits (t : Term) : List (List Step × Term) :=
  ([], t) :: t.parts.attach.flatMap fun ⟨part, _⟩ =>
    part.2.visits.map fun visit => (part.1 :: visit.1, visit.2)
termination_by t.weight
decreasing_by exact weight_lt_of_mem_parts ‹_›

/-- The places below a term are its own and those below its parts. -/
theorem visits_eq (t : Term) : t.visits = ([], t) :: t.parts.flatMap fun part =>
    part.2.visits.map fun visit => (part.1 :: visit.1, visit.2) := by
  have attached : t.parts.attach.map _ = t.parts.map fun part : Step × Term =>
      part.2.visits.map fun visit => (part.1 :: visit.1, visit.2) := List.attach_map_val
  rw [visits, List.flatMap_def, List.flatMap_def, ← attached]

/-- The places below a term are those that paths lead to. -/
theorem mem_visits {t node : Term} {path : List Step} :
    (path, node) ∈ t.visits ↔ t.at? path = some node := by
  induction path generalizing t with
  | nil =>
    rw [visits_eq]
    simp [at?, eq_comm]
  | cons step path ih =>
    rw [visits_eq]
    simp only [List.mem_cons, Prod.mk.injEq, reduceCtorEq, false_and, List.mem_flatMap,
      List.mem_map, Prod.exists, false_or, at?, Option.bind_eq_some_iff, List.cons.injEq]
    constructor
    · rintro ⟨taken, part, inside, found, node', visited, ⟨rfl, rfl⟩, rfl⟩
      exact ⟨part, mem_parts.mp inside, ih.mp visited⟩
    · rintro ⟨part, leads, found⟩
      exact ⟨step, part, mem_parts.mpr leads, path, node, ih.mpr found, ⟨rfl, rfl⟩, rfl⟩

/-- Different places below a term have different paths. -/
theorem nodup_visits (t : Term) : (t.visits.map Prod.fst).Nodup := by
  rw [visits_eq, List.map_cons, List.map_flatMap, List.nodup_cons]
  constructor
  · simp
  · -- the first step of a path tells below which part it leads
    have steps : (t.parts.map fun part => some part.1).Nodup := by
      have distinct := (nodup_parts t).map fun _ _ => Option.some.inj
      rwa [List.map_map] at distinct
    refine nodup_flatMap_of_key List.head? steps (fun part inside => ?_)
      fun part inside path found => ?_
    · have longer : Function.Injective (part.1 :: ·) := List.cons_injective
      have below := (nodup_visits part.2).map longer
      rw [List.map_map] at below ⊢
      exact below
    · simp only [List.map_map, List.mem_map, Function.comp_apply] at found
      obtain ⟨visit, -, rfl⟩ := found
      rfl
termination_by t.weight
decreasing_by exact weight_lt_of_mem_parts inside

/-- The calls at all places below a term. -/
def placedCalls (t : Term) : List CallSite := t.visits.filterMap fun visit => visit.2.ownCall?

/-- The calls below a term are its own and those below its parts. -/
theorem placedCalls_eq (t : Term) :
    t.placedCalls = t.ownCall?.toList ++ (t.children.filterMap id).flatMap placedCalls := by
  rw [placedCalls, visits_eq, ← parts_map_snd, List.flatMap_map, List.filterMap_cons,
    List.filterMap_flatMap]
  simp only [List.filterMap_map]
  cases t.ownCall? <;> rfl

end Term

/-- The calls that a work list finds are those at the places below its terms. -/
theorem Calls.collect_eq (work : List (Option Term)) :
    collect work = (work.filterMap id).flatMap Term.placedCalls := by
  fun_induction collect work with
  | case1 => rfl
  | case2 rest ih => simpa using ih
  | case3 t rest ih =>
    have first : (some t :: rest).filterMap id = t :: rest.filterMap id := rfl
    rw [ih, first, List.flatMap_cons, Term.placedCalls_eq t, List.filterMap_append,
      List.flatMap_append, List.append_assoc]

end PredicateIndex
