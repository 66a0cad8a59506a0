import Mathlib.Logic.Function.Iterate
import PredicateIndex.Index.Calls

/-!
# The order in which calls are found

The calls in terms are found without recursion: a stack holds the terms that are still to be looked
at, and each round takes one off and puts its children on in reverse order, so that the first child
is looked at next. Main result: the loop comes to an end, after no more rounds than there are nodes,
and it has then found what a walk by recursion finds, a term before its parts and the parts from left
to right. The work list that is run is this loop with the stack read from its top.
-/
namespace PredicateIndex

namespace Term

/-- The calls of terms one after the other are the calls of each of them. -/
theorem callsOfAll_eq (terms : List Term) : callsOfAll terms = (terms.map some).flatMap calls? := by
  induction terms with
  | nil => rw [callsOfAll, List.map_nil, List.flatMap_nil]
  | cons t rest ih => rw [callsOfAll, ih, List.map_cons, List.flatMap_cons, calls?]

/-- The calls of a term are its own call and those of its children. -/
theorem calls_eq (t : Term) : t.calls = t.ownCall?.toList ++ t.children.flatMap calls? := by
  cases t with
  | compound mark name arity params => rw [calls, callsOfAll_eq]; rfl
  | operation mark symbol left right => simp [calls, ownCall?, children]
  | list mark items head tail =>
    by_cases empty : items.isEmpty
    · simp [calls, ownCall?, children, empty]
    · simp [calls, ownCall?, children, empty, callsOfAll_eq]
  | group mark content => rw [calls, callsOfAll_eq]; rfl
  | param mark value => simp [calls, ownCall?, children]
  | _ => simp [calls, ownCall?, children]

end Term

namespace Calls

/-- A work list finds the calls of its terms one after the other. -/
theorem collect_eq_flatMap (work : List (Option Term)) :
    collect work = work.flatMap Term.calls? := by
  fun_induction collect work with
  | case1 => rfl
  | case2 rest ih => rw [ih, List.flatMap_cons, Term.calls?, List.nil_append]
  | case3 t rest ih =>
    rw [ih, List.flatMap_append, List.flatMap_cons, Term.calls?, Term.calls_eq, List.append_assoc]

/-- The loop between two rounds. -/
structure Round where
  /-- The calls that were found so far. -/
  found : List CallSite := []
  /-- The terms that are still to be looked at, with the next one at the end. -/
  stack : List (Option Term)

namespace Round

/-- The loop before its first round: the first term lies on top. -/
def first (terms : List (Option Term)) : Round := { stack := terms.reverse }

/-- The loop after one more round: the top of the stack is taken off, its own call is noted, and its
children are put on, the last one first. With an empty stack the loop has ended. -/
def next (round : Round) : Round :=
  match round.stack.getLast? with
  | none => round
  | some none => { round with stack := round.stack.dropLast }
  | some (some t) =>
    { found := round.found ++ t.ownCall?.toList
      stack := round.stack.dropLast ++ t.children.reverse }

/-- A round with an absent term on top takes it off. -/
theorem next_absent (found : List CallSite) (rest : List (Option Term)) :
    next { found, stack := (none :: rest).reverse } = { found, stack := rest.reverse } := by
  simp [next]

/-- A round with a term on top replaces it by its children. -/
theorem next_present (found : List CallSite) (t : Term) (rest : List (Option Term)) :
    next { found, stack := (some t :: rest).reverse } =
      { found := found ++ t.ownCall?.toList, stack := (t.children ++ rest).reverse } := by
  simp [next]

/-- The loop comes to the end of any stack and has then added the calls of a work list with the same
terms. -/
theorem iterate_next (found : List CallSite) (work : List (Option Term)) :
    ∃ rounds ≤ Term.pending work, next^[rounds] { found, stack := work.reverse } =
      { found := found ++ collect work, stack := [] } := by
  -- The rest of the stack is part of the statement, as in the recursion of the work list.
  fun_induction collect work generalizing found with
  | case1 => exact ⟨0, Nat.zero_le _, by simp⟩
  | case2 rest ih =>
    obtain ⟨rounds, bound, ended⟩ := ih found
    refine ⟨rounds + 1, ?_, ?_⟩
    · simp only [Term.pending, Term.weight?]
      omega
    · rw [Function.iterate_succ_apply, next_absent, ended]
  | case3 t rest ih =>
    obtain ⟨rounds, bound, ended⟩ := ih (found ++ t.ownCall?.toList)
    refine ⟨rounds + 1, ?_, ?_⟩
    · have fewer := Term.pending_children_lt t
      rw [Term.pending_append] at bound
      simp only [Term.pending, Term.weight?]
      omega
    · rw [Function.iterate_succ_apply, next_present, ended, List.append_assoc]

end Round

/-- The loop over a stack ends, and what it has found, like what the work list finds, are the calls
of the terms by recursion: for each term that is present its own call, then those of its parts from
left to right. -/
theorem loop_ends_with_calls (terms : List (Option Term)) :
    collect terms = terms.flatMap Term.calls? ∧
      ∃ rounds ≤ Term.pending terms, Round.next^[rounds] (.first terms) =
        { found := terms.flatMap Term.calls?, stack := [] } := by
  refine ⟨collect_eq_flatMap terms, ?_⟩
  obtain ⟨rounds, bound, ended⟩ := Round.iterate_next [] terms
  exact ⟨rounds, bound, by rw [Round.first, ended, List.nil_append, collect_eq_flatMap]⟩

end Calls

end PredicateIndex
