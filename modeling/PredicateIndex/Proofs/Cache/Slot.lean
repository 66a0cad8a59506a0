import PredicateIndex.Cache.Basic
import PredicateIndex.Proofs.Ledger

/-!
# What the cache has of one file

The cache keeps two ledgers, one of indexes and one of generations. Of a single file it has a slot:
the index and the generation that are found under its name. Installing an index and dropping an
entry change the slot of the file that they name and no other, and what becomes of the slot depends
on the slot alone. So what a sequence of operations does to a file can be told without the ledgers.
-/
namespace PredicateIndex

/-- What the cache has of one file. -/
structure Slot where
  /-- The installed index. -/
  index : Option FileIndex := none
  /-- The recorded generation. -/
  generation : Option Int := none
  deriving DecidableEq, Repr

namespace Slot

/-- Whether an index is refused because a newer generation than its own is recorded. -/
def refuses (slot : Slot) (generation : Option Int) : Bool :=
  generation.any fun offered => slot.generation.any fun recorded => offered < recorded

/-- The slot after an index is offered: it is taken unless it is refused, and an index without a
generation leaves the recorded one. -/
def receive (slot : Slot) (index : FileIndex) (generation : Option Int) : Slot :=
  if slot.refuses generation then slot
  else { index := some index, generation := generation.or slot.generation }

/-- The generation that is recorded after an index is offered is that of the index or was recorded
before. -/
theorem generation_of_receive {slot : Slot} {index : FileIndex} {generation : Option Int}
    {number : Int} (recorded : (slot.receive index generation).generation = some number) :
    generation = some number ∨ slot.generation = some number := by
  unfold receive at recorded
  split at recorded
  · exact .inr recorded
  · exact (Option.or_eq_some_iff.mp recorded).imp_right And.right

/-- A recorded generation is not lost and never goes down when an index is offered. -/
theorem generation_le_receive {slot : Slot} {recorded : Int}
    (known : slot.generation = some recorded) (index : FileIndex) (generation : Option Int) :
    ∃ later, (slot.receive index generation).generation = some later ∧ recorded ≤ later := by
  unfold receive
  split
  · exact ⟨recorded, known, Int.le_refl _⟩
  · rename_i taken
    cases generation with
    | none => exact ⟨recorded, known, Int.le_refl _⟩
    | some offered =>
      have bound : ¬offered < recorded := by simpa [refuses, known] using taken
      exact ⟨offered, rfl, by omega⟩

end Slot

namespace Cache

/-- What the cache has of a file. -/
def slot (cache : Cache) (file : String) : Slot where
  index := cache.get? file
  generation := cache.generation? file

variable (cache : Cache) (name file : String) (index : FileIndex) (generation : Option Int)

/-- An installation comes too late exactly if the slot of its file refuses it. -/
theorem isStale_eq_refuses :
    cache.isStale name generation = (cache.slot name).refuses generation := by
  unfold isStale
  cases generation with
  | none => rfl
  | some offered =>
    simp only [Slot.refuses, slot, Option.any_some]
    cases cache.generation? name <;> rfl

/-- An index that is written is found under its file, with its generation if it has one. -/
theorem slot_write : (cache.write name index generation).slot file =
    if name = file then
      { index := some index, generation := generation.or (cache.generation? file) }
    else cache.slot file := by
  have entry : (cache.write name index generation).get? file =
    if name = file then some index else cache.get? file := Ledger.get?_put _ _ _ _
  have recorded : (cache.write name index generation).generation? file =
      if name = file then generation.or (cache.generation? file) else cache.generation? file := by
    cases generation with
    | none => exact (ite_self _).symm
    | some number => exact Ledger.get?_put _ _ _ _
  rw [slot, entry, recorded]
  split <;> rfl

/-- Installing an index offers it to the slot of its file and leaves the other slots. -/
theorem slot_install : (cache.install name index generation).2.slot file =
    if name = file then (cache.slot file).receive index generation else cache.slot file := by
  rw [install, isStale_eq_refuses]
  split
  · rename_i refused
    split
    · rename_i same
      subst same
      exact (if_pos refused).symm
    · rfl
  · rename_i taken
    rw [slot_write]
    split
    · rename_i same
      subst same
      exact (if_neg taken).symm
    · rfl

/-- Dropping the entry of a file empties its slot and leaves the others. -/
theorem slot_evict :
    (cache.evict name).slot file = if name = file then {} else cache.slot file := by
  have entry : (cache.evict name).get? file = if name = file then none else cache.get? file :=
    Ledger.get?_remove _ _ _
  have recorded : (cache.evict name).generation? file =
    if name = file then none else cache.generation? file := Ledger.get?_remove _ _ _
  rw [slot, entry, recorded]
  split <;> rfl

/-- An index that is written replaces the entry of its file and leaves the others. -/
theorem evict_write : (cache.write name index generation).evict name = cache.evict name := by
  have entries : (cache.entries.put name index).remove name = cache.entries.remove name :=
    Ledger.remove_put _ _ _
  cases generation with
  | none => simp only [write, evict, entries]
  | some number =>
    have numbers : (cache.generations.put name number).remove name =
      cache.generations.remove name := Ledger.remove_put _ _ _
    simp only [write, evict, entries, numbers]

/-- An installation that does not come too late is accepted. -/
theorem install_of_timely (timely : cache.isStale name generation = false) :
    cache.install name index generation = (true, cache.write name index generation) :=
  if_neg (Bool.eq_false_iff.mp timely)

/-- An installation that is refused leaves the whole cache. -/
theorem install_of_refused (refused : (cache.install name index generation).1 = false) :
    (cache.install name index generation).2 = cache := by
  unfold install at refused ⊢
  split at refused
  · exact congrArg Prod.snd (if_pos ‹_›)
  · cases refused

end Cache

end PredicateIndex
