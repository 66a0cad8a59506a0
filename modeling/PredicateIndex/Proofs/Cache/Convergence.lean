import Mathlib.Data.List.Induction
import Mathlib.Data.List.Pairwise
import Mathlib.Data.List.Perm.Basic
import PredicateIndex.Proofs.Cache.Slot

/-!
# Installations converge

Analyses of a file end in any order. Whatever the order is in which their indexes are offered to the
cache, what the cache has of the file afterwards is the index of the newest generation, if that is
not older than what was recorded before. The reason is that two offers of different generations may
be exchanged: the older one is refused after the newer one and replaced before it.
-/
namespace PredicateIndex

/-- An index that is offered to the cache under a generation. -/
structure Offer where
  /-- The file. -/
  file : String
  /-- Its index. -/
  index : FileIndex
  /-- The generation of the analysis. -/
  generation : Int

/-- The newest of the offers for a file. -/
def newest? (file : String) (offers : List Offer) : Option Offer :=
  (offers.filter fun offer => offer.file = file).maxOn? Offer.generation

namespace Slot

/-- The slot of a file after an offer for it. -/
def take (slot : Slot) (offer : Offer) : Slot := slot.receive offer.index (some offer.generation)

/-- The slot of a file for which several offers are made, of which one is the newest: that one is
there if nothing newer was recorded, and else what was there before. -/
def settle (slot : Slot) : Option Offer → Slot
  | none => slot
  | some newest =>
    if slot.generation.all (· ≤ newest.generation) then
      { index := some newest.index, generation := some newest.generation }
    else slot

/-- A single offer is the newest one. -/
theorem take_eq_settle (slot : Slot) (offer : Offer) : slot.take offer = slot.settle offer := by
  unfold take receive refuses settle
  cases recorded : slot.generation with
  | none => rfl
  | some number =>
    by_cases late : offer.generation < number
    · have newer : ¬number ≤ offer.generation := by omega
      simp [late, newer]
    · have timely : number ≤ offer.generation := by omega
      simp [late, timely]

/-- One more offer replaces the newest one if it is newer, and is refused if it is older. -/
theorem settle_take (slot : Slot) {newest offer : Offer}
    (apart : newest.generation ≠ offer.generation) :
    (slot.settle newest).take offer = slot.settle (some (maxOn Offer.generation newest offer)) := by
  rw [take_eq_settle]
  by_cases newer : newest.generation < offer.generation
  · rw [maxOn_eq_right_of_lt newer]
    by_cases timely : slot.generation.all (· ≤ newest.generation)
    · have later : slot.generation.all (· ≤ offer.generation) := by
        cases recorded : slot.generation with
        | none => rfl
        | some number =>
          simp only [recorded, Option.all_some, decide_eq_true_eq] at timely ⊢
          omega
      have kept : newest.generation ≤ offer.generation := Int.le_of_lt newer
      simp [settle, timely, later, kept]
    · simp only [settle, timely]
      rfl
  · have older : ¬newest.generation ≤ offer.generation := by omega
    rw [maxOn_eq_left (Int.not_lt.mp newer)]
    by_cases timely : slot.generation.all (· ≤ newest.generation)
    · simp [settle, timely, older]
    · have refused : ¬slot.generation.all (· ≤ offer.generation) := by
        cases recorded : slot.generation with
        | none => simp [recorded] at timely
        | some number =>
          simp only [recorded, Option.all_some, decide_eq_true_eq] at timely ⊢
          omega
      simp [settle, timely, refused]

/-- Two offers of different generations may be exchanged. -/
theorem take_comm (slot : Slot) {first second : Offer}
    (apart : first.generation ≠ second.generation) :
    (slot.take first).take second = (slot.take second).take first := by
  rw [take_eq_settle slot first, take_eq_settle slot second, settle_take slot apart,
    settle_take slot apart.symm]
  rcases Int.lt_or_gt_of_ne apart with older | newer
  · rw [maxOn_eq_right_of_lt older, maxOn_eq_left (Int.le_of_lt older)]
  · rw [maxOn_eq_left (Int.le_of_lt newer), maxOn_eq_right_of_lt newer]

/-- Offers of different generations that are made one after another leave the newest one. -/
theorem foldl_take (slot : Slot) {offers : List Offer}
    (distinct : offers.Pairwise fun first second => first.generation ≠ second.generation) :
    offers.foldl take slot = slot.settle (offers.maxOn? Offer.generation) := by
  -- the last offer meets the newest of those before it
  induction offers using List.reverseRecOn with
  | nil => rfl
  | append_singleton earlier last ih =>
    obtain ⟨distinct, -, apart⟩ := List.pairwise_append.mp distinct
    rw [List.foldl_append, List.foldl_cons, List.foldl_nil, ih distinct, List.maxOn?_append,
      List.maxOn?_singleton]
    cases found : earlier.maxOn? Offer.generation with
    | none => exact take_eq_settle slot last
    | some newest =>
      have inside : newest ∈ earlier := List.maxOn?_mem found
      exact settle_take slot (apart newest inside last (by simp))

end Slot

namespace Cache

/-- The cache after an offer. -/
def offer (cache : Cache) (offer : Offer) : Cache :=
  (cache.install offer.file offer.index (some offer.generation)).2

/-- What the cache has of a file after some offers depends on the offers for the file. -/
theorem slot_foldl_offer (cache : Cache) (offers : List Offer) (file : String) :
    (offers.foldl Cache.offer cache).slot file =
      (offers.filter fun offer => offer.file = file).foldl Slot.take (cache.slot file) := by
  induction offers generalizing cache with
  | nil => rfl
  | cons first rest ih =>
    rw [List.foldl_cons, ih, Cache.offer, slot_install, List.filter_cons]
    by_cases same : first.file = file
    · simp only [same, if_true, decide_true, List.foldl_cons]
      rfl
    · simp only [same, if_false, decide_false, Bool.false_eq_true]

/-- Offers with different generations for each file leave the same of every file in whatever order
they are made: the newest of the offers for it if nothing newer was recorded before, and else what
was there before. -/
theorem offers_converge (cache : Cache) (offers order : List Offer)
    (distinct : offers.Pairwise fun first second =>
      first.file = second.file → first.generation ≠ second.generation)
    (permuted : order.Perm offers) (file : String) :
    (order.foldl Cache.offer cache).slot file =
      (cache.slot file).settle (newest? file offers) := by
  have apart : (offers.filter fun offer => offer.file = file).Pairwise
      fun first second => first.generation ≠ second.generation := by
    refine List.pairwise_filter.mpr (distinct.imp ?_)
    intro first second different here there
    exact different ((of_decide_eq_true here).trans (of_decide_eq_true there).symm)
  have exchange : ∀ first ∈ order.filter (fun offer => offer.file = file),
      ∀ second ∈ order.filter (fun offer => offer.file = file), ∀ slot : Slot,
        (slot.take first).take second = (slot.take second).take first := by
    intro first here second there slot
    by_cases same : first = second
    · rw [same]
    · have own := permuted.filter fun offer => offer.file = file
      have symmetric : Std.Symm fun first second : Offer =>
        first.generation ≠ second.generation := ⟨fun _ _ => Ne.symm⟩
      exact slot.take_comm (apart.forall (own.mem_iff.mp here) (own.mem_iff.mp there) same)
  calc (order.foldl Cache.offer cache).slot file
    _ = (order.filter fun offer => offer.file = file).foldl Slot.take (cache.slot file) :=
      slot_foldl_offer cache order file
    _ = (offers.filter fun offer => offer.file = file).foldl Slot.take (cache.slot file) :=
      (permuted.filter _).foldl_eq' exchange _
    _ = (cache.slot file).settle (newest? file offers) := (cache.slot file).foldl_take apart

/-- A cache with an index of one file that was installed without a generation, and one of another
file under the fifth. -/
def unevenCache : Cache where
  entries := [("a.pl", { filePath := "old" }), ("b.pl", { filePath := "kept" })]
  generations := [("b.pl", 5)]

/-- Two offers for the one file and an outdated offer for the other. -/
def latecomers : List Offer :=
  [⟨"a.pl", { filePath := "third" }, 3⟩, ⟨"b.pl", { filePath := "fourth" }, 4⟩,
    ⟨"a.pl", { filePath := "seventh" }, 7⟩]

/-- When the offers are made in the opposite order, the newest one is found for the one file, and
the other file has what it had. -/
theorem offers_converge_latecomers :
    (latecomers.reverse.foldl Cache.offer unevenCache).slot "a.pl" =
        { index := some { filePath := "seventh" }, generation := some 7 } ∧
      (latecomers.reverse.foldl Cache.offer unevenCache).slot "b.pl" =
        { index := some { filePath := "kept" }, generation := some 5 } := by
  have distinct : latecomers.Pairwise fun first second =>
      first.file = second.file → first.generation ≠ second.generation := by decide
  have converge := offers_converge unevenCache latecomers latecomers.reverse distinct
    latecomers.reverse_perm
  exact ⟨converge "a.pl", converge "b.pl"⟩

end Cache

end PredicateIndex
