import Mathlib.Data.Prod.Lex
import Mathlib.Order.Interval.Set.Defs
import Mathlib.Order.Lattice
import PredicateIndex.Range

/-!
# The order of ranges

Positions are ordered by line, then by character. The three guards that decide whether a range holds
a position ask whether the position lies in the closed interval from the start of the range to its
end, wherever the two ends lie. Ranges are ordered by inclusion, and the union of two ranges is their
least upper bound in this order, so the laws of union are those of a semilattice.
-/
namespace PredicateIndex

namespace Position

/-- The line and the character of a position as a pair in lexicographic order. -/
def key (p : Position) : ℤ ×ₗ ℤ := toLex (p.line, p.character)

/-- A position is determined by its line and its character. -/
theorem key_injective : Function.Injective key := by
  rintro ⟨line, character⟩ ⟨line', character'⟩ same
  simpa [key] using same

/-- Positions are ordered by line, then by character. -/
instance : LinearOrder Position := LinearOrder.lift' key key_injective

/-- A position is at or before another on an earlier line, or on the same line at or before it. -/
theorem le_iff {p q : Position} :
    p ≤ q ↔ p.line < q.line ∨ p.line = q.line ∧ p.character ≤ q.character :=
  Prod.Lex.le_iff

/-- A position is before another on an earlier line, or on the same line before it. -/
theorem lt_iff {p q : Position} :
    p < q ↔ p.line < q.line ∨ p.line = q.line ∧ p.character < q.character :=
  Prod.Lex.lt_iff

/-- The test for the earlier of two positions is the strict order. -/
theorem before_iff {p q : Position} : p.before q = true ↔ p < q := by
  simp [before, lt_iff]

/-- The earlier of two positions is their infimum. -/
theorem min_eq_inf (p q : Position) : p.min q = p ⊓ q := by
  unfold min
  split
  · rename_i earlier
    exact (inf_eq_right.mpr (before_iff.mp earlier).le).symm
  · rename_i later
    exact (inf_eq_left.mpr (not_lt.mp fun earlier => later (before_iff.mpr earlier))).symm

/-- The later of two positions is their supremum. -/
theorem max_eq_sup (p q : Position) : p.max q = p ⊔ q := by
  unfold max
  split
  · rename_i earlier
    exact (sup_eq_right.mpr (before_iff.mp earlier).le).symm
  · rename_i later
    exact (sup_eq_left.mpr (not_lt.mp fun earlier => later (before_iff.mpr earlier))).symm

/-- The position in the source of a position in an editor, whose lines are counted from zero. -/
def toSource (p : Position) : Position := ⟨p.line + 1, p.character⟩

/-- Every position in the source is that of a position in an editor. -/
theorem toSource_surjective : Function.Surjective toSource := by
  rintro ⟨line, character⟩
  exact ⟨⟨line - 1, character⟩, by simp [toSource]⟩

end Position

/-- The guards on lines and characters ask for the closed interval from the start to the end. -/
theorem EditorRange.contains_iff (r : EditorRange) (p : Position) :
    r.contains p = true ↔ p ∈ Set.Icc r.start r.stop := by
  rw [Set.mem_Icc, Position.le_iff, Position.le_iff, contains]
  split
  · rename_i outside
    simp only [Bool.or_eq_true, decide_eq_true_eq] at outside
    exact iff_of_false Bool.false_ne_true (by omega)
  · rename_i lines
    simp only [Bool.or_eq_true, decide_eq_true_eq] at lines
    split
    · rename_i early
      simp only [Bool.and_eq_true, beq_iff_eq, decide_eq_true_eq] at early
      exact iff_of_false Bool.false_ne_true (by omega)
    · rename_i started
      simp only [Bool.and_eq_true, beq_iff_eq, decide_eq_true_eq] at started
      split
      · rename_i late
        simp only [Bool.and_eq_true, beq_iff_eq, decide_eq_true_eq] at late
        exact iff_of_false Bool.false_ne_true (by omega)
      · rename_i ended
        simp only [Bool.and_eq_true, beq_iff_eq, decide_eq_true_eq] at ended
        exact iff_of_true rfl (by omega)

namespace SourceRange

/-- A range holds the positions of the closed interval from its start to its end. -/
theorem contains_iff (r : SourceRange) (p : Position) :
    r.contains p = true ↔ p.toSource ∈ Set.Icc r.start r.stop := by
  rw [contains, EditorRange.contains_iff, Set.mem_Icc, Set.mem_Icc]
  simp only [Position.le_iff, toEditor, Position.toSource]
  omega

/-- Ranges are ordered by inclusion: a range lies in one that starts no later and ends no earlier. -/
instance : PartialOrder SourceRange where
  le a b := b.start ≤ a.start ∧ a.stop ≤ b.stop
  le_refl _ := ⟨le_rfl, le_rfl⟩
  le_trans _ _ _ inner outer := ⟨outer.1.trans inner.1, inner.2.trans outer.2⟩
  le_antisymm a b inner outer := by
    obtain ⟨start, stop⟩ := a
    obtain ⟨start', stop'⟩ := b
    obtain rfl : start = start' := le_antisymm outer.1 inner.1
    obtain rfl : stop = stop' := le_antisymm inner.2 outer.2
    rfl

/-- What it means that a range lies in another. -/
theorem le_iff {a b : SourceRange} : a ≤ b ↔ b.start ≤ a.start ∧ a.stop ≤ b.stop := Iff.rfl

/-- The union starts at the earlier start. -/
theorem union_start (a b : SourceRange) : (a.union b).start = a.start ⊓ b.start :=
  Position.min_eq_inf _ _

/-- The union ends at the later end. -/
theorem union_stop (a b : SourceRange) : (a.union b).stop = a.stop ⊔ b.stop :=
  Position.max_eq_sup _ _

/-- A range lies around the union of two ranges exactly if it lies around both. -/
theorem union_le_iff {a b r : SourceRange} : a.union b ≤ r ↔ a ≤ r ∧ b ≤ r := by
  rw [le_iff, union_start, union_stop, le_inf_iff, sup_le_iff]
  exact and_and_and_comm

/-- The union of two ranges is their least upper bound. -/
instance : SemilatticeSup SourceRange where
  sup := union
  le_sup_left _ _ := (union_le_iff.mp le_rfl).1
  le_sup_right _ _ := (union_le_iff.mp le_rfl).2
  sup_le _ _ _ left right := union_le_iff.mpr ⟨left, right⟩

/-- A range holds every position of a range that lies in it. -/
theorem contains_of_le {a r : SourceRange} (inside : a ≤ r) {p : Position}
    (held : a.contains p = true) : r.contains p = true := by
  rw [contains_iff] at held ⊢
  exact ⟨inside.1.trans held.1, held.2.trans inside.2⟩

/-- A range that is not inverted lies in every range that holds all its positions. -/
theorem le_of_contains {a r : SourceRange} (ordered : a.start ≤ a.stop)
    (held : ∀ p, a.contains p = true → r.contains p = true) : a ≤ r := by
  -- Both ends of the range are positions of it.
  have ends : ∀ q ∈ Set.Icc a.start a.stop, q ∈ Set.Icc r.start r.stop := by
    intro q inside
    obtain ⟨p, rfl⟩ := Position.toSource_surjective q
    exact (contains_iff r p).mp (held p ((contains_iff a p).mpr inside))
  exact ⟨(ends a.start ⟨le_rfl, ordered⟩).1, (ends a.stop ⟨ordered, le_rfl⟩).2⟩

end SourceRange

end PredicateIndex
