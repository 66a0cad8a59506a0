import Mathlib
import PredicateIndex.Index.Basic

/-!
# Indicators name one predicate

The written form of a predicate is its name, a slash and its arity. A name may hold slashes and
digits, but the numeral of an arity holds no slash, so the last slash divides the two and the
written form determines both.
-/
namespace PredicateIndex

/-- The numeral of an integer has no slash. -/
theorem slash_not_mem_toString (n : Int) : '/' ∉ (toString n).toList := by
  have digits : ∀ m : Nat, '/' ∉ m.repr.toList := by
    intro m inside
    rw [Nat.toList_repr] at inside
    have digit := Nat.isDigit_of_mem_toDigits (by decide) (by decide) inside
    exact absurd digit (by decide)
  rw [Int.toString_eq_repr, Int.repr_eq_if]
  split
  · exact digits _
  · rw [String.toList_append, List.mem_append, not_or]
    exact ⟨by decide, digits _⟩

/-- What stands after the last separator, and what stands before it, is determined by the whole. -/
theorem append_cons_inj_of_last {α : Type} {separator : α} {a b x y : List α}
    (outsideX : separator ∉ x) (outsideY : separator ∉ y)
    (same : a ++ separator :: x = b ++ separator :: y) : a = b ∧ x = y := by
  rcases List.append_eq_append_iff.mp same with ⟨c, rfl, tail⟩ | ⟨c, rfl, tail⟩
  · cases c with
    | nil => exact ⟨by simp, by simpa using tail⟩
    | cons first rest =>
      obtain ⟨-, rfl⟩ := List.cons.inj tail
      simp at outsideX
  · cases c with
    | nil => exact ⟨by simp, by simpa using tail.symm⟩
    | cons first rest =>
      obtain ⟨-, rfl⟩ := List.cons.inj tail
      simp at outsideY

/-- Two predicates with the same written form have the same name and the same arity. -/
theorem indicator_inj {name name' : String} {arity arity' : Int} :
    indicator name arity = indicator name' arity' ↔ name = name' ∧ arity = arity' := by
  constructor
  · intro same
    have characters : name.toList ++ '/' :: (toString arity).toList =
        name'.toList ++ '/' :: (toString arity').toList := by
      simpa [indicator] using congrArg String.toList same
    obtain ⟨names, numerals⟩ := append_cons_inj_of_last (slash_not_mem_toString arity)
      (slash_not_mem_toString arity') characters
    exact ⟨String.toList_inj.mp names, Int.repr_inj.mp (String.toList_inj.mp numerals)⟩
  · rintro ⟨rfl, rfl⟩
    rfl

end PredicateIndex
