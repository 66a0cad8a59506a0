import Mathlib.Data.List.Nodup
import PredicateIndex.Ledger

/-!
# Laws of ledgers

Reading after writing and after erasing, key by key, and the order of the keys. Writing a key
changes no other entry and erasing a key removes nothing else; the keys of a ledger that is built by
these operations are pairwise distinct, so walking over them meets every entry once.
-/
namespace PredicateIndex.Ledger

variable {α : Type}

/-- No key has an entry in the empty ledger. -/
@[simp] theorem get?_nil (key : String) : get? ([] : Ledger α) key = none := rfl

/-- The first pair of a key is its entry. -/
theorem get?_cons (pair : String × α) (rest : Ledger α) (key : String) :
    get? (pair :: rest) key = if pair.1 = key then some pair.2 else get? rest key := by
  obtain ⟨found, entry⟩ := pair
  rw [get?, List.lookup_cons]
  by_cases same : found = key
  · simp [same]
  · have other : (key == found) = false := by simpa using Ne.symm same
    simp [same, other, get?]

/-- An entry is looked for in the first part of a ledger, then in the second. -/
theorem get?_append (first second : Ledger α) (key : String) :
    get? (first ++ second) key = (get? first key).or (get? second key) := by
  induction first with
  | nil => simp
  | cons pair rest ih =>
    rw [List.cons_append, get?_cons, get?_cons, ih]
    split <;> simp

/-- A written entry is read back, and no other key is touched. -/
theorem get?_put (ledger : Ledger α) (written : String) (entry : α) (key : String) :
    get? (put ledger written entry) key =
      if written = key then some entry else get? ledger key := by
  induction ledger with
  | nil => simp [put, get?_cons]
  | cons pair rest ih =>
    obtain ⟨found, old⟩ := pair
    by_cases same : found = written
    · subst same
      simp only [put, beq_self_eq_true, if_true, get?_cons]
      split <;> rfl
    · simp only [put, beq_iff_eq, same, if_false, get?_cons, ih]
      by_cases here : found = key
      · have other : ¬written = key := fun equal => same (here.trans equal.symm)
        simp [here, other]
      · simp [here]

/-- A written entry is read back. -/
@[simp] theorem get?_put_self (ledger : Ledger α) (key : String) (entry : α) :
    get? (put ledger key entry) key = some entry := by
  rw [get?_put, if_pos rfl]

/-- Writing a key leaves the entries of the other keys. -/
theorem get?_put_ne (ledger : Ledger α) {written key : String} (other : written ≠ key)
    (entry : α) : get? (put ledger written entry) key = get? ledger key := by
  rw [get?_put, if_neg other]

/-- An erased key has no entry, and no other key is touched. -/
theorem get?_remove (ledger : Ledger α) (erased key : String) :
    get? (remove ledger erased) key = if erased = key then none else get? ledger key := by
  induction ledger with
  | nil => simp [remove]
  | cons pair rest ih =>
    simp only [remove, List.filter_cons] at ih ⊢
    by_cases same : pair.1 = erased
    · simp only [same, bne_self_eq_false, Bool.false_eq_true, if_false, ih, get?_cons]
      split <;> rfl
    · simp only [bne_iff_ne, ne_eq, same, not_false_eq_true, if_true, get?_cons, ih]
      by_cases here : pair.1 = key
      · have other : ¬erased = key := fun equal => same (here.trans equal.symm)
        simp [here, other]
      · simp [here]

/-- An erased key has no entry. -/
@[simp] theorem get?_remove_self (ledger : Ledger α) (key : String) :
    get? (remove ledger key) key = none := by
  rw [get?_remove, if_pos rfl]

/-- Erasing a key leaves the entries of the other keys. -/
theorem get?_remove_ne (ledger : Ledger α) {erased key : String} (other : erased ≠ key) :
    get? (remove ledger erased) key = get? ledger key := by
  rw [get?_remove, if_neg other]

/-- Erasing a key without an entry changes nothing. -/
theorem remove_of_absent {ledger : Ledger α} {key : String} (absent : get? ledger key = none) :
    remove ledger key = ledger := by
  induction ledger with
  | nil => rfl
  | cons pair rest ih =>
    rw [get?_cons] at absent
    split at absent
    · cases absent
    · rename_i other
      have kept := ih absent
      simp only [remove, List.filter_cons, bne_iff_ne, ne_eq, other, not_false_eq_true, if_true]
        at kept ⊢
      rw [kept]

/-- A key that is erased after it was written was written for nothing. -/
theorem remove_put (ledger : Ledger α) (key : String) (entry : α) :
    remove (put ledger key entry) key = remove ledger key := by
  induction ledger with
  | nil => simp [put, remove]
  | cons pair rest ih =>
    obtain ⟨found, old⟩ := pair
    by_cases same : found = key
    · simp [put, remove, same]
    · simp only [remove] at ih
      simp [put, remove, same, ih]

/-- A key is erased once and for all. -/
theorem remove_remove (ledger : Ledger α) (key : String) :
    remove (remove ledger key) key = remove ledger key :=
  remove_of_absent (get?_remove_self ledger key)

/-- The keys of a ledger are those with an entry. -/
theorem mem_keys_iff (ledger : Ledger α) (key : String) :
    key ∈ ledger.keys ↔ (get? ledger key).isSome := by
  induction ledger with
  | nil => simp [keys]
  | cons pair rest ih =>
    simp only [keys, List.map_cons, List.mem_cons, get?_cons] at ih ⊢
    by_cases here : pair.1 = key
    · simp [here]
    · simp only [here, if_false, ← ih]
      exact ⟨fun found => found.resolve_left (Ne.symm here), Or.inr⟩

/-- A key without an entry is none of the keys. -/
theorem not_mem_keys {ledger : Ledger α} {key : String} (absent : get? ledger key = none) :
    key ∉ ledger.keys := by
  rw [mem_keys_iff, absent]
  exact Bool.false_ne_true

/-- The entry of a key is one of the pairs. -/
theorem mem_of_get? {ledger : Ledger α} {key : String} {entry : α}
    (found : get? ledger key = some entry) : (key, entry) ∈ ledger := by
  obtain ⟨before, after, listed, -⟩ := List.lookup_eq_some_iff.mp found
  rw [listed]
  exact List.mem_append_cons_self

/-- A ledger in which no key has an entry is empty. -/
theorem eq_nil_of_get? {ledger : Ledger α} (absent : ∀ key, get? ledger key = none) :
    ledger = [] := by
  cases ledger with
  | nil => rfl
  | cons pair rest =>
    have first := absent pair.1
    rw [get?_cons, if_pos rfl] at first
    cases first

/-- Where the keys are distinct, every pair is the entry of its key. -/
theorem get?_of_mem {ledger : Ledger α} (distinct : ledger.keys.Nodup) {key : String} {entry : α}
    (inside : (key, entry) ∈ ledger) : get? ledger key = some entry := by
  induction ledger with
  | nil => cases inside
  | cons pair rest ih =>
    obtain ⟨fresh, distinct⟩ := List.nodup_cons.mp distinct
    rw [get?_cons]
    rcases List.mem_cons.mp inside with rfl | inside
    · exact if_pos rfl
    · rw [if_neg, ih distinct inside]
      rintro rfl
      exact fresh (List.mem_map.mpr ⟨_, inside, rfl⟩)

/-- Where the keys are distinct, going over the pairs is going over the keys. -/
theorem flatMap_eq_keys {β : Type} {ledger : Ledger α} (distinct : ledger.keys.Nodup)
    (f : String × α → List β) :
    ledger.flatMap f = ledger.keys.flatMap fun key =>
      (get? ledger key).toList.flatMap fun entry => f (key, entry) := by
  rw [keys, List.flatMap_map]
  refine List.flatMap_congr fun pair inside => ?_
  rw [get?_of_mem distinct inside]
  simp

/-- An entry that is left after another key was erased was there before. -/
theorem isSome_of_remove {ledger : Ledger α} {erased key : String}
    (found : (get? (remove ledger erased) key).isSome) :
    erased ≠ key ∧ (get? ledger key).isSome := by
  rw [get?_remove] at found
  split at found
  · cases found
  · exact ⟨‹_›, found⟩

/-- An entry that is there after a key was written is the written one or was there before. -/
theorem isSome_of_put {ledger : Ledger α} {written key : String} {entry : α}
    (found : (get? (put ledger written entry) key).isSome) :
    written = key ∨ (get? ledger key).isSome := by
  rw [get?_put] at found
  split at found
  · exact .inl ‹_›
  · exact .inr found

/-- Writing adds no key but the written one. -/
theorem mem_keys_put (ledger : Ledger α) (written : String) (entry : α) (key : String) :
    key ∈ (put ledger written entry).keys ↔ written = key ∨ key ∈ ledger.keys := by
  rw [mem_keys_iff, mem_keys_iff, get?_put]
  by_cases same : written = key <;> simp [same]

/-- A known key that is written keeps its place, and a new one goes to the end. -/
theorem keys_put (ledger : Ledger α) (key : String) (entry : α) :
    (put ledger key entry).keys =
      if key ∈ ledger.keys then ledger.keys else ledger.keys ++ [key] := by
  induction ledger with
  | nil => rfl
  | cons pair rest ih =>
    obtain ⟨found, old⟩ := pair
    by_cases same : found = key
    · simp [put, keys, same]
    · have unequal : key ≠ found := Ne.symm same
      simp only [keys] at ih
      simp only [put, beq_iff_eq, same, if_false, keys, List.map_cons, ih, List.mem_cons, unequal,
        false_or, List.cons_append]
      exact apply_ite (found :: ·) _ _ _

/-- An erased key leaves the others in their order. -/
theorem keys_remove (ledger : Ledger α) (key : String) :
    (remove ledger key).keys = ledger.keys.filter (· != key) := by
  rw [keys, remove, keys, List.filter_map]
  rfl

/-- Writing keeps the keys distinct. -/
theorem nodup_keys_put {ledger : Ledger α} (distinct : ledger.keys.Nodup) (key : String)
    (entry : α) : (put ledger key entry).keys.Nodup := by
  induction ledger with
  | nil => simp [put, keys]
  | cons pair rest ih =>
    obtain ⟨found, old⟩ := pair
    have parts : found ∉ keys rest ∧ (keys rest).Nodup := List.nodup_cons.mp distinct
    by_cases same : found = key
    · simpa only [put, beq_iff_eq, same, if_true, keys, List.map_cons] using distinct
    · simp only [put, beq_iff_eq, same, if_false]
      refine List.nodup_cons.mpr ⟨?_, ih parts.2⟩
      intro again
      rcases (mem_keys_put rest key entry found).mp again with equal | known
      · exact same equal.symm
      · exact parts.1 known

/-- Erasing keeps the keys distinct. -/
theorem nodup_keys_remove {ledger : Ledger α} (distinct : ledger.keys.Nodup) (key : String) :
    (remove ledger key).keys.Nodup :=
  (List.filter_sublist.map Prod.fst).nodup distinct

end PredicateIndex.Ledger
