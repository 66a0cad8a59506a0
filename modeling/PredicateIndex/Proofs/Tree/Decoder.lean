import PredicateIndex.Proofs.Ledger
import PredicateIndex.Tree.Decode

/-!
# Laws of decoding

What is known when a decoder succeeds, rule by rule: decoding in steps succeeds when every step
does, a step in a path only shows in faults, and what is decoded from a field, a list or an optional
place was decoded from a value that stands there or is the default of the field.
-/
namespace PredicateIndex.Decode

variable {α β : Type}

/-- Decoding goes on with what was decoded. -/
@[simp] theorem ok_bind (a : α) (next : α → Decoded β) : (Except.ok a >>= next) = next a := rfl

/-- Decoding in two steps succeeds exactly when both steps do. -/
theorem bind_eq_ok {first : Decoded α} {next : α → Decoded β} {b : β} :
    (first >>= next) = .ok b ↔ ∃ a, first = .ok a ∧ next a = .ok b := by
  cases first with
  | error fault => simp [bind, Except.bind]
  | ok a => simp

/-- Handing out a value is a success. -/
theorem pure_eq_ok {a b : α} : (pure a : Decoded α) = .ok b ↔ a = b := by
  change Except.ok a = .ok b ↔ a = b
  exact Except.ok.injEq a b ▸ Iff.rfl

/-- A step in front of a path leaves a success as it is. -/
@[simp] theorem under_ok (step : PathStep) (a : α) : under step (.ok a) = .ok a := rfl

/-- A step in front of a path makes no success. -/
theorem under_eq_ok {step : PathStep} {decoded : Decoded α} {a : α} :
    under step decoded = .ok a ↔ decoded = .ok a := by
  cases decoded <;> simp [under]

/-- A fault is no success. -/
theorem fail_ne_ok {problem : Problem} {a : α} : (fail problem : Decoded α) ≠ .ok a := by
  simp [fail]

/-- A field that is present is decoded from its value. -/
theorem field_of_get? {fields : Fields} {name : String} {default a : α}
    {decode : Value → Decoded α} {v : Value} (found : fields.get? name = some v)
    (decoded : decode v = .ok a) : field fields name default decode = .ok a := by
  rw [field, found]
  exact under_eq_ok.mpr decoded

/-- What a field gives is its default or was decoded from its value. -/
theorem field_eq_ok {fields : Fields} {name : String} {default a : α} {decode : Value → Decoded α}
    (decoded : field fields name default decode = .ok a) :
    a = default ∨ ∃ v, fields.get? name = some v ∧ decode v = .ok a := by
  rw [field] at decoded
  cases found : fields.get? name with
  | none =>
    rw [found] at decoded
    exact .inl (Except.ok.inj decoded).symm
  | some v =>
    rw [found] at decoded
    exact .inr ⟨v, rfl, under_eq_ok.mp decoded⟩

/-- An optional place is empty where null stands, and else holds what is decoded there. -/
theorem nullable_eq_ok {decode : Value → Decoded α} {v : Value} {found : Option α} :
    nullable decode v = .ok found ↔
      v = .null ∧ found = none ∨ v.isNull = false ∧ ∃ a, decode v = .ok a ∧ found = some a := by
  have present : ∀ decoded : Decoded α,
      decoded.map some = .ok found ↔ ∃ a, decoded = .ok a ∧ found = some a := by
    intro decoded
    cases decoded <;> simp [Except.map, eq_comm]
  cases v with
  | null => simp [nullable, Value.isNull, eq_comm]
  | _ => simpa [nullable, Value.isNull] using present _

/-- A value that is not null is decoded where null stands for absence. -/
theorem nullable_of_present {decode : Value → Decoded α} {v : Value} {a : α}
    (present : v.isNull = false) (decoded : decode v = .ok a) :
    nullable decode v = .ok (some a) :=
  nullable_eq_ok.mpr (.inr ⟨present, a, decoded, rfl⟩)

/-- The elements of a list are decoded one by one, whatever their positions. -/
theorem elements_map_map {γ : Type} {write : γ → Value} {read : γ → α} {decode : Value → Decoded α}
    (position : Nat) (list : List γ) (decoded : ∀ c ∈ list, decode (write c) = .ok (read c)) :
    elements decode position (list.map write) = .ok (list.map read) := by
  induction list generalizing position with
  | nil => rfl
  | cons c rest ih =>
    have head := decoded c List.mem_cons_self
    have tail := ih (position + 1) fun d inside => decoded d (List.mem_cons_of_mem c inside)
    simp only [List.map_cons, elements, head, tail, under_ok, ok_bind]
    rfl

/-- Elements that are written one by one are read back. -/
theorem elements_map {write : α → Value} {decode : Value → Decoded α} (position : Nat)
    (list : List α) (decoded : ∀ a ∈ list, decode (write a) = .ok a) :
    elements decode position (list.map write) = .ok list := by
  have each : elements decode position (list.map write) = .ok (list.map id) :=
    elements_map_map position list decoded
  rwa [List.map_id] at each

/-- Every element that was decoded was decoded from an element of the list. -/
theorem elements_eq_ok {decode : Value → Decoded α} {position : Nat} {values : List Value}
    {list : List α} (decoded : elements decode position values = .ok list) :
    ∀ a ∈ list, ∃ v ∈ values, decode v = .ok a := by
  induction values generalizing position list with
  | nil =>
    simp only [elements, Except.ok.injEq] at decoded
    simp [← decoded]
  | cons v rest ih =>
    simp only [elements, bind_eq_ok, under_eq_ok, pure_eq_ok] at decoded
    obtain ⟨first, head, others, tail, rfl⟩ := decoded
    intro a inside
    rcases List.mem_cons.mp inside with rfl | later
    · exact ⟨v, List.mem_cons_self, head⟩
    · obtain ⟨w, among, read⟩ := ih tail a later
      exact ⟨w, List.mem_cons_of_mem v among, read⟩

/-- Every element of a list that is decoded is decoded itself. -/
theorem decoded_of_mem_elements {decode : Value → Decoded α} {position : Nat} {values : List Value}
    {list : List α} (decoded : elements decode position values = .ok list) :
    ∀ v ∈ values, ∃ a ∈ list, decode v = .ok a := by
  induction values generalizing position list with
  | nil => simp
  | cons first rest ih =>
    simp only [elements, bind_eq_ok, under_eq_ok, pure_eq_ok] at decoded
    obtain ⟨a, head, others, tail, rfl⟩ := decoded
    intro v among
    rcases List.mem_cons.mp among with rfl | later
    · exact ⟨a, List.mem_cons_self, head⟩
    · obtain ⟨b, inside, read⟩ := ih tail v later
      exact ⟨b, List.mem_cons_of_mem a inside, read⟩

/-- Every element of a field that holds a list was decoded from some value. -/
theorem decoded_of_mem_field_tuple {fields : Fields} {name : String} {decode : Value → Decoded α}
    {list : List α} (decoded : field fields name [] (tuple decode) = .ok list) {a : α}
    (inside : a ∈ list) : ∃ v, decode v = .ok a := by
  rcases field_eq_ok decoded with rfl | ⟨v, -, read⟩
  · simp at inside
  · cases v with
    | list values =>
      obtain ⟨w, -, element⟩ := elements_eq_ok read a inside
      exact ⟨w, element⟩
    | _ => exact absurd read fail_ne_ok

/-- What an optional field holds was decoded from some value. -/
theorem decoded_of_mem_field_nullable {fields : Fields} {name : String}
    {decode : Value → Decoded α} {found : Option α}
    (decoded : field fields name none (nullable decode) = .ok found) {a : α} (inside : a ∈ found) :
    ∃ v, decode v = .ok a := by
  obtain rfl := Option.mem_def.mp inside
  rcases field_eq_ok decoded with absent | ⟨v, -, read⟩
  · simp at absent
  · rcases nullable_eq_ok.mp read with ⟨-, absent⟩ | ⟨-, b, element, same⟩
    · simp at absent
    · obtain rfl := Option.some.inj same
      exact ⟨v, element⟩

end PredicateIndex.Decode
