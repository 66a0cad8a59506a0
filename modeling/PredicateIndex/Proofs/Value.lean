import PredicateIndex.Proofs.Ledger
import PredicateIndex.Value

/-!
# What is left of a value that is pruned

A value is pruned by dropping the null fields of its objects and then the debugging payloads, at any
depth. The fields that are left are read as before, each as a pruned value; null and payload fields
are absent. If no list in the value has a null among its elements, no null and no payload stands
anywhere in what is left.
-/
namespace PredicateIndex.Value

/-- A value without the null fields and the payloads of its objects, at any depth. -/
def pruned (v : Value) : Value := v.dropNulls.stripRaw

/-- Whether a field is left when its object is pruned. -/
def stays (entry : String × Value) : Bool := !entry.2.isNull && entry.1 != "raw"

/-- The fields of an object that are neither null nor a payload, each of them pruned. -/
def prunedFields (fields : Fields) : Fields :=
  (fields.filter stays).map fun entry => (entry.1, entry.2.pruned)

/-- A field that stays is one that is neither null nor a payload. -/
theorem stays_iff {entry : String × Value} :
    stays entry = true ↔ entry.2.isNull = false ∧ entry.1 ≠ "raw" := by
  simp [stays]

/-- A list is pruned element by element. -/
theorem pruned_list (items : List Value) : (Value.list items).pruned = .list (items.map pruned) := by
  simp only [pruned, dropNulls, stripRaw, dropKeys, list.injEq]
  induction items with
  | nil => rfl
  | cons v rest ih => simp only [dropNullsList, dropKeysList, ih, List.map_cons, pruned, stripRaw]

/-- An object is pruned field by field. -/
theorem pruned_object (fields : Fields) :
    (Value.object fields).pruned = .object (prunedFields fields) := by
  simp only [pruned, dropNulls, stripRaw, dropKeys, object.injEq]
  induction fields with
  | nil => rfl
  | cons entry rest ih =>
    obtain ⟨key, v⟩ := entry
    simp only [prunedFields] at ih
    by_cases null : v.isNull
    · simp [dropNullsFields, prunedFields, stays, null, ih]
    · by_cases payload : key = "raw"
      · simp [dropNullsFields, dropKeysFields, prunedFields, stays, null, payload, ih]
      · simp [dropNullsFields, dropKeysFields, prunedFields, stays, null, payload, ih, pruned,
          stripRaw]

/-- A value is another one or stands in it, at any depth. -/
inductive Within (part : Value) : Value → Prop where
  /-- A value stands in itself. -/
  | here : Within part part
  /-- What stands in an element stands in the list. -/
  | element {items : List Value} {v : Value} (inside : v ∈ items) (deeper : Within part v) :
    Within part (.list items)
  /-- What stands in the value of a field stands in the object. -/
  | field {fields : Fields} {key : String} {v : Value} (inside : (key, v) ∈ fields)
    (deeper : Within part v) : Within part (.object fields)

/-- Nowhere in a value stands a null, or an object with a payload. -/
def Clean (v : Value) : Prop :=
  ∀ part : Value, part.Within v →
    part ≠ .null ∧ ∀ fields : Fields, part = .object fields → "raw" ∉ fields.keys

/-- A list of clean values is clean. -/
theorem clean_list {items : List Value} (each : ∀ v ∈ items, v.Clean) : (Value.list items).Clean := by
  intro part within
  cases within with
  | here => simp
  | element inside deeper => exact each _ inside part deeper

/-- An object with clean values, none of them a payload, is clean. -/
theorem clean_object {fields : Fields} (own : "raw" ∉ fields.keys)
    (each : ∀ entry ∈ fields, entry.2.Clean) : (Value.object fields).Clean := by
  intro part within
  cases within with
  | here => exact ⟨by simp, fun fields same => Value.object.inj same ▸ own⟩
  | field inside deeper => exact each _ inside part deeper

/-- A value is pruned to a clean one, or is null and goes with its field. -/
def PrunesClean (v : Value) : Prop := v = .null ∨ v.pruned.Clean

/-- A value that nothing but itself stands in is clean unless it is null. -/
theorem clean_of_scalar {v : Value} (scalar : ∀ part : Value, part.Within v → part = v)
    (present : v ≠ .null) (bare : ∀ fields, v ≠ .object fields) : v.Clean := by
  intro part within
  obtain rfl := scalar part within
  exact ⟨present, fun fields same => absurd same (bare fields)⟩

/-- An integer is pruned to a clean value. -/
theorem prunesClean_int (n : Int) : (Value.int n).PrunesClean :=
  .inr (clean_of_scalar (fun _ within => by cases within; rfl) nofun nofun)

/-- A double is pruned to a clean value. -/
theorem prunesClean_float (x : Binary64) : (Value.float x).PrunesClean :=
  .inr (clean_of_scalar (fun _ within => by cases within; rfl) nofun nofun)

/-- A text is pruned to a clean value. -/
theorem prunesClean_text (s : String) : (Value.text s).PrunesClean :=
  .inr (clean_of_scalar (fun _ within => by cases within; rfl) nofun nofun)

/-- An integer that may be absent is pruned to a clean value. -/
theorem prunesClean_ofInt? (n : Option Int) : (Value.ofInt? n).PrunesClean := by
  cases n with
  | none => exact .inl rfl
  | some n => exact prunesClean_int n

/-- A list is pruned to a clean value if its elements are. -/
theorem prunesClean_list {items : List Value} (each : ∀ v ∈ items, v.pruned.Clean) :
    (Value.list items).PrunesClean := by
  refine .inr ?_
  rw [pruned_list]
  refine clean_list fun v inside => ?_
  obtain ⟨before, among, rfl⟩ := List.mem_map.mp inside
  exact each before among

/-- An object is pruned to a clean value if its fields are, but for the payload. -/
theorem clean_pruned_object {fields : Fields}
    (each : ∀ entry ∈ fields, entry.1 = "raw" ∨ entry.2.PrunesClean) :
    (Value.object fields).pruned.Clean := by
  have left : ∀ entry ∈ prunedFields fields, entry.1 ≠ "raw" ∧ entry.2.Clean := by
    intro entry inside
    obtain ⟨before, among, rfl⟩ := List.mem_map.mp inside
    obtain ⟨listed, kept⟩ := List.mem_filter.mp among
    obtain ⟨present, own⟩ := stays_iff.mp kept
    refine ⟨own, ?_⟩
    rcases each before listed with payload | null | clean
    · exact absurd payload own
    · rw [null] at present
      cases present
    · exact clean
  rw [pruned_object]
  refine clean_object (fun payload => ?_) fun entry inside => (left entry inside).2
  obtain ⟨entry, inside, named⟩ := List.mem_map.mp payload
  exact (left entry inside).1 named

end PredicateIndex.Value
