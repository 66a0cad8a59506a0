import PredicateIndex.Config.Environment
import PredicateIndex.Yaml.Document

/-!
# Laws of mappings

What is read from a mapping under a text after a key was set, and after it was overridden by another
mapping: the override has the last word, and where both have a mapping under a key the two are
merged. Overriding goes over the entries one after another, so this holds if no key of the override
comes twice. Mappings that are read from a document or from the environment have no key twice.
-/
namespace PredicateIndex.Yaml

variable {entries : Entries} {key value : Yaml} {name : String}

/-- The same key as a text is that text. -/
theorem sameKey_text : key.sameKey (.text name) = true ↔ key = .text name := by
  cases key with
  | float x => cases whole : x.toInt? <;> simp [sameKey, wholeNumber?, whole]
  | _ => simp [sameKey, wholeNumber?]

/-- A text is the same key as that text only. -/
theorem text_sameKey : (Yaml.text name).sameKey key = true ↔ key = .text name := by
  cases key with
  | text s =>
    simp only [sameKey, beq_iff_eq, Yaml.text.injEq]
    exact eq_comm
  | _ => simp [sameKey, wholeNumber?]

/-- Nothing is read from the empty mapping. -/
@[simp] theorem field?_nil : field? [] name = none := rfl

/-- The first entry under a text is read. -/
theorem field?_cons (entry : Yaml × Yaml) (rest : Entries) (name : String) :
    field? (entry :: rest) name =
      if entry.1.sameKey (.text name) then some entry.2 else field? rest name := by
  simp only [field?, lookup, List.find?_cons]
  cases entry.1.sameKey (.text name) <;> rfl

/-- A value that is set is read back, and no other text is touched. -/
theorem field?_put (entries : Entries) (key value : Yaml) (name : String) :
    field? (put entries key value) name =
      if key.sameKey (.text name) then some value else field? entries name := by
  induction entries with
  | nil => rw [put, field?_cons]
  | cons entry rest ih =>
    obtain ⟨k, old⟩ := entry
    by_cases same : k.sameKey key
    · -- The entry keeps its key, which is a text if and only if the key that is set is.
      have both : k.sameKey (.text name) = key.sameKey (.text name) := by
        rw [Bool.eq_iff_iff, sameKey_text, sameKey_text]
        constructor
        · rintro rfl
          exact text_sameKey.mp same
        · rintro rfl
          exact sameKey_text.mp same
      rw [put, if_pos same, field?_cons, field?_cons, both]
      split <;> rfl
    · rw [put, if_neg same, field?_cons, field?_cons, ih]
      by_cases here : k.sameKey (.text name)
      · have other : ¬key.sameKey (.text name) := fun there =>
          same (sameKey_text.mp here ▸ text_sameKey.mpr (sameKey_text.mp there))
        rw [if_pos here, if_pos here, if_neg other]
      · rw [if_neg here, if_neg here]

/-! ## No key twice -/

/-- No key of a mapping comes twice. -/
def Distinct (entries : Entries) : Prop :=
  entries.Pairwise fun first second => first.1.sameKey second.1 = false

/-- An entry of a mapping in which a key was set has an old key or the new one, and an old value or
the new one. -/
theorem mem_put {entry : Yaml × Yaml} (inside : entry ∈ put entries key value) :
    (entry.1 = key ∨ ∃ old ∈ entries, entry.1 = old.1) ∧
      (entry.2 = value ∨ ∃ old ∈ entries, entry.2 = old.2) := by
  induction entries with
  | nil =>
    rw [List.mem_singleton.mp inside]
    exact ⟨.inl rfl, .inl rfl⟩
  | cons first rest ih =>
    obtain ⟨k, old⟩ := first
    rw [put] at inside
    split at inside
    · rcases List.mem_cons.mp inside with rfl | inside
      · exact ⟨.inr ⟨_, List.mem_cons_self, rfl⟩, .inl rfl⟩
      · exact ⟨.inr ⟨entry, List.mem_cons_of_mem _ inside, rfl⟩,
          .inr ⟨entry, List.mem_cons_of_mem _ inside, rfl⟩⟩
    · rcases List.mem_cons.mp inside with rfl | inside
      · exact ⟨.inr ⟨_, List.mem_cons_self, rfl⟩, .inr ⟨_, List.mem_cons_self, rfl⟩⟩
      · obtain ⟨keys, values⟩ := ih inside
        exact ⟨keys.imp_right fun ⟨before, among, same⟩ =>
            ⟨before, List.mem_cons_of_mem _ among, same⟩,
          values.imp_right fun ⟨before, among, same⟩ =>
            ⟨before, List.mem_cons_of_mem _ among, same⟩⟩

/-- Setting a key brings no key twice. -/
theorem Distinct.put (distinct : Distinct entries) (key value : Yaml) :
    Distinct (put entries key value) := by
  induction entries with
  | nil => exact List.pairwise_singleton _ _
  | cons first rest ih =>
    obtain ⟨k, old⟩ := first
    obtain ⟨fresh, distinct⟩ := List.pairwise_cons.mp distinct
    rw [Yaml.put.eq_def]
    dsimp only
    split
    · exact List.pairwise_cons.mpr ⟨fresh, distinct⟩
    · rename_i other
      refine List.pairwise_cons.mpr ⟨fun entry inside => ?_, ih distinct⟩
      rcases (mem_put inside).1 with same | ⟨before, among, same⟩
      · rw [same]
        exact Bool.not_eq_true _ ▸ other
      · rw [same]
        exact fresh before among

/-- Overriding brings no key twice. -/
theorem Distinct.mergeEntries (distinct : Distinct entries) (upper : Entries) :
    Distinct (mergeEntries entries upper) := by
  induction upper generalizing entries with
  | nil => exact distinct
  | cons entry rest ih =>
    rw [Yaml.mergeEntries]
    exact ih (distinct.put _ _)

/-! ## Overriding -/

/-- What stands in a place after it is overridden: the override, merged into what stood there. -/
def overlay (base upper : Option Yaml) : Option Yaml :=
  match base, upper with
  | some old, some v => some (merge old v)
  | none, some v => some v
  | base, none => base

/-- Where nothing stood, there is the override. -/
@[simp] theorem overlay_none_left (upper : Option Yaml) : overlay none upper = upper := by
  cases upper <;> rfl

/-- Where nothing overrides, there is what stood there. -/
@[simp] theorem overlay_none_right (base : Option Yaml) : overlay base none = base := by
  cases base <;> rfl

/-- A text that no key of a mapping is reads nothing. -/
theorem field?_eq_none (other : ∀ entry ∈ entries, entry.1 ≠ .text name) :
    field? entries name = none := by
  induction entries with
  | nil => rfl
  | cons entry rest ih =>
    obtain ⟨here, others⟩ := List.forall_mem_cons.mp other
    rw [field?_cons, if_neg (mt sameKey_text.mp here), ih others]

/-- A mapping that is overridden is overridden text by text, if no key of the override comes
twice. -/
theorem field?_mergeEntries (base : Entries) {upper : Entries} (distinct : Distinct upper)
    (name : String) :
    field? (mergeEntries base upper) name = overlay (field? base name) (field? upper name) := by
  induction upper generalizing base with
  | nil =>
    rw [mergeEntries, field?_nil, overlay_none_right]
  | cons entry rest ih =>
    obtain ⟨key, v⟩ := entry
    obtain ⟨fresh, distinct⟩ := List.pairwise_cons.mp distinct
    rw [mergeEntries, ih _ distinct, field?_put, field?_cons]
    by_cases here : key.sameKey (.text name)
    · -- No later entry has the same key.
      obtain rfl := sameKey_text.mp here
      have last : field? rest name = none := by
        refine field?_eq_none fun entry inside same => ?_
        have apart := fresh entry inside
        rw [same, Bool.eq_false_iff] at apart
        exact apart (text_sameKey.mpr rfl)
      rw [if_pos here, if_pos here, last, show lookup base (.text name) = field? base name from rfl]
      cases field? base name <;> rfl
    · rw [if_neg here, if_neg here]

/-- A place that is overridden by a mapping holds a mapping. -/
theorem merge_mapping (old : Yaml) (entries : Entries) :
    ∃ inner, merge old (.mapping entries) = .mapping inner := by
  cases old with
  | mapping before => exact ⟨mergeEntries before entries, by rw [merge]⟩
  | _ => exact ⟨entries, by rw [merge]; exact nofun⟩

/-- What stands in an overridden place and is no mapping stands in the override, or in the base where
the override has nothing. -/
theorem or_eq_of_overlay {base upper : Option Yaml} {found : Yaml}
    (stands : overlay base upper = some found) (flat : ∀ entries, found ≠ .mapping entries) :
    upper.or base = some found := by
  cases upper with
  | none =>
    cases base with
    | none => cases stands
    | some old => exact stands
  | some v =>
    cases base with
    | none => exact stands
    | some old =>
      obtain rfl := Option.some.inj stands
      cases v with
      | mapping entries =>
        obtain ⟨inner, same⟩ := merge_mapping old entries
        exact absurd same (flat inner)
      | _ =>
        rw [merge]
        · rfl
        · exact nofun

/-- Nothing stands in an overridden place exactly if nothing stood there and nothing was to. -/
theorem overlay_eq_none {base upper : Option Yaml} :
    overlay base upper = none ↔ base = none ∧ upper = none := by
  cases base <;> cases upper <;> simp [overlay]

/-! ## Mappings that are read -/

/-- No key of a mapping comes twice, nor of a mapping that is one of its values. -/
def Keyed (entries : Entries) : Prop :=
  Distinct entries ∧ ∀ entry ∈ entries, ∀ inner, entry.2 = .mapping inner → Distinct inner

/-- The empty mapping has no key twice. -/
theorem keyed_nil : Keyed [] := ⟨List.Pairwise.nil, nofun⟩

/-- Setting a key to a value in which no key comes twice brings none. -/
theorem Keyed.put (keyed : Keyed entries)
    (inside : ∀ inner, value = .mapping inner → Distinct inner) :
    Keyed (put entries key value) := by
  refine ⟨keyed.1.put key value, fun entry among inner isMapping => ?_⟩
  rcases (mem_put among).2 with same | ⟨old, before, same⟩
  · exact inside inner (same ▸ isMapping)
  · exact keyed.2 old before inner (same ▸ isMapping)

/-- A value that is found under a key is that of an entry. -/
theorem mem_of_lookup (found : lookup entries key = some value) :
    ∃ entry ∈ entries, entry.2 = value := by
  obtain ⟨entry, first, same⟩ := Option.map_eq_some_iff.mp found
  exact ⟨entry, List.mem_of_find?_eq_some first, same⟩

/-- Merging two values in which no key comes twice brings none. -/
theorem distinct_of_merge {old : Yaml} {inner : Entries} (merged : merge old value = .mapping inner)
    (before : ∀ base, old = .mapping base → Distinct base)
    (override : ∀ upper, value = .mapping upper → Distinct upper) : Distinct inner := by
  cases value with
  | mapping upper =>
    cases old with
    | mapping base =>
      rw [merge] at merged
      exact Yaml.mapping.inj merged ▸ (before base rfl).mergeEntries upper
    | _ =>
      rw [merge] at merged
      · exact override inner merged
      · exact nofun
  | _ =>
    rw [merge] at merged
    · cases merged
    · exact nofun

/-- Overriding by values in which no key comes twice brings none. -/
theorem Keyed.mergeEntries {upper : Entries} (keyed : Keyed entries)
    (inside : ∀ entry ∈ upper, ∀ inner, entry.2 = .mapping inner → Distinct inner) :
    Keyed (mergeEntries entries upper) := by
  induction upper generalizing entries with
  | nil => exact keyed
  | cons entry rest ih =>
    obtain ⟨key, v⟩ := entry
    obtain ⟨here, others⟩ := List.forall_mem_cons.mp inside
    rw [Yaml.mergeEntries]
    refine ih (keyed.put fun inner isMapping => ?_) others
    split at isMapping
    · rename_i old found
      obtain ⟨entry, among, same⟩ := mem_of_lookup found
      exact distinct_of_merge isMapping
        (fun base isBase => keyed.2 entry among base (same.trans isBase)) here
    · exact here inner isMapping

/-- Two steps that can fail succeed exactly when both do. -/
theorem bind_eq_ok {ε α β : Type} {first : Except ε α} {next : α → Except ε β} {b : β} :
    (first >>= next) = .ok b ↔ ∃ a, first = .ok a ∧ next a = .ok b := by
  cases first with
  | error fault => simp [bind, Except.bind]
  | ok a => simp [bind, Except.bind]

/-- Two steps that can fail do so exactly when the first fails, or the second after the first. -/
theorem bind_eq_error {ε α β : Type} {first : Except ε α} {next : α → Except ε β} {fault : ε} :
    (first >>= next) = .error fault ↔
      first = .error fault ∨ ∃ a, first = .ok a ∧ next a = .error fault := by
  cases first with
  | error fault => simp [bind, Except.bind]
  | ok a => simp [bind, Except.bind]

/-- Handing out a value is a success. -/
theorem pure_eq_ok {ε α : Type} {a b : α} : (pure a : Except ε α) = .ok b ↔ a = b := by
  simp [pure, Except.pure]

/-- A step of which only the error is renamed succeeds as before. -/
theorem mapError_eq_ok {ε ε' α : Type} {f : ε → ε'} {step : Except ε α} {a : α} :
    step.mapError f = .ok a ↔ step = .ok a := by
  cases step with
  | error fault =>
    change Except.error (f fault) = .ok a ↔ _
    simp
  | ok b =>
    change Except.ok b = .ok a ↔ _
    simp

/-- A step of which the error is renamed fails with the new name. -/
theorem mapError_eq_error {ε ε' α : Type} {f : ε → ε'} {step : Except ε α} {error : ε'} :
    step.mapError f = .error error ↔ ∃ old, step = .error old ∧ f old = error := by
  cases step with
  | error fault =>
    change Except.error (f fault) = .error error ↔ _
    simp
  | ok b =>
    change Except.ok b = .error error ↔ _
    simp

/-- Something is found in the result of a step if there is a result. -/
theorem toOption_bind_eq_some {ε α β : Type} {step : Except ε α} {find : α → Option β} {b : β} :
    step.toOption.bind find = some b ↔ ∃ a, step = .ok a ∧ find a = some b := by
  cases step <;> simp [Except.toOption]

/-- Nothing is found in the result of a step, whatever it is. -/
theorem toOption_bind_eq_none {ε α β : Type} {step : Except ε α} {find : α → Option β} :
    step.toOption.bind find = none ↔ ∀ a, step = .ok a → find a = none := by
  cases step <;> simp [Except.toOption]

/-- What every step of a pass that can fail keeps is kept by the pass. -/
theorem foldlM_keeps {ε α β : Type} {step : β → α → Except ε β} {kept : β → Prop}
    (keeps : ∀ b a b', kept b → step b a = .ok b' → kept b') {items : List α} {start final : β}
    (initially : kept start) (done : items.foldlM step start = .ok final) : kept final := by
  induction items generalizing start with
  | nil => exact Except.ok.inj done ▸ initially
  | cons a rest ih =>
    rw [List.foldlM_cons] at done
    obtain ⟨next, first, others⟩ := bind_eq_ok.mp done
    exact ih (keeps start a next initially first) others

/-- A scalar means no mapping. -/
theorem Node.scalarValue_ne_mapping {characters : List Char} {isPlain : Bool} {entries : Entries} :
    scalarValue characters isPlain ≠ .ok (.mapping entries) := by
  intro read
  rw [scalarValue] at read
  split at read
  · rw [resolve] at read
    split at read
    · cases read
    split at read
    · cases read
    split at read
    · cases read
    split at read
    · simp only [Except.map] at read
      split at read <;> cases read
    · cases read
    · split at read <;> cases read
    · split at read <;> cases read
  · cases read

/-- No key of a mapping that is the value of a node comes twice. -/
theorem Node.keyed_of_value {fuel : Nat} {node : Node} {entries : Entries}
    (read : node.value fuel = .ok (.mapping entries)) : Keyed entries := by
  induction fuel generalizing node entries with
  | zero => simp [value] at read
  | succ fuel ih =>
    cases node with
    | scalar characters isPlain => exact absurd read scalarValue_ne_mapping
    | sequence items =>
      obtain ⟨list, -, isList⟩ := bind_eq_ok.mp read
      cases isList
    | mapping pairs =>
      obtain ⟨all, -, read⟩ := bind_eq_ok.mp read
      obtain ⟨found, passed, same⟩ := bind_eq_ok.mp read
      obtain rfl := Yaml.mapping.inj (pure_eq_ok.mp same)
      refine foldlM_keeps (fun before pair after keyed step => ?_) keyed_nil passed
      obtain ⟨key, -, step⟩ := bind_eq_ok.mp step
      obtain ⟨item, itemRead, step⟩ := bind_eq_ok.mp step
      obtain rfl := pure_eq_ok.mp step
      exact keyed.put fun inner isMapping => (ih (isMapping ▸ itemRead)).1

/-- No key of a mapping that is read from a document comes twice. -/
theorem keyed_of_read {text : String} {entries : Entries}
    (done : read text = .ok (.mapping entries)) : Keyed entries := by
  obtain ⟨node, -, done⟩ := bind_eq_ok.mp done
  obtain ⟨met, -, done⟩ := bind_eq_ok.mp done
  obtain ⟨⟨⟩, -, done⟩ := bind_eq_ok.mp done
  exact Node.keyed_of_value done

end PredicateIndex.Yaml

namespace PredicateIndex.Environment

open Yaml (Distinct Keyed bind_eq_ok pure_eq_ok)

/-- Giving the keys of a section their proper case leaves none twice. -/
theorem distinct_properCase (sec : Section) (entries : Yaml.Entries) :
    Distinct (properCase sec entries) := by
  rw [properCase]
  refine List.foldlRecOn entries _ List.Pairwise.nil fun done distinct entry _ => ?_
  dsimp only
  split <;> exact distinct.put _ _

/-- No key of a section that the environment gives comes twice. -/
theorem distinct_of_sectionValue? {sec : Section} {environment : Ledger String}
    {entries : Yaml.Entries}
    (given : sectionValue? sec environment = .ok (some (.mapping entries))) : Distinct entries := by
  rw [sectionValue?] at given
  split at given
  · obtain ⟨separate, -, given⟩ := bind_eq_ok.mp given
    have found := pure_eq_ok.mp given
    split at found
    · cases found
    · cases found
      exact distinct_properCase sec separate
  · split at given
    · cases given
    · cases given
    · obtain ⟨separate, -, given⟩ := bind_eq_ok.mp given
      cases pure_eq_ok.mp given
      exact distinct_properCase sec _
    · rename_i flat _
      cases pure_eq_ok.mp given
      exact absurd rfl (flat entries)

/-- No key of the settings that the environment gives comes twice. -/
theorem keyed_settings {environment : List (String × String)} {entries : Yaml.Entries}
    (given : settings environment = .ok entries) : Keyed entries := by
  obtain ⟨found, each, same⟩ := bind_eq_ok.mp given
  obtain rfl := pure_eq_ok.mp same
  have sectionOf : ∀ {sec : Section} {value : Option Yaml} {entry : Yaml × Yaml},
      sectionValue? sec (lowerCase environment) = .ok value →
      value.map (fun value => (Yaml.text sec.name, value)) = some entry →
      ∀ inner, entry.2 = .mapping inner → Distinct inner := by
    intro sec value entry valueRead inside inner isMapping
    obtain ⟨item, rfl, rfl⟩ := Option.map_eq_some_iff.mp inside
    obtain rfl : item = .mapping inner := isMapping
    exact distinct_of_sectionValue? valueRead
  simp only [sections, List.mapM_cons, List.mapM_nil, bind_eq_ok, pure_eq_ok, bind_assoc,
    pure_bind] at each
  obtain ⟨logging, loggingRead, analyzer, analyzerRead, pipeline, pipelineRead, rfl⟩ := each
  constructor
  · cases logging <;> cases analyzer <;> cases pipeline <;> simp [Distinct, Yaml.sameKey]
  · intro entry inside
    obtain ⟨given, among, present⟩ := List.mem_filterMap.mp inside
    simp only [List.mem_cons, List.not_mem_nil, or_false] at among
    rcases among with rfl | rfl | rfl
    · exact sectionOf loggingRead present
    · exact sectionOf analyzerRead present
    · exact sectionOf pipelineRead present

end PredicateIndex.Environment
