import PredicateIndex.Config.Environment
import PredicateIndex.Proofs.Yaml

/-!
# Variables that cannot be read

The variable of a whole section is read as JSON, and so are the variables of those of its settings
that are lists. Main result: the environment is refused exactly if one of these cannot be read, and the
refusal names the first section with such a variable and says why its first such variable cannot be
read. An empty variable of a setting is not read, nor is any if that of the whole section holds
something other than a mapping.
-/
namespace PredicateIndex.Environment

open Yaml (bind_eq_error bind_eq_ok pure_eq_ok)

/-! ## Refused passes -/

section Passes

variable {ε α β : Type}

/-- The first item that is refused is refused with a fault. -/
def FirstRefused (refused : α → ε → Prop) (items : List α) (fault : ε) : Prop :=
  ∃ before a after, items = before ++ a :: after ∧
    (∀ earlier ∈ before, ∀ other, ¬refused earlier other) ∧ refused a fault

/-- The first refused item is the first item, or the first is not refused and it comes later. -/
theorem firstRefused_cons {refused : α → ε → Prop} {a : α} {rest : List α} {fault : ε} :
    FirstRefused refused (a :: rest) fault ↔
      refused a fault ∨ (∀ other, ¬refused a other) ∧ FirstRefused refused rest fault := by
  constructor
  · rintro ⟨before, b, after, split, fine, here⟩
    cases before with
    | nil =>
      obtain ⟨rfl, rfl⟩ := List.cons.inj split
      exact .inl here
    | cons first before =>
      obtain ⟨rfl, rfl⟩ := List.cons.inj split
      obtain ⟨first, others⟩ := List.forall_mem_cons.mp fine
      exact .inr ⟨first, before, b, after, rfl, others, here⟩
  · rintro (here | ⟨first, before, b, after, rfl, fine, there⟩)
    · exact ⟨[], a, rest, rfl, by simp, here⟩
    · exact ⟨a :: before, b, after, rfl, List.forall_mem_cons.mpr ⟨first, fine⟩, there⟩

/-- A step that is refused in no way is taken. -/
theorem exists_eq_ok_iff {step : Except ε α} :
    (∃ a, step = .ok a) ↔ ∀ fault, step ≠ .error fault := by
  cases step <;> simp

/-- A pass whose steps are refused for some items only is refused by the first of them. -/
theorem foldlM_eq_error {step : β → α → Except ε β} {refused : α → ε → Prop}
    (steps : ∀ b a fault, step b a = .error fault ↔ refused a fault) {items : List α} (start : β)
    {fault : ε} :
    items.foldlM step start = .error fault ↔ FirstRefused refused items fault := by
  induction items generalizing start with
  | nil => simp [FirstRefused, pure, Except.pure]
  | cons a rest ih =>
    rw [List.foldlM_cons, bind_eq_error, firstRefused_cons, steps]
    refine or_congr_right ?_
    simp only [ih, exists_and_right, exists_eq_ok_iff, ne_eq, steps]

/-- What hands out a value after a step is refused exactly if the step is. -/
theorem bind_pure_eq_error {step : Except ε α} {f : α → β} {fault : ε} :
    (step >>= fun a => pure (f a)) = .error fault ↔ step = .error fault := by
  rw [bind_eq_error]
  exact or_iff_left fun ⟨_, _, never⟩ => nomatch never

/-- A list of steps is refused by the first that is. -/
theorem mapM_eq_error {step : α → Except ε β} {refused : α → ε → Prop} {items : List α}
    (steps : ∀ a ∈ items, ∀ fault, step a = .error fault ↔ refused a fault) {fault : ε} :
    items.mapM step = .error fault ↔ FirstRefused refused items fault := by
  induction items with
  | nil => simp [FirstRefused, pure, Except.pure]
  | cons a rest ih =>
    obtain ⟨first, others⟩ := List.forall_mem_cons.mp steps
    rw [List.mapM_cons, bind_eq_error, firstRefused_cons, first, ← ih others]
    refine or_congr_right ?_
    simp only [bind_pure_eq_error, exists_and_right, exists_eq_ok_iff, ne_eq, first]

end Passes

/-! ## One section -/

/-- A name has at least one part. -/
theorem splitName_ne_nil (characters : List Char) : splitName characters ≠ [] := by
  fun_cases splitName characters <;> simp_all

/-- A name that is all in one part is this part. -/
theorem eq_of_splitName_eq_singleton {characters part : List Char}
    (one : splitName characters = [part]) : characters = part := by
  fun_induction splitName characters generalizing part with
  | case1 => simpa using one
  | case2 rest ih => exact absurd (List.cons.inj one).2 (splitName_ne_nil rest)
  | case3 c rest apart first parts found ih =>
    obtain ⟨rfl, rfl⟩ := List.cons.inj one
    rw [ih found]
  | case4 c rest apart none ih => exact absurd none (splitName_ne_nil rest)

/-- The settings of a section that are given as JSON have names in one part. -/
theorem splitName_structured {sec : Section} (known : sec ∈ sections) :
    ∀ key ∈ sec.structured, splitName key.toList = [key.toList] := by
  revert sec
  decide

/-- The variable of a setting has to be read as JSON and cannot be. -/
def UnreadableSetting (sec : Section) (entry : String × String) (fault : Json.ReadError) : Prop :=
  ∃ key ∈ sec.structured, entry.1 = lead ++ sec.name ++ "__" ++ key ∧ entry.2 ≠ "" ∧
    decode entry.2 = .error fault

/-- A section has a variable that has to be read as JSON and cannot be, and this is why the first
cannot. -/
inductive Unreadable (sec : Section) (environment : Ledger String) : Json.ReadError → Prop where
  /-- The variable of the whole section. -/
  | whole (text : String) (fault : Json.ReadError)
    (own : environment.get? (lead ++ sec.name) = some text) (unread : decode text = .error fault) :
    Unreadable sec environment fault
  /-- The variable of a setting; it is asked for if the whole section has none or a mapping. -/
  | part (fault : Json.ReadError)
    (asked : ∀ text, environment.get? (lead ++ sec.name) = some text →
      ∃ entries, decode text = .ok (.mapping entries))
    (first : FirstRefused (UnreadableSetting sec) environment fault) :
    Unreadable sec environment fault

section OneSection

variable {sec : Section} {environment : Ledger String} {fault : Json.ReadError}

/-- A setting has no value if it has to be read as JSON and cannot be. -/
theorem settingValue_eq_error {keys : List String} {text : String} :
    settingValue sec keys text = .error fault ↔
      ∃ key ∈ sec.structured, keys = [key] ∧ text ≠ "" ∧ decode text = .error fault := by
  unfold settingValue
  split
  · rename_i key
    by_cases read : (sec.structured.contains key && !text.isEmpty) = true
    · obtain ⟨structured, filled⟩ : key ∈ sec.structured ∧ text ≠ "" := by simpa using read
      rw [if_pos read]
      exact ⟨fun unread => ⟨key, structured, rfl, filled, unread⟩,
        fun ⟨_, _, _, _, unread⟩ => unread⟩
    · have unasked : key ∈ sec.structured → text = "" := by simpa using read
      rw [if_neg read]
      refine iff_of_false nofun ?_
      rintro ⟨other, structured, same, filled, -⟩
      obtain rfl := List.singleton_inj.mp same
      exact filled (unasked structured)
  · rename_i several
    refine iff_of_false nofun ?_
    rintro ⟨key, -, same, -⟩
    exact several key same

/-- The variable of a setting is refused exactly if it cannot be read. -/
theorem settingValue_of_named (known : sec ∈ sections) (name text : String)
    (fault : Json.ReadError) :
    (name.startsWith (lead ++ sec.name ++ "__") = true ∧
      settingValue sec ((splitName (name.toList.drop (lead ++ sec.name ++ "__").length)).map
        String.ofList) text = .error fault) ↔ UnreadableSetting sec (name, text) fault := by
  rw [String.startsWith_string_iff, settingValue_eq_error]
  constructor
  · rintro ⟨⟨rest, starts⟩, key, structured, one, filled, unread⟩
    have after : name.toList.drop (lead ++ sec.name ++ "__").length = rest := by
      rw [← starts, ← String.length_toList]
      exact List.drop_left
    rw [after] at one
    obtain ⟨part, split, same⟩ := List.map_eq_singleton_iff.mp one
    obtain rfl := eq_of_splitName_eq_singleton split
    refine ⟨key, structured, ?_, filled, unread⟩
    rw [← String.toList_inj, ← starts, ← same]
    simp
  · rintro ⟨key, structured, named, filled, unread⟩
    dsimp only at named
    subst named
    refine ⟨⟨key.toList, (String.toList_append ..).symm⟩, key, structured, ?_, filled, unread⟩
    have after : (lead ++ sec.name ++ "__" ++ key).toList.drop (lead ++ sec.name ++ "__").length =
        key.toList := by
      rw [String.toList_append, ← String.length_toList]
      exact List.drop_left
    rw [after, splitName_structured known key structured]
    simp

/-- A section is refused, if at all, by its first refused variable. -/
theorem firstRefused_named {refused : String × String → Json.ReadError → Prop}
    {refusal : Refusal} :
    FirstRefused (fun entry (refusal : Refusal) => refusal.name = sec.name ∧
        refused entry refusal.fault) environment refusal ↔
      refusal.name = sec.name ∧ FirstRefused refused environment refusal.fault := by
  constructor
  · rintro ⟨before, entry, after, split, fine, named, here⟩
    exact ⟨named, before, entry, after, split,
      fun earlier among fault there => fine earlier among { name := sec.name, fault } ⟨rfl, there⟩,
      here⟩
  · rintro ⟨named, before, entry, after, split, fine, here⟩
    exact ⟨before, entry, after, split,
      fun earlier among other there => fine earlier among other.fault there.2, named, here⟩

/-- The settings of a section are refused if the variable of one cannot be read. -/
theorem separateSettings_eq_error (known : sec ∈ sections) {refusal : Refusal} :
    separateSettings sec environment = .error refusal ↔ refusal.name = sec.name ∧
      FirstRefused (UnreadableSetting sec) environment refusal.fault := by
  rw [← firstRefused_named]
  refine foldlM_eq_error (fun entries entry refusal => ?_) []
  obtain ⟨name, text⟩ := entry
  have named := settingValue_of_named known name text
  dsimp only
  split
  · rename_i starts
    split
    · rename_i value found
      refine iff_of_false nofun fun ⟨_, unreadable⟩ => ?_
      cases ((named _).mpr unreadable).2.symm.trans found
    · rename_i fault found
      rw [← named, found]
      obtain ⟨name, fault'⟩ := refusal
      simp [starts, eq_comm]
  · rename_i other
    refine iff_of_false nofun fun ⟨_, unreadable⟩ => other ((named _).mpr unreadable).1

/-- A section is refused exactly if it has a variable that cannot be read. -/
theorem sectionValue?_eq_error (known : sec ∈ sections) {refusal : Refusal} :
    sectionValue? sec environment = .error refusal ↔
      refusal.name = sec.name ∧ Unreadable sec environment refusal.fault := by
  unfold sectionValue?
  cases own : environment.get? (lead ++ sec.name) with
  | none =>
    rw [bind_pure_eq_error, separateSettings_eq_error known]
    refine and_congr_right fun _ => ⟨fun first => ?_, fun unreadable => ?_⟩
    · exact .part _ (fun text own' => nomatch own.symm.trans own') first
    · cases unreadable with
      | whole text _ own' => cases own.symm.trans own'
      | part _ _ first => exact first
  | some text =>
    have settled : ∀ v, decode text = .ok v → (∀ entries, v ≠ .mapping entries) →
        ∀ fault, ¬Unreadable sec environment fault := by
      intro v read flat fault unreadable
      cases unreadable with
      | whole text' _ own' unread =>
        obtain rfl := Option.some.inj (own.symm.trans own')
        cases read.symm.trans unread
      | part _ asked =>
        obtain ⟨entries, isMapping⟩ := asked text own
        exact flat entries (Except.ok.inj (read.symm.trans isMapping))
    dsimp only
    cases read : decode text with
    | error fault =>
      refine ⟨fun refused => ?_, fun ⟨named, unreadable⟩ => ?_⟩
      · obtain rfl := Except.error.inj refused
        exact ⟨rfl, .whole text fault own read⟩
      · cases unreadable with
        | whole text' _ own' unread =>
          obtain rfl := Option.some.inj (own.symm.trans own')
          obtain rfl := Except.error.inj (read.symm.trans unread)
          obtain ⟨name, fault⟩ := refusal
          obtain rfl : name = sec.name := named
          rfl
        | part _ asked =>
          obtain ⟨entries, isMapping⟩ := asked text own
          cases read.symm.trans isMapping
    | ok v =>
      cases v with
      | mapping entries =>
        dsimp only
        rw [bind_pure_eq_error, separateSettings_eq_error known]
        refine and_congr_right fun _ => ⟨fun first => ?_, fun unreadable => ?_⟩
        · refine .part _ (fun text' own' => ⟨entries, ?_⟩) first
          rw [← Option.some.inj (own.symm.trans own'), read]
        · cases unreadable with
          | whole text' _ own' unread =>
            obtain rfl := Option.some.inj (own.symm.trans own')
            cases read.symm.trans unread
          | part _ _ first => exact first
      | _ => exact iff_of_false nofun fun ⟨_, unreadable⟩ => settled _ read nofun _ unreadable

end OneSection

/-! ## All sections -/

/-- The environment is refused exactly if a section has a variable that cannot be read, and the first
of these sections is named with the fault of its first such variable. -/
theorem settings_eq_error {environment : List (String × String)} {refusal : Refusal} :
    settings environment = .error refusal ↔ ∃ before sec after, sections = before ++ sec :: after ∧
      (∀ earlier ∈ before, ∀ fault, ¬Unreadable earlier (lowerCase environment) fault) ∧
      refusal.name = sec.name ∧ Unreadable sec (lowerCase environment) refusal.fault := by
  have steps : ∀ sec ∈ sections, ∀ refusal : Refusal,
      ((sectionValue? sec (lowerCase environment)) >>= fun value =>
        pure (value.map fun value => (Yaml.text sec.name, value))) = .error refusal ↔
      refusal.name = sec.name ∧ Unreadable sec (lowerCase environment) refusal.fault := by
    intro sec known refusal
    rw [bind_pure_eq_error, sectionValue?_eq_error known]
  rw [settings, bind_pure_eq_error, mapM_eq_error steps]
  refine exists₃_congr fun before sec after => and_congr_right fun _ => and_congr_left fun _ => ?_
  refine forall₂_congr fun earlier _ => ⟨fun fine fault unreadable => ?_, fun readable other named => ?_⟩
  · exact fine { name := earlier.name, fault } ⟨rfl, unreadable⟩
  · exact readable other.fault named.2

end PredicateIndex.Environment
