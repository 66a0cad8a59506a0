import PredicateIndex.Config.Load
import PredicateIndex.Proofs.Yaml

/-!
# Which layer a setting comes from

Settings come from the caller, the environment, the workspace file and the global file, in this order
of precedence. The layers are merged in two steps of two before anything is checked, and merging goes
on inside of mappings, so that what is checked under a key could be a mixture of layers. Main result:
in a configuration that was loaded, every setting is what its rule makes of the value that the first
layer with that key has, and its default if no layer has it. No setting may be a mapping, so a mixture
is always refused.
-/
namespace PredicateIndex.Config

open Yaml (Distinct Keyed Entries field? mergeEntries overlay bind_eq_ok pure_eq_ok)

/-! ## Settings and layers -/

/-- A setting: where it stands, what holds without it, the rule that it is checked by, and its place
in a configuration. -/
structure Setting where
  /-- The name of the section. -/
  sec : String
  /-- The key in the section. -/
  key : String
  /-- What the setting is. -/
  Kind : Type
  /-- The default. -/
  default : Kind
  /-- The rule. -/
  check : Yaml → Checked Kind
  /-- The setting of a configuration. -/
  read : Config → Kind

/-- All settings. -/
def settings (homes : FilePath.Homes) : List Setting :=
  [{ sec := "logging", key := "level", Kind := LogLevel, default := .info, check := level,
     read := fun config => config.logging.level },
   { sec := "logging", key := "outputs", Kind := List LogOutput, default := [{}],
     check := list (logOutput homes), read := fun config => config.logging.outputs },
   { sec := "analyzer", key := "path", Kind := Option String, default := none, check := executable,
     read := fun config => config.analyzer.path },
   { sec := "analyzer", key := "args", Kind := List String, default := [], check := list text,
     read := fun config => config.analyzer.args },
   { sec := "pipeline", key := "debounce_sec", Kind := Binary64,
     default := ({} : PipelineSettings).debounceSeconds, check := debounce,
     read := fun config => config.pipeline.debounceSeconds }]

/-- The layers of settings, the one that goes before all others first. -/
def layers (sources : Sources) : Except LoadError (List Entries) := do
  let globalFile ← fileSettings sources.reader sources.globalPath sources.globalFile
  let workspaceFile ← fileSettings sources.reader sources.workspacePath sources.workspaceFile
  let given ← (Environment.settings sources.environment).mapError .environment
  return [sources.overrides, given, workspaceFile, globalFile]

/-- The entries of a section of a layer; a section that is absent has none. -/
def sectionEntries (layer : Entries) (sec : String) : Entries :=
  match field? layer sec with
  | some (.mapping inner) => inner
  | _ => []

/-- What a layer has under a key of a section. -/
def settingIn? (layer : Entries) (sec key : String) : Option Yaml :=
  field? (sectionEntries layer sec) key

/-- A section is a mapping if it is present in a layer. -/
def SectionIn (layer : Entries) (sec : String) : Prop :=
  ∀ found, field? layer sec = some found → ∃ inner, found = .mapping inner

/-- Whether something is a mapping can be seen. -/
instance (layer : Entries) (sec : String) : Decidable (SectionIn layer sec) :=
  match stands : field? layer sec with
  | none => .isTrue fun _ there => nomatch stands.symm.trans there
  | some (.mapping inner) => .isTrue fun _ there =>
      ⟨inner, Option.some.inj (there.symm.trans stands)⟩
  | some .null | some (.bool _) | some (.int _) | some (.float _) | some (.text _)
  | some (.stamp _) | some (.bytes _) | some (.list _) | some (.set _) | some (.pair _ _) =>
    .isFalse fun isSection => nomatch isSection _ stands

/-- Every section that is present in a layer is a mapping. -/
def Sectioned (layer : Entries) : Prop :=
  ∀ sec ∈ ["logging", "analyzer", "pipeline"], SectionIn layer sec

instance (layer : Entries) : Decidable (Sectioned layer) := List.decidableBAll _ _

/-- A value is what a rule makes of something that is found, or the default if nothing is. -/
def Settles {α : Type} (found : Option Yaml) (default : α) (check : Yaml → Checked α) (value : α) :
    Prop :=
  match found with
  | some v => check v = pure value
  | none => value = default

/-- A setting of a configuration is settled by the first layer that has it. -/
def Setting.SettledBy (setting : Setting) (layers : List Entries) (config : Config) : Prop :=
  Settles (layers.findSome? fun layer => settingIn? layer setting.sec setting.key) setting.default
    setting.check (setting.read config)

/-- At most one value is settled by what is found. -/
theorem Settles.unique {α : Type} {found : Option Yaml} {default first second : α}
    {check : Yaml → Checked α} (one : Settles found default check first)
    (other : Settles found default check second) : first = second := by
  cases found with
  | none => exact one.trans other.symm
  | some v => exact congrArg Checked.value (one.symm.trans other)

/-- Configurations that agree in all settings are the same. -/
theorem eq_of_settings (homes : FilePath.Homes) {first second : Config}
    (same : ∀ setting ∈ settings homes, setting.read first = setting.read second) :
    first = second := by
  simp only [settings, List.forall_mem_cons, List.not_mem_nil, false_implies, implies_true,
    and_true] at same
  obtain ⟨level, outputs, path, args, debounceSeconds⟩ := same
  obtain ⟨⟨_, _⟩, ⟨_, _⟩, ⟨_⟩⟩ := first
  obtain ⟨⟨_, _⟩, ⟨_, _⟩, ⟨_⟩⟩ := second
  cases level
  cases outputs
  cases path
  cases args
  cases debounceSeconds
  rfl

/-! ## What is accepted -/

section Accepted

variable {α β : Type}

/-- A setting in which no fault is found is what it was found to be. -/
theorem eq_pure_of_accepted {checked : Checked α} (accepted : checked.faults = []) :
    checked = pure checked.value := by
  obtain ⟨value, faults⟩ := checked
  obtain rfl : faults = [] := accepted
  rfl

/-- Two checks in a row find no fault if neither does. -/
theorem accepted_bind {first : Checked α} {next : α → Checked β} :
    (first >>= next).faults = [] ↔ first.faults = [] ∧ (next first.value).faults = [] :=
  List.append_eq_nil_iff

/-- A check is not the stricter for being one of a larger thing. -/
theorem accepted_under {step : PathStep} {checked : Checked α} :
    (checked.under step).faults = [] ↔ checked.faults = [] :=
  List.map_eq_nil_iff

/-- A field in which no fault is found is settled by what stands there. -/
theorem settles_field {entries : Entries} {name : String} {default : α} {check : Yaml → Checked α}
    (accepted : (field entries name default check).faults = []) :
    Settles (field? entries name) default check (field entries name default check).value := by
  rw [field] at accepted ⊢
  cases found : field? entries name with
  | none => rfl
  | some v =>
    rw [found] at accepted
    exact eq_pure_of_accepted (accepted_under.mp accepted)

/-- A section that is absent is as one without entries. -/
theorem field_section {entries : Entries} {sec : String} {default : α} {check : Yaml → Checked α}
    (isSection : SectionIn entries sec) (empty : check (.mapping []) = pure default) :
    (field entries sec default check).value =
        (check (.mapping (sectionEntries entries sec))).value ∧
      ((field entries sec default check).faults = [] ↔
        (check (.mapping (sectionEntries entries sec))).faults = []) := by
  rw [field, sectionEntries]
  cases found : field? entries sec with
  | none => simp [empty]
  | some v =>
    obtain ⟨inner, rfl⟩ := isSection v found
    exact ⟨rfl, accepted_under⟩

end Accepted

/-- Every setting of sections in which no fault is found is settled by what stands in its section. -/
theorem settles_sections {homes : FilePath.Homes} {entries : Entries} (sectioned : Sectioned entries)
    (accepted : (sections homes entries).faults = []) :
    ∀ setting ∈ settings homes, Settles (settingIn? entries setting.sec setting.key) setting.default
      setting.check (setting.read (sections homes entries).value) := by
  simp only [Sectioned, List.forall_mem_cons, List.not_mem_nil, false_implies, implies_true,
    and_true] at sectioned
  obtain ⟨loggingIn, analyzerIn, pipelineIn⟩ := sectioned
  obtain ⟨logging, accepted⟩ := accepted_bind.mp accepted
  obtain ⟨analyzer, accepted⟩ := accepted_bind.mp accepted
  obtain ⟨pipeline, -⟩ := accepted_bind.mp accepted
  obtain ⟨loggingValue, loggingFaults⟩ :=
    field_section loggingIn (show loggingSection homes (.mapping []) = pure {} from rfl)
  obtain ⟨analyzerValue, analyzerFaults⟩ :=
    field_section analyzerIn (show analyzerSection (.mapping []) = pure {} from rfl)
  obtain ⟨pipelineValue, pipelineFaults⟩ :=
    field_section pipelineIn (show pipelineSection (.mapping []) = pure {} from rfl)
  obtain ⟨level, others⟩ := accepted_bind.mp (loggingFaults.mp logging)
  obtain ⟨outputs, -⟩ := accepted_bind.mp others
  obtain ⟨path, others⟩ := accepted_bind.mp (analyzerFaults.mp analyzer)
  obtain ⟨args, -⟩ := accepted_bind.mp others
  obtain ⟨debounce, -⟩ := accepted_bind.mp (pipelineFaults.mp pipeline)
  have value : (sections homes entries).value =
      { logging := (loggingSection homes (.mapping (sectionEntries entries "logging"))).value
        analyzer := (analyzerSection (.mapping (sectionEntries entries "analyzer"))).value
        pipeline := (pipelineSection (.mapping (sectionEntries entries "pipeline"))).value } := by
    rw [← loggingValue, ← analyzerValue, ← pipelineValue]
    rfl
  rw [value]
  simp only [settings, List.forall_mem_cons, List.not_mem_nil, false_implies, implies_true, and_true]
  exact ⟨settles_field level, settles_field outputs, settles_field path, settles_field args,
    settles_field debounce⟩

/-- A configuration that is made of settings is made of sections in which no fault is found. -/
theorem sections_of_ofEntries {homes : FilePath.Homes} {entries : Entries} {config : Config}
    (made : ofEntries homes entries = .ok config) :
    (sections homes entries).faults = [] ∧ config = (sections homes entries).value := by
  rw [ofEntries] at made
  split at made
  · split at made
    · cases made
    · dsimp only at made
      split at made
      · rename_i accepted
        obtain rfl := Except.ok.inj made
        rw [strict] at accepted ⊢
        split at accepted
        · cases accepted
        · exact ⟨(List.append_eq_nil_iff.mp accepted).1, rfl⟩
      · cases made
  · cases made

/-- No setting may be a mapping. -/
theorem refuses_mapping {homes : FilePath.Homes} :
    ∀ setting ∈ settings homes, ∀ entries value, setting.check (.mapping entries) ≠ pure value := by
  simp only [settings, List.forall_mem_cons, List.not_mem_nil, false_implies, implies_true, and_true]
  refine ⟨?_, ?_, ?_, ?_, ?_⟩
  all_goals exact fun entries value accepted => nomatch congrArg Checked.faults accepted

/-- What is accepted where layers were merged in two steps of two stands in one of them, and in none
that goes before it. -/
theorem settles_findSome {α : Type} {upper given base standard : Option Yaml} {default value : α}
    {check : Yaml → Checked α}
    (settled : Settles (overlay (overlay standard base) (overlay given upper)) default check value)
    (flat : ∀ entries, check (.mapping entries) ≠ pure value) :
    Settles ((upper.or given).or (base.or standard)) default check value := by
  cases found : overlay (overlay standard base) (overlay given upper) with
  | none =>
    simp only [Yaml.overlay_eq_none] at found
    obtain ⟨⟨rfl, rfl⟩, rfl, rfl⟩ := found
    exact settled
  | some v =>
    rw [found] at settled
    have isFlat : ∀ entries, v ≠ .mapping entries := by
      rintro entries rfl
      exact flat entries settled
    have stands : (upper.or given).or (base.or standard) = some v := by
      rcases Option.or_eq_some_iff.mp (Yaml.or_eq_of_overlay found isFlat) with above | ⟨above, below⟩
      · rw [Yaml.or_eq_of_overlay above isFlat]
        rfl
      · obtain ⟨rfl, rfl⟩ := Yaml.overlay_eq_none.mp above
        exact (Yaml.or_eq_of_overlay below isFlat : base.or standard = some v)
    rw [stands]
    exact settled

/-! ## Merging -/

section Merging

variable {base upper : Entries} {sec : String}

/-- No key of a section comes twice, if none does in the layer. -/
theorem distinct_sectionEntries (keyed : Keyed base) (sec : String) :
    Distinct (sectionEntries base sec) := by
  rw [sectionEntries]
  split
  · rename_i inner found
    obtain ⟨entry, among, same⟩ := Yaml.mem_of_lookup found
    exact keyed.2 entry among inner same
  · exact List.Pairwise.nil

/-- A section of merged layers is a mapping if it is one in both. -/
theorem SectionIn.mergeEntries (keyed : Keyed upper) (below : SectionIn base sec)
    (above : SectionIn upper sec) : SectionIn (mergeEntries base upper) sec := by
  intro found stands
  rw [Yaml.field?_mergeEntries base keyed.1] at stands
  cases there : field? upper sec with
  | none =>
    rw [there, Yaml.overlay_none_right] at stands
    exact below found stands
  | some v =>
    obtain ⟨inner, rfl⟩ := above v there
    rw [there] at stands
    cases here : field? base sec with
    | none =>
      rw [here] at stands
      exact ⟨inner, (Option.some.inj stands).symm⟩
    | some old =>
      rw [here] at stands
      exact Option.some.inj stands ▸ Yaml.merge_mapping old inner

/-- A setting of merged layers is what the upper one makes of it. -/
theorem settingIn?_mergeEntries (keyed : Keyed upper) (below : SectionIn base sec)
    (above : SectionIn upper sec) (key : String) :
    settingIn? (mergeEntries base upper) sec key =
      overlay (settingIn? base sec key) (settingIn? upper sec key) := by
  have distinct := distinct_sectionEntries keyed sec
  simp only [settingIn?, sectionEntries] at distinct ⊢
  rw [Yaml.field?_mergeEntries base keyed.1]
  cases here : field? base sec with
  | none =>
    rw [Yaml.overlay_none_left, Yaml.field?_nil, Yaml.overlay_none_left]
  | some old =>
    obtain ⟨before, rfl⟩ := below old here
    cases there : field? upper sec with
    | none => rw [Yaml.overlay_none_right, Yaml.field?_nil, Yaml.overlay_none_right]
    | some v =>
      obtain ⟨inner, rfl⟩ := above v there
      rw [there] at distinct
      exact Yaml.field?_mergeEntries before distinct key

end Merging

/-- No key of the settings of a file comes twice. -/
theorem keyed_fileSettings {reader : Yaml.Reader} {path : String} {file : SettingsFile}
    {entries : Entries} (given : fileSettings reader path file = .ok entries) : Keyed entries := by
  cases file with
  | absent =>
    obtain rfl := Except.ok.inj given
    exact Yaml.keyed_nil
  | unopened raised => cases given
  | content bytes =>
    rw [fileSettings, readSettings.eq_def] at given
    split at given
    · cases given
    · cases given
    · rename_i found read
      obtain rfl := Except.ok.inj given
      exact reader.keyed bytes found read
    · split at given
      · obtain rfl := Except.ok.inj given
        exact Yaml.keyed_nil
      · cases given

/-- What the environment gives as a layer is what it gives. -/
theorem settings_of_mapError {environment : List (String × String)} {entries : Entries}
    (given : (Environment.settings environment).mapError LoadError.environment = .ok entries) :
    Environment.settings environment = .ok entries := by
  cases found : Environment.settings environment with
  | error refusal =>
    rw [found] at given
    cases given
  | ok settings =>
    rw [found] at given
    cases given
    rfl

/-- The first that something has is that of the first thing or else of the others. -/
theorem findSome?_cons_or {α β : Type} (f : α → Option β) (first : α) (rest : List α) :
    (first :: rest).findSome? f = (f first).or (rest.findSome? f) := by
  rw [List.findSome?_cons]
  cases f first <;> rfl

/-! ## Main result -/

/-- Loading takes every setting from the first layer that has it. -/
theorem settledBy_of_load {sources : Sources} {found : List Entries} {config : Config}
    (keyed : Keyed sources.overrides) (given : layers sources = .ok found)
    (sectioned : ∀ layer ∈ found, Sectioned layer) (loaded : load sources = .ok config) :
    ∀ setting ∈ settings sources.homes, setting.SettledBy found config := by
  obtain ⟨globalFile, globalRead, given⟩ := bind_eq_ok.mp given
  obtain ⟨workspaceFile, workspaceRead, given⟩ := bind_eq_ok.mp given
  obtain ⟨environment, environmentRead, given⟩ := bind_eq_ok.mp given
  obtain rfl := pure_eq_ok.mp given
  have merged : merged sources = .ok (mergeEntries (mergeEntries globalFile workspaceFile)
      (mergeEntries environment sources.overrides)) := by
    rw [Config.merged, globalRead, workspaceRead, environmentRead]
    rfl
  obtain ⟨entries, same, made⟩ := bind_eq_ok.mp loaded
  obtain rfl := Except.ok.inj (merged.symm.trans same)
  obtain ⟨accepted, rfl⟩ := sections_of_ofEntries made
  have workspaceKeyed := keyed_fileSettings workspaceRead
  have upperKeyed := (Environment.keyed_settings (settings_of_mapError environmentRead)).mergeEntries
    keyed.2
  simp only [List.forall_mem_cons, List.not_mem_nil, false_implies, implies_true, and_true]
    at sectioned
  obtain ⟨overridesIn, environmentIn, workspaceIn, globalIn⟩ := sectioned
  have lowerIn : Sectioned (mergeEntries globalFile workspaceFile) := fun sec among =>
    (globalIn sec among).mergeEntries workspaceKeyed (workspaceIn sec among)
  have upperIn : Sectioned (mergeEntries environment sources.overrides) := fun sec among =>
    (environmentIn sec among).mergeEntries keyed (overridesIn sec among)
  have bothIn := fun sec among => (lowerIn sec among).mergeEntries upperKeyed (upperIn sec among)
  intro setting among
  have known : setting.sec ∈ ["logging", "analyzer", "pipeline"] := by
    revert setting
    simp [settings]
  have settled := settles_sections bothIn accepted setting among
  rw [settingIn?_mergeEntries upperKeyed (lowerIn _ known) (upperIn _ known),
    settingIn?_mergeEntries workspaceKeyed (globalIn _ known) (workspaceIn _ known),
    settingIn?_mergeEntries keyed (environmentIn _ known) (overridesIn _ known)] at settled
  have first := settles_findSome settled fun entries => refuses_mapping setting among entries _
  rw [Option.or_assoc] at first
  simpa only [Setting.SettledBy, findSome?_cons_or, List.findSome?_nil, Option.or_none] using first

/-- A configuration that is loaded is the one in which every setting is what the first layer that has
it says, and its default if none has it. -/
theorem load_takes_first {sources : Sources} {found : List Entries} {config : Config}
    (keyed : Keyed sources.overrides) (given : layers sources = .ok found)
    (sectioned : ∀ layer ∈ found, Sectioned layer) (loaded : load sources = .ok config) :
    (∀ setting ∈ settings sources.homes, setting.SettledBy found config) ∧
      ∀ other, (∀ setting ∈ settings sources.homes, setting.SettledBy found other) →
        other = config := by
  have settled := settledBy_of_load keyed given sectioned loaded
  refine ⟨settled, fun other otherSettled => eq_of_settings sources.homes fun setting among => ?_⟩
  exact (otherSettled setting among).unique (settled setting among)

/-- Sources that all have something to say: the environment overrides both files, a list of the
workspace replaces the global one, and the caller takes back what the global file says. -/
def layered : Sources where
  homes := { own := "/home/user" }
  globalPath := "/home/user/config.yaml"
  reader := .byHand
  globalFile := .content (Utf8.bytes
    "logging: \x7blevel: DEBUG\x7d\nanalyzer: \x7bpath: swipl, args: [-q]\x7d")
  workspacePath := "/work/config.yaml"
  workspaceFile := .content (Utf8.bytes
    "logging: \x7blevel: ERROR\x7d\nanalyzer: \x7bargs: []\x7d")
  environment := [("CLAUSEINDEX__LOGGING__LEVEL", "WARNING")]
  overrides := [(.text "analyzer", .mapping [(.text "path", .null)])]

/-- The sources that all have something to say are loaded. -/
theorem load_takes_first_layered :
    ∃ found config, layers layered = .ok found ∧ load layered = .ok config ∧
      config.logging.level = .warning ∧ config.analyzer = {} ∧
      ∀ setting ∈ settings layered.homes, setting.SettledBy found config := by
  have keyed : Keyed layered.overrides := by simp [layered, Keyed, Distinct]
  have sectioned : ((layers layered).toOption.any fun found =>
      decide (∀ layer ∈ found, Sectioned layer)) = true := by decide +kernel
  have loaded : ((load layered).toOption.any fun config =>
      config.logging.level = .warning && config.analyzer = {}) = true := by decide +kernel
  cases given : layers layered with
  | error fault => simp [given, Except.toOption] at sectioned
  | ok found =>
    cases done : load layered with
    | error fault => simp [done, Except.toOption] at loaded
    | ok config =>
      simp only [given, done, Except.toOption, Option.any_some, decide_eq_true_eq,
        Bool.and_eq_true] at sectioned loaded
      exact ⟨found, config, rfl, rfl, loaded.1, loaded.2,
        (load_takes_first keyed given sectioned done).1⟩

end PredicateIndex.Config
