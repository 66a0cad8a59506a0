import PredicateIndex.Proofs.Config.Precedence
import PredicateIndex.Proofs.Path

/-!
# Checking a configuration again

A configuration that was accepted is dumped and checked once more, at a place where nobody waits for
faults. Main result: the second check finds none and gives the configuration that was dumped. A rule
with this law is called stable, and each way to make a rule of others keeps the law, so it is left
to be shown of the rules that rewrite what they are given. A destination is rewritten most: its home
directory is put in and its path is brought into normal form, which is why it is an absolute path in
normal form afterwards and stays as it is.
-/
namespace PredicateIndex.Config

open Yaml (Entries field?)

/-! ## Stable rules -/

section Stable

variable {α β : Type} {check : Yaml → Checked α} {dump : α → Yaml}

/-- A rule accepts a value that is dumped and gives it back. -/
abbrev Keeps (check : Yaml → Checked α) (dump : α → Yaml) (value : α) : Prop :=
  check (dump value) = pure value

/-- A rule accepts everything that it gave without a fault, dumped, and gives it back. -/
abbrev Stable (check : Yaml → Checked α) (dump : α → Yaml) : Prop :=
  ∀ found, (check found).faults = [] → Keeps check dump (check found).value

/-- What is accepted goes on to the next check as it is. -/
@[simp] theorem bind_accepted (value : α) (next : α → Checked β) :
    (pure value >>= next) = next value := rfl

/-- What is accepted is accepted as a part of something larger. -/
@[simp] theorem under_accepted (value : α) (step : PathStep) :
    (pure value : Checked α).under step = pure value := rfl

/-- A list of values that a rule keeps is kept. -/
theorem items_dumped {values : List α} (kept : ∀ value ∈ values, Keeps check dump value) (n : Nat) :
    items check n (values.map dump) = pure values := by
  induction values generalizing n with
  | nil => rfl
  | cons first rest ih =>
    rw [List.forall_mem_cons] at kept
    rw [List.map_cons, items, kept.1, under_accepted, bind_accepted, ih kept.2, bind_accepted]

/-- The values of an accepted list are all kept. -/
theorem keeps_of_mem_items (stable : Stable check dump) {elements : List Yaml} {n : Nat}
    (accepted : (items check n elements).faults = []) :
    ∀ value ∈ (items check n elements).value, Keeps check dump value := by
  induction elements generalizing n with
  | nil => simp [items, pure]
  | cons first rest ih =>
    obtain ⟨head, others⟩ := accepted_bind.mp accepted
    obtain ⟨tail, -⟩ := accepted_bind.mp others
    exact List.forall_mem_cons.mpr ⟨stable first (accepted_under.mp head), ih tail⟩

/-- A list is kept if its values are. -/
theorem keeps_list {values : List α} (kept : ∀ value ∈ values, Keeps check dump value) :
    Keeps (list check) (fun values => .list (values.map dump)) values :=
  items_dumped kept 0

/-- Lists of what a stable rule gives are stable. -/
theorem stable_list (stable : Stable check dump) :
    Stable (list check) fun values => .list (values.map dump) := by
  intro found accepted
  rw [list] at accepted ⊢
  cases listed : elements? found with
  | none =>
    rw [listed] at accepted
    cases accepted
  | some elements =>
    rw [listed] at accepted
    exact keeps_list (keeps_of_mem_items stable accepted)

/-- What is not null is checked as the thing itself. -/
theorem optional_of_present {found : Yaml} (present : found ≠ .null) :
    optional check found = some <$> check found := by
  cases found with
  | null => exact absurd rfl present
  | _ => rfl

/-- An optional thing as a value of a document. -/
def dumpOptional (dump : α → Yaml) (value : Option α) : Yaml := value.elim .null dump

/-- An optional thing is stable if the thing is, and if it is never dumped as null. -/
theorem stable_optional (stable : Stable check dump) (present : ∀ value, dump value ≠ .null) :
    Stable (optional check) (dumpOptional dump) := by
  intro found accepted
  by_cases absent : found = .null
  · subst absent
    rfl
  · rw [optional_of_present absent] at accepted ⊢
    obtain ⟨inner, -⟩ := accepted_bind.mp accepted
    change optional check (dump (check found).value) = some <$> pure (check found).value
    rw [optional_of_present (present _), stable found inner]

/-- A field of an accepted mapping has a value that its rule keeps, if the rule keeps the
default. -/
theorem keeps_field (stable : Stable check dump) {default : α} (kept : Keeps check dump default)
    {entries : Entries} {name : String}
    (accepted : (field entries name default check).faults = []) :
    Keeps check dump (field entries name default check).value := by
  rw [field] at accepted ⊢
  cases found : field? entries name with
  | none => exact kept
  | some v =>
    rw [found] at accepted
    exact stable v (accepted_under.mp accepted)

/-- A field that is dumped is read back, if its rule keeps it. -/
theorem field_dumped {dumped : Entries} {name : String} {default value : α}
    (stands : field? dumped name = some (dump value)) (kept : Keeps check dump value) :
    field dumped name default check = pure value := by
  rw [field, stands]
  change (check (dump value)).under (.key name) = pure value
  rw [kept, under_accepted]

/-- A group of settings is stable if its entries are. -/
theorem stable_group {name : String} {default : α} {check : Entries → Checked α}
    {dump : α → Entries} (stable : ∀ entries, (check entries).faults = [] →
      check (dump (check entries).value) = pure (check entries).value) :
    Stable (group name default check) fun value => .mapping (dump value) := by
  intro found accepted
  cases found with
  | mapping entries => exact stable entries accepted
  | _ => cases accepted

end Stable

/-! ## Rules for single settings -/

/-- Texts are stable. -/
theorem stable_text : Stable text .text := fun _ _ => rfl

/-- Every level is kept. -/
theorem keeps_level (least : LogLevel) :
    Keeps level (fun least => .text least.settingName) least := by
  cases least <;> rfl

/-- Every format is kept. -/
theorem keeps_format (format : LogFormat) :
    Keeps (choice LogFormat.all LogFormat.name .console) (fun format => .text format.name)
      format := by
  cases format <;> rfl

/-- A text as a destination: a stream is taken as it is, and anything else as a path. -/
theorem destination_of_text (homes : FilePath.Homes) {v : Yaml} {s : String}
    (read : textOf v = .ok s) :
    destination homes v =
      if LogOutput.isStream s then pure s
      else match (FilePath.ofText s).expandHome homes with
        | .error fault => .refused "" (.noHome fault) v
        | .ok path =>
          if path.isAbsolute then pure path.text
          else .refused "" (.relativeDestination s) v := by
  rw [destination, text, read]
  rfl

/-- What is no text is no destination. -/
theorem destination_of_refused (homes : FilePath.Homes) {v : Yaml} {problem : Problem}
    (read : textOf v = .error problem) : destination homes v = .refused "" problem v := by
  rw [destination, text, read]
  rfl

/-- An absolute path in normal form is kept. -/
theorem keeps_path {path : FilePath} (homes : FilePath.Homes) (normal : path.Normal)
    (absolute : path.isAbsolute = true) : Keeps (destination homes) .text path.text := by
  rw [Keeps, destination_of_text homes (s := path.text) rfl, FilePath.ofText_text normal,
    FilePath.expandHome_of_isAbsolute homes absolute]
  simp [absolute]

/-- Destinations are stable: a path that was accepted is absolute and in normal form. -/
theorem stable_destination (homes : FilePath.Homes) : Stable (destination homes) .text := by
  intro found accepted
  cases read : textOf found with
  | error problem =>
    rw [destination_of_refused homes read] at accepted
    cases accepted
  | ok s =>
    rw [destination_of_text homes read] at accepted ⊢
    by_cases stream : LogOutput.isStream s
    · have kept : Keeps (destination homes) .text s := by
        rw [Keeps, destination_of_text homes (v := .text s) rfl, if_pos stream]
      rw [if_pos stream]
      exact kept
    · rw [if_neg stream] at accepted ⊢
      cases expanded : (FilePath.ofText s).expandHome homes with
      | error fault =>
        rw [expanded] at accepted
        cases accepted
      | ok path =>
        simp only [expanded] at accepted ⊢
        by_cases absolute : path.isAbsolute
        · rw [if_pos absolute]
          exact keeps_path homes ((FilePath.normal_ofText s).expandHome expanded) absolute
        · rw [if_neg absolute] at accepted
          cases accepted

/-- A path of the analyzer that is dumped is taken unless it is blank. -/
theorem executable_dumped (path : Option String) :
    executable (dumpOptional .text path) = pure (path.filter fun s => !Text.isAllBlank s) := by
  cases path <;> rfl

/-- Paths of the analyzer are stable: a blank one was left out. -/
theorem stable_executable : Stable executable (dumpOptional .text) := by
  intro found _
  change executable (dumpOptional .text ((optional text found).value.filter _)) =
    pure ((optional text found).value.filter _)
  rw [executable_dumped, Option.filter_filter]
  simp

/-- A wait that is dumped is taken unless it is negative. -/
theorem keeps_debounce {seconds : Binary64} (fine : seconds.isBelowZero = false) :
    Keeps debounce .float seconds := by
  simp [Keeps, debounce, number, pure, fine]

/-- Waits are stable: one that was accepted is not negative. -/
theorem stable_debounce : Stable debounce .float := by
  intro found accepted
  by_cases negative : (number found).value.isBelowZero
  · -- A negative number is refused, whether or not it is one of the things that stand for a number.
    exfalso
    by_cases plain : (number found).faults = [] <;> simp_all [debounce, Checked.refused]
  · have same : debounce found = number found := by simp [debounce, negative]
    rw [same]
    exact keeps_debounce (by simpa using negative)

/-! ## Sections -/

/-- An output of the log as entries of a mapping. -/
def outputEntries (output : LogOutput) : Entries :=
  [(.text "format", .text output.format.name), (.text "destination", .text output.destination),
    (.text "level", dumpOptional (fun least => .text least.settingName) output.level)]

/-- An output of the log is dumped as a mapping. -/
theorem dump_logOutput (output : LogOutput) :
    Yaml.ofValue output.toValue = .mapping (outputEntries output) := by
  obtain ⟨format, destination, least⟩ := output
  cases least <;> rfl

/-- Outputs of the log are stable. -/
theorem stable_logOutput (homes : FilePath.Homes) :
    Stable (logOutput homes) fun output => .mapping (outputEntries output) := by
  refine stable_group fun entries accepted => ?_
  obtain ⟨-, accepted⟩ := accepted_bind.mp accepted
  obtain ⟨destination, accepted⟩ := accepted_bind.mp accepted
  obtain ⟨least, -⟩ := accepted_bind.mp accepted
  have keptDestination := keeps_field (stable_destination homes) rfl destination
  have keptLeast :=
    keeps_field (stable_optional (fun _ _ => keeps_level _) fun _ => nofun) rfl least
  rw [field_dumped rfl (keeps_format _), bind_accepted, field_dumped rfl keptDestination,
    bind_accepted, field_dumped rfl keptLeast, bind_accepted]
  rfl

/-- The logging section as entries of a mapping. -/
def loggingEntries (settings : LogSettings) : Entries :=
  [(.text "level", .text settings.level.settingName),
    (.text "outputs", .list (settings.outputs.map fun output => .mapping (outputEntries output)))]

/-- The values of a list are dumped one by one. -/
theorem ofValues_map {α : Type} (toValue : α → Value) (values : List α) :
    Yaml.ofValues (values.map toValue) = values.map fun value => .ofValue (toValue value) := by
  induction values with
  | nil => rfl
  | cons first rest ih => rw [List.map_cons, Yaml.ofValues, ih, List.map_cons]

/-- The logging section is dumped as a mapping. -/
theorem dump_logging (settings : LogSettings) :
    Yaml.ofValue settings.toValue = .mapping (loggingEntries settings) := by
  have outputs := ofValues_map LogOutput.toValue settings.outputs
  simp only [dump_logOutput] at outputs
  rw [LogSettings.toValue, Yaml.ofValue, Yaml.ofFields, Yaml.ofFields, Yaml.ofFields, Yaml.ofValue,
    Yaml.ofValue, outputs]
  rfl

/-- The logging section is stable. -/
theorem stable_logging (homes : FilePath.Homes) :
    Stable (loggingSection homes) fun settings => .mapping (loggingEntries settings) := by
  refine stable_group fun entries accepted => ?_
  obtain ⟨-, accepted⟩ := accepted_bind.mp accepted
  obtain ⟨outputs, -⟩ := accepted_bind.mp accepted
  have standard := stable_logOutput homes (.mapping []) rfl
  have keptOutputs := keeps_field (stable_list (stable_logOutput homes))
    (keeps_list (List.forall_mem_singleton.mpr standard)) outputs
  rw [field_dumped rfl (keeps_level _), bind_accepted, field_dumped rfl keptOutputs, bind_accepted]
  rfl

/-- The analyzer section as entries of a mapping. -/
def analyzerEntries (settings : AnalyzerSettings) : Entries :=
  [(.text "path", dumpOptional .text settings.path),
    (.text "args", .list (settings.args.map .text))]

/-- The analyzer section is dumped as a mapping. -/
theorem dump_analyzer (settings : AnalyzerSettings) :
    Yaml.ofValue settings.toValue = .mapping (analyzerEntries settings) := by
  have args := ofValues_map Value.text settings.args
  obtain ⟨path, _⟩ := settings
  rw [AnalyzerSettings.toValue, Yaml.ofValue, Yaml.ofFields, Yaml.ofFields, Yaml.ofFields,
    Yaml.ofValue, args]
  cases path <;> rfl

/-- The analyzer section is stable. -/
theorem stable_analyzer :
    Stable analyzerSection fun settings => .mapping (analyzerEntries settings) := by
  refine stable_group fun entries accepted => ?_
  obtain ⟨path, accepted⟩ := accepted_bind.mp accepted
  obtain ⟨args, -⟩ := accepted_bind.mp accepted
  have keptPath := keeps_field stable_executable rfl path
  have keptArgs := keeps_field (stable_list stable_text) rfl args
  rw [field_dumped rfl keptPath, bind_accepted, field_dumped rfl keptArgs, bind_accepted]
  rfl

/-- The pipeline section as entries of a mapping. -/
def pipelineEntries (settings : PipelineSettings) : Entries :=
  [(.text "debounce_sec", .float settings.debounceSeconds)]

/-- The pipeline section is stable. -/
theorem stable_pipeline :
    Stable pipelineSection fun settings => .mapping (pipelineEntries settings) := by
  refine stable_group fun entries accepted => ?_
  obtain ⟨debounceSeconds, -⟩ := accepted_bind.mp accepted
  have kept := keeps_field stable_debounce (keeps_debounce rfl) debounceSeconds
  dsimp only
  rw [field_dumped rfl kept, bind_accepted]
  rfl

/-- The sections of a configuration as entries of a mapping. -/
def configEntries (config : Config) : Entries :=
  [(.text "logging", .mapping (loggingEntries config.logging)),
    (.text "analyzer", .mapping (analyzerEntries config.analyzer)),
    (.text "pipeline", .mapping (pipelineEntries config.pipeline))]

/-- A configuration is dumped as a mapping. -/
theorem dump_config (config : Config) :
    Yaml.ofValue config.toValue = .mapping (configEntries config) := by
  rw [Config.toValue, Yaml.ofValue, Yaml.ofFields, Yaml.ofFields, Yaml.ofFields, Yaml.ofFields,
    dump_logging, dump_analyzer]
  rfl

/-- Sections that were accepted are accepted again and stay as they are. -/
theorem sections_dumped {homes : FilePath.Homes} {entries : Entries}
    (accepted : (sections homes entries).faults = []) :
    sections homes (configEntries (sections homes entries).value) =
      pure (sections homes entries).value := by
  obtain ⟨logging, accepted⟩ := accepted_bind.mp accepted
  obtain ⟨analyzer, accepted⟩ := accepted_bind.mp accepted
  obtain ⟨pipeline, -⟩ := accepted_bind.mp accepted
  have keptLogging :=
    keeps_field (stable_logging homes) (stable_logging homes (.mapping []) rfl) logging
  have keptAnalyzer := keeps_field stable_analyzer (stable_analyzer (.mapping []) rfl) analyzer
  have keptPipeline := keeps_field stable_pipeline (stable_pipeline (.mapping []) rfl) pipeline
  rw [sections, field_dumped rfl keptLogging, bind_accepted, field_dumped rfl keptAnalyzer,
    bind_accepted, field_dumped rfl keptPipeline, bind_accepted]
  rfl

/-! ## Main result -/

/-- A configuration that was made of merged settings passes a second check, without a fault and
unchanged. -/
theorem second_check_changes_nothing (homes : FilePath.Homes) :
    (∀ entries config, ofEntries homes entries = .ok config →
      lenient homes (.ofValue config.toValue) = pure config) ∧
    Stable (destination homes) .text ∧ Stable executable (dumpOptional .text) ∧
    Stable debounce .float := by
  refine ⟨fun entries config made => ?_, stable_destination homes, stable_executable,
    stable_debounce⟩
  obtain ⟨accepted, rfl⟩ := sections_of_ofEntries made
  rw [dump_config]
  exact sections_dumped accepted

/-- Settings that the first check rewrites: a home directory is put in, empty names and points go, a
blank path counts as none, and a number is given as a text. -/
def rewritten : Entries :=
  [(.text "logging", .mapping [(.text "outputs", .list
      [.mapping [(.text "destination", .text "~/logs//./run.log")],
       .mapping [(.text "destination", .text "//share/../x/"), (.text "level", .text "ERROR")]])]),
   (.text "analyzer", .mapping [(.text "path", .text " \t")]),
   (.text "pipeline", .mapping [(.text "debounce_sec", .text "-0.0")])]

/-- The settings that are rewritten by the first check are left alone by the second. -/
theorem second_check_changes_nothing_rewritten :
    ∃ config, ofEntries { own := "/home/user/" } rewritten = .ok config ∧
      config.logging.outputs.map LogOutput.destination =
        ["/home/user/logs/run.log", "//share/../x"] ∧
      config.analyzer.path = none ∧
      lenient { own := "/home/user/" } (.ofValue config.toValue) = pure config := by
  have evaluated : ((ofEntries { own := "/home/user/" } rewritten).toOption.any fun config =>
      config.logging.outputs.map LogOutput.destination = ["/home/user/logs/run.log", "//share/../x"]
        && config.analyzer.path = none) = true := by decide +kernel
  cases made : ofEntries { own := "/home/user/" } rewritten with
  | error fault => simp [made, Except.toOption] at evaluated
  | ok config =>
    simp only [made, Except.toOption, Option.any_some, Bool.and_eq_true, decide_eq_true_eq]
      at evaluated
    exact ⟨config, rfl, evaluated.1, evaluated.2,
      (second_check_changes_nothing { own := "/home/user/" }).1 rewritten config made⟩

end PredicateIndex.Config
