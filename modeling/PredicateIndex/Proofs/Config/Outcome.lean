import PredicateIndex.Cli.Session
import PredicateIndex.Proofs.Config.Faults
import PredicateIndex.Proofs.Config.Variables

/-!
# What becomes of a configuration that is wrong

A configuration that is not loaded is wrong in one of a few ways. Some of them are reported as failures
of the configuration: a file that is no document or no mapping, a section whose name cannot be read,
and the first broken rule. Others escape: what a file that cannot be opened raises, what its reader
raises besides its complaints, a variable of the environment that cannot be read, a section that is not
named by a text, a break that interrupts the check, and an integer with so many digits that it cannot be
put into the message. Main result: whatever the reader makes of the bytes of the files, loading ends
with a failure or an escape exactly where there is one, and a run of the program prints the former and
is broken off by the latter.
-/
namespace PredicateIndex.Config

open Yaml (Entries bind_eq_error bind_eq_ok mapError_eq_error mapError_eq_ok mergeEntries)

/-! ## Files -/

/-- A file holds no settings, for a reason that is reported. -/
inductive Spoiled (reader : Yaml.Reader) : SettingsFile → String → Prop where
  /-- It is no document, as the reader says. -/
  | malformed (bytes : List UInt8) (reason : String) (read : reader.read bytes = .malformed reason) :
    Spoiled reader (.content bytes) reason
  /-- It is a document that is neither a mapping nor empty. -/
  | flat (bytes : List UInt8) (document : Yaml) (read : reader.read bytes = .document document)
    (filled : document.isEmptyDocument = false) (other : ∀ entries, document ≠ .mapping entries) :
    Spoiled reader (.content bytes) "top level must be a mapping"

/-- Something else is raised at a file. -/
inductive Raises (reader : Yaml.Reader) : SettingsFile → Yaml.Raised → Prop where
  /-- It cannot be opened. -/
  | unopened (raised : Yaml.Raised) : Raises reader (.unopened raised) raised
  /-- The reader gives up. -/
  | content (bytes : List UInt8) (raised : Yaml.Raised) (read : reader.read bytes = .raised raised) :
    Raises reader (.content bytes) raised

/-- The settings that a file gives. -/
inductive Gives (reader : Yaml.Reader) : SettingsFile → Entries → Prop where
  /-- An absent file has none. -/
  | absent : Gives reader .absent []
  /-- A mapping has its entries. -/
  | mapping (bytes : List UInt8) (entries : Entries)
    (read : reader.read bytes = .document (.mapping entries)) : Gives reader (.content bytes) entries
  /-- An empty document has none. -/
  | empty (bytes : List UInt8) (document : Yaml) (read : reader.read bytes = .document document)
    (empty : document.isEmptyDocument) (other : ∀ entries, document ≠ .mapping entries) :
    Gives reader (.content bytes) []

/-- What reading a file comes to. -/
inductive FileOutcome (reader : Yaml.Reader) (path : String) (file : SettingsFile) :
    Except LoadError Entries → Prop where
  /-- Its settings. -/
  | settings {entries : Entries} (gives : Gives reader file entries) :
    FileOutcome reader path file (.ok entries)
  /-- A failure. -/
  | spoiled {reason : String} (spoiled : Spoiled reader file reason) :
    FileOutcome reader path file (.error (.failure (.configParse path reason)))
  /-- An escape. -/
  | raised {raised : Yaml.Raised} (raises : Raises reader file raised) :
    FileOutcome reader path file (.error (.raised raised))

section Files

variable {reader : Yaml.Reader} {path : String} {file : SettingsFile}

/-- A document that is no mapping has no settings, or none that can be read. -/
theorem readSettings_of_flat {document : Yaml} (other : ∀ entries, document ≠ .mapping entries) :
    readSettings path (.document document) =
      if document.isEmptyDocument then .ok []
      else .error (.failure (.configParse path "top level must be a mapping")) := by
  cases document with
  | mapping entries => exact absurd rfl (other entries)
  | _ => rfl

/-- Reading a file comes to one of its outcomes. -/
theorem fileOutcome_fileSettings (reader : Yaml.Reader) (path : String) (file : SettingsFile) :
    FileOutcome reader path file (fileSettings reader path file) := by
  cases file with
  | absent => exact .settings .absent
  | unopened raised => exact .raised (.unopened raised)
  | content bytes =>
    rw [fileSettings]
    cases read : reader.read bytes with
    | malformed reason => exact .spoiled (.malformed bytes reason read)
    | raised raised => exact .raised (.content bytes raised read)
    | document document =>
      by_cases flat : ∀ entries, document ≠ .mapping entries
      · rw [readSettings_of_flat flat]
        cases empty : document.isEmptyDocument with
        | true => exact .settings (.empty bytes document read empty flat)
        | false => exact .spoiled (.flat bytes document read empty flat)
      · push Not at flat
        obtain ⟨entries, rfl⟩ := flat
        exact .settings (.mapping bytes entries read)

/-- Reading a file does not come to two outcomes. -/
theorem FileOutcome.eq_fileSettings {outcome : Except LoadError Entries}
    (comes : FileOutcome reader path file outcome) : outcome = fileSettings reader path file := by
  cases comes with
  | settings gives =>
    cases gives with
    | absent => rfl
    | mapping bytes entries read => rw [fileSettings, read, readSettings]
    | empty bytes document read empty other =>
      rw [fileSettings, read, readSettings_of_flat other, if_pos empty]
  | spoiled spoiled =>
    cases spoiled with
    | malformed bytes reason read => rw [fileSettings, read, readSettings]
    | flat bytes document read filled other =>
      rw [fileSettings, read, readSettings_of_flat other, filled, if_neg Bool.false_ne_true]
  | raised raises =>
    cases raises with
    | unopened raised => rfl
    | content bytes raised read => rw [fileSettings, read, readSettings]

/-- A file gives the settings that are read from it. -/
theorem fileSettings_eq_ok {entries : Entries} :
    fileSettings reader path file = .ok entries ↔ Gives reader file entries := by
  constructor
  · intro read
    have outcome := fileOutcome_fileSettings reader path file
    rw [read] at outcome
    cases outcome with
    | settings gives => exact gives
  · intro gives
    exact (FileOutcome.settings gives).eq_fileSettings.symm

/-- A file that gives no settings is spoiled, or something else is raised at it. -/
theorem fileSettings_eq_error {error : LoadError} :
    fileSettings reader path file = .error error ↔
      (∃ reason, Spoiled reader file reason ∧ error = .failure (.configParse path reason)) ∨
        ∃ raised, Raises reader file raised ∧ error = .raised raised := by
  constructor
  · intro read
    have outcome := fileOutcome_fileSettings reader path file
    rw [read] at outcome
    cases outcome with
    | spoiled spoiled => exact .inl ⟨_, spoiled, rfl⟩
    | raised raises => exact .inr ⟨_, raises, rfl⟩
  · rintro (⟨reason, spoiled, rfl⟩ | ⟨raised, raises, rfl⟩)
    · exact (FileOutcome.spoiled spoiled).eq_fileSettings.symm
    · exact (FileOutcome.raised raises).eq_fileSettings.symm

end Files

/-! ## Values that cannot be put into a message -/

/-- An integer stands in a value. -/
inductive Holds : Yaml → Int → Prop where
  /-- It is the value. -/
  | here (n : Int) : Holds (.int n) n
  /-- It stands in an element of a list, of a set or of a pair. -/
  | element {v u : Yaml} {items : List Yaml} {n : Int} (lists : Lists v items) (among : u ∈ items)
    (holds : Holds u n) : Holds v n
  /-- It stands in a key of a mapping. -/
  | key {entries : Entries} {key v : Yaml} {n : Int} (among : (key, v) ∈ entries)
    (holds : Holds key n) : Holds (.mapping entries) n
  /-- It stands in a value of a mapping. -/
  | value {entries : Entries} {key v : Yaml} {n : Int} (among : (key, v) ∈ entries)
    (holds : Holds v n) : Holds (.mapping entries) n

/-- An integer with more than 4300 digits stands in a value. -/
def HoldsHuge (v : Yaml) : Prop := ∃ n, Holds v n ∧ 4300 < (Nat.toDigits 10 n.natAbs).length

/-- No integer stands in a value that is none and has no parts. -/
theorem not_holdsHuge {v : Yaml} (integer : ∀ n, v ≠ .int n) (parts : elements? v = none)
    (mapping : ∀ entries, v ≠ .mapping entries) : ¬HoldsHuge v := by
  rintro ⟨n, holds, -⟩
  cases holds with
  | here => exact integer n rfl
  | element lists => cases parts.symm.trans (elements?_eq_some.mpr lists)
  | key | value => exact mapping _ rfl

/-- Only the integer itself stands in an integer. -/
theorem holdsHuge_int {n : Int} :
    HoldsHuge (.int n) ↔ 4300 < (Nat.toDigits 10 n.natAbs).length := by
  constructor
  · rintro ⟨m, holds, huge⟩
    cases holds with
    | here => exact huge
    | element lists => cases lists
  · exact fun huge => ⟨n, .here n, huge⟩

/-- What stands in a list, a set or a pair stands in one of its elements. -/
theorem holdsHuge_of_lists {v : Yaml} {items : List Yaml} (lists : Lists v items) :
    HoldsHuge v ↔ ∃ u ∈ items, HoldsHuge u := by
  constructor
  · rintro ⟨n, holds, huge⟩
    cases holds with
    | here => cases lists
    | element other among holds =>
      rw [lists.unique other] at among
      exact ⟨_, among, n, holds, huge⟩
    | key | value => cases lists
  · rintro ⟨u, among, n, holds, huge⟩
    exact ⟨n, .element lists among holds, huge⟩

/-- What stands in a mapping stands in one of its keys or values. -/
theorem holdsHuge_mapping {entries : Entries} : HoldsHuge (.mapping entries) ↔
    ∃ entry ∈ entries, HoldsHuge entry.1 ∨ HoldsHuge entry.2 := by
  constructor
  · rintro ⟨n, holds, huge⟩
    cases holds with
    | element lists => cases lists
    | key among holds => exact ⟨_, among, .inl ⟨n, holds, huge⟩⟩
    | value among holds => exact ⟨_, among, .inr ⟨n, holds, huge⟩⟩
  · rintro ⟨⟨key, v⟩, among, ⟨n, holds, huge⟩ | ⟨n, holds, huge⟩⟩
    · exact ⟨n, .key among holds, huge⟩
    · exact ⟨n, .value among holds, huge⟩

/-- A number has more digits than some exactly if it is not below this power of ten. -/
theorem lt_length_toDigits_iff (n : Nat) {k : Nat} (some : 0 < k) :
    k < (Nat.toDigits 10 n).length ↔ ¬n < Nat.pow 10 k := by
  rw [← Nat.not_le, Nat.length_toDigits_le_iff (by decide) some, Nat.pow_eq]

mutual

/-- A value cannot be put into a message exactly if a huge integer stands in it. -/
theorem isWritable_eq_false : (v : Yaml) → (v.isWritable = false ↔ HoldsHuge v)
  | .int n => by
    rw [Yaml.isWritable, holdsHuge_int, decide_eq_false_iff_not]
    exact (lt_length_toDigits_iff n.natAbs (by decide : 0 < Numeral.digitLimit)).symm
  | .list items => by
    rw [Yaml.isWritable, holdsHuge_of_lists (.list items), areWritable_eq_false items]
  | .set members => by
    rw [Yaml.isWritable, holdsHuge_of_lists (.set members), areWritable_eq_false members]
  | .pair first second => by
    rw [Yaml.isWritable, holdsHuge_of_lists (.pair first second), Bool.and_eq_false_iff,
      isWritable_eq_false first, isWritable_eq_false second]
    simp
  | .mapping entries => by rw [Yaml.isWritable, holdsHuge_mapping, haveWritable_eq_false entries]
  | .null | .bool _ | .float _ | .text _ | .stamp _ | .bytes _ =>
    iff_of_false Bool.noConfusion (not_holdsHuge (by simp) rfl (by simp))

/-- The same for the values of a list. -/
theorem areWritable_eq_false :
    (items : List Yaml) → (Yaml.areWritable items = false ↔ ∃ v ∈ items, HoldsHuge v)
  | [] => by simp [Yaml.areWritable]
  | v :: rest => by
    rw [Yaml.areWritable, Bool.and_eq_false_iff, isWritable_eq_false v, areWritable_eq_false rest,
      List.exists_mem_cons_iff]

/-- The same for the keys and values of a mapping. -/
theorem haveWritable_eq_false : (entries : Entries) → (Yaml.haveWritable entries = false ↔
    ∃ entry ∈ entries, HoldsHuge entry.1 ∨ HoldsHuge entry.2)
  | [] => by simp [Yaml.haveWritable]
  | (key, v) :: rest => by
    rw [Yaml.haveWritable, Bool.and_eq_false_iff, Bool.and_eq_false_iff, isWritable_eq_false key,
      isWritable_eq_false v, haveWritable_eq_false rest, List.exists_mem_cons_iff]

end

/-! ## Merged settings -/

/-- The settings of all layers, merged. -/
inductive Merged (sources : Sources) : Entries → Prop where
  /-- The files give settings, and so does the environment. -/
  | layers {globalFile workspaceFile given : Entries}
    (global : Gives sources.reader sources.globalFile globalFile)
    (workspace : Gives sources.reader sources.workspaceFile workspaceFile)
    (environment : Environment.settings sources.environment = .ok given) :
    Merged sources (mergeEntries (mergeEntries globalFile workspaceFile)
      (mergeEntries given sources.overrides))

/-- The first key that is a text with an unpaired surrogate. -/
def FirstUnreadable (entries : Entries) (name : String) : Prop :=
  ∃ before found after, entries = before ++ (.text name, found) :: after ∧
    Text.isWellFormed name = false ∧
    ∀ entry ∈ before, ∀ earlier, entry.1 = .text earlier → Text.isWellFormed earlier

/-- The rules that are broken by merged settings. -/
abbrev BrokenIn (sources : Sources) (entries : Entries) : Breaks :=
  Broken sources.homes .config (.mapping entries)

/-- Merged settings that are checked to the end: every section is named by a text, and no break
interrupts the check. -/
structure Checkable (sources : Sources) (entries : Entries) : Prop where
  /-- They are merged. -/
  merged : Merged sources entries
  /-- Every section is named by a text. -/
  named : ∀ entry ∈ entries, ∃ name, entry.1 = .text name
  /-- No break interrupts the check. -/
  whole : ∀ address fault, BrokenIn sources entries address fault →
    fault.problem.interruption? = none

/-- A rule is broken in settings that are checked to the end, and none that comes before it. -/
inductive BreaksFirst (sources : Sources) : Fault → Prop where
  /-- Every name of a section can be read, and the address of the break is the smallest. -/
  | at {entries : Entries} {address : List Nat} {fault : Fault} (checkable : Checkable sources entries)
    (readable : ∀ entry ∈ entries, ∀ name, entry.1 = .text name → Text.isWellFormed name)
    (broken : BrokenIn sources entries address fault)
    (first : ∀ other fault', BrokenIn sources entries other fault' → ¬other < address) :
    BreaksFirst sources fault

/-! ## Failures and escapes -/

/-- The path of the first file that is spoiled, and the reason. -/
inductive FirstSpoiled (sources : Sources) : String → String → Prop where
  /-- The global file. -/
  | globalFile {reason : String} (spoiled : Spoiled sources.reader sources.globalFile reason) :
    FirstSpoiled sources sources.globalPath reason
  /-- The workspace file. -/
  | workspaceFile {globalFile : Entries} {reason : String}
    (global : Gives sources.reader sources.globalFile globalFile)
    (spoiled : Spoiled sources.reader sources.workspaceFile reason) :
    FirstSpoiled sources sources.workspacePath reason

/-- A failure is reported. -/
inductive Reported (sources : Sources) : Failure → Prop where
  /-- A file is spoiled. -/
  | file {path reason : String} (first : FirstSpoiled sources path reason) :
    Reported sources
      { code := .configParse
        message := s!"Failed to parse config at {path}: {reason}"
        details := [("path", .text path), ("reason", .text reason)] }
  /-- The name of a section cannot be read. -/
  | sectionName {entries : Entries} {name : String} (checkable : Checkable sources entries)
    (first : FirstUnreadable entries name) :
    Reported sources
      { code := .configInvalid
        message := "Invalid value for '': Input should be a valid string, unable to parse raw data " ++
          "as a unicode string"
        details := [("field", .text ""), ("value", .text name), ("reason", .text
          "Input should be a valid string, unable to parse raw data as a unicode string")] }
  /-- A rule is broken, and none that comes before it. -/
  | setting {fault : Fault} (breaks : BreaksFirst sources fault)
    (writable : ¬HoldsHuge fault.found) :
    Reported sources
      { code := .configInvalid
        message := s!"Invalid value for '{Path.text fault.path}': {fault.problem.message}"
        details := [("field", .text (Path.text fault.path)), ("value", .text fault.found.display),
          ("reason", .text fault.problem.message)] }

/-- An error escapes. -/
inductive Escapes (sources : Sources) : LoadError → Prop where
  /-- Something else is raised at the global file. -/
  | globalFile {raised : Yaml.Raised}
    (raises : Raises sources.reader sources.globalFile raised) : Escapes sources (.raised raised)
  /-- Something else is raised at the workspace file. -/
  | workspaceFile {globalFile : Entries} {raised : Yaml.Raised}
    (global : Gives sources.reader sources.globalFile globalFile)
    (raises : Raises sources.reader sources.workspaceFile raised) : Escapes sources (.raised raised)
  /-- A section has a variable that cannot be read, and none before it has; its first such variable
  counts. -/
  | environment {globalFile workspaceFile : Entries} {before after : List Environment.Section}
    {sec : Environment.Section} {fault : Json.ReadError}
    (global : Gives sources.reader sources.globalFile globalFile)
    (workspace : Gives sources.reader sources.workspaceFile workspaceFile)
    (split : Environment.sections = before ++ sec :: after)
    (readable : ∀ earlier ∈ before, ∀ other,
      ¬Environment.Unreadable earlier (Environment.lowerCase sources.environment) other)
    (unreadable : Environment.Unreadable sec (Environment.lowerCase sources.environment) fault) :
    Escapes sources (.environment { name := sec.name, fault })
  /-- A section is not named by a text. -/
  | sectionName {entries : Entries} {entry : Yaml × Yaml} (merged : Merged sources entries)
    (among : entry ∈ entries) (unnamed : ∀ name, entry.1 ≠ .text name) :
    Escapes sources .sectionName
  /-- A break interrupts the check, and none before it does. -/
  | interrupted {entries : Entries} {address : List Nat} {fault : Fault}
    {interruption : Interruption} (merged : Merged sources entries)
    (named : ∀ entry ∈ entries, ∃ name, entry.1 = .text name)
    (broken : BrokenIn sources entries address fault)
    (interrupts : fault.problem.interruption? = some interruption)
    (first : ∀ other fault', BrokenIn sources entries other fault' → other < address →
      fault'.problem.interruption? = none) : Escapes sources (.interrupted interruption)
  /-- A rule is broken, and none that comes before it, by a value that cannot be put into the
  message. -/
  | unwritable {fault : Fault} (breaks : BreaksFirst sources fault)
    (huge : HoldsHuge fault.found) : Escapes sources .unwritable

section Loading

variable {sources : Sources} {entries : Entries} {error : LoadError}

/-- Settings are merged if all layers give them. -/
theorem merged_eq_ok : merged sources = .ok entries ↔ Merged sources entries := by
  simp only [merged, bind_eq_ok, fileSettings_eq_ok, mapError_eq_ok, Yaml.pure_eq_ok]
  constructor
  · rintro ⟨globalFile, global, workspaceFile, workspace, given, environment, rfl⟩
    exact .layers global workspace environment
  · rintro ⟨global, workspace, environment⟩
    exact ⟨_, global, _, workspace, _, environment, rfl⟩

/-- Settings are not merged if a file gives none or the environment is refused. -/
theorem merged_eq_error : merged sources = .error error ↔
    ((∃ reason, Spoiled sources.reader sources.globalFile reason ∧
        error = .failure (.configParse sources.globalPath reason)) ∨
      ∃ raised, Raises sources.reader sources.globalFile raised ∧ error = .raised raised) ∨
    ∃ globalFile, Gives sources.reader sources.globalFile globalFile ∧
      (((∃ reason, Spoiled sources.reader sources.workspaceFile reason ∧
          error = .failure (.configParse sources.workspacePath reason)) ∨
        ∃ raised, Raises sources.reader sources.workspaceFile raised ∧ error = .raised raised) ∨
      ∃ workspaceFile, Gives sources.reader sources.workspaceFile workspaceFile ∧
        ∃ refusal, Environment.settings sources.environment = .error refusal ∧
          .environment refusal = error) := by
  simp only [merged, bind_eq_error, fileSettings_eq_ok, fileSettings_eq_error, mapError_eq_ok,
    mapError_eq_error]
  simp [pure, Except.pure]

/-- The fault of an entry whose key cannot be read. -/
def unreadableFault? (entry : Yaml × Yaml) : Option Fault :=
  match entry.1 with
  | .text name =>
    if Text.isWellFormed name then none
    else some { path := [], problem := .notCharacters, found := entry.1 }
  | _ => none

/-- An entry has such a fault exactly if its key is a text with an unpaired surrogate. -/
theorem unreadableFault?_eq_some {entry : Yaml × Yaml} {fault : Fault} :
    unreadableFault? entry = some fault ↔ ∃ name, entry.1 = .text name ∧
      Text.isWellFormed name = false ∧
      fault = { path := [], problem := .notCharacters, found := .text name } := by
  obtain ⟨key, v⟩ := entry
  cases key with
  | text name =>
    cases characters : Text.isWellFormed name with
    | true => simp [unreadableFault?, characters]
    | false =>
      simp only [unreadableFault?, characters, Bool.false_eq_true, if_false, Option.some.injEq,
        Yaml.text.injEq, exists_eq_left', true_and]
      exact eq_comm
  | _ => simp [unreadableFault?]

/-- An entry has no such fault exactly if its key is no such text. -/
theorem unreadableFault?_eq_none {entry : Yaml × Yaml} : unreadableFault? entry = none ↔
    ∀ name, entry.1 = .text name → Text.isWellFormed name := by
  obtain ⟨key, v⟩ := entry
  cases key <;> simp [unreadableFault?]

/-- The first key that cannot be read is found, if there is one. -/
theorem unreadableKey?_eq_some {fault : Fault} : unreadableKey? entries = some fault ↔
    ∃ name, FirstUnreadable entries name ∧
      fault = { path := [], problem := .notCharacters, found := .text name } := by
  change entries.findSome? unreadableFault? = some fault ↔ _
  simp only [List.findSome?_eq_some_iff, unreadableFault?_eq_some, unreadableFault?_eq_none,
    FirstUnreadable]
  constructor
  · rintro ⟨before, ⟨key, v⟩, after, split, ⟨name, rfl, unpaired, rfl⟩, earlier⟩
    exact ⟨name, ⟨before, v, after, split, unpaired, earlier⟩, rfl⟩
  · rintro ⟨name, ⟨before, v, after, split, unpaired, earlier⟩, rfl⟩
    exact ⟨before, (.text name, v), after, split, ⟨name, rfl, unpaired, rfl⟩, earlier⟩

/-- No key is found exactly if all can be read. -/
theorem unreadableKey?_eq_none : unreadableKey? entries = none ↔
    ∀ entry ∈ entries, ∀ name, entry.1 = .text name → Text.isWellFormed name := by
  change entries.findSome? unreadableFault? = none ↔ _
  simp only [List.findSome?_eq_none_iff, unreadableFault?_eq_none]

/-- A section that does not exist does not interrupt the check. -/
theorem interruption?_sections (homes : FilePath.Homes) (entries : Entries) :
    (sections homes entries).interruption? =
      ((sections homes entries).faults ++ unknownSections entries).findSome? fun fault =>
        fault.problem.interruption? := by
  have silent : (unknownSections entries).findSome? (fun fault => fault.problem.interruption?) =
      none := by
    rw [List.findSome?_eq_none_iff]
    intro fault among
    obtain ⟨entry, -, found⟩ := List.mem_filterMap.mp among
    obtain ⟨name, -, -, rfl⟩ := unknownSection?_eq_some.mp found
    rfl
  rw [List.findSome?_append, silent, Option.or_none]
  rfl

/-- Every key is a text exactly if no entry has another. -/
theorem all_hasTextKey : entries.all hasTextKey = true ↔
    ∀ entry ∈ entries, ∃ name, entry.1 = .text name := by
  rw [List.all_eq_true]
  refine forall₂_congr fun entry _ => ?_
  obtain ⟨key, v⟩ := entry
  cases key <;> simp [hasTextKey]

/-- Merged settings make no configuration if a section is not named by a text; if the check is
interrupted; if the name of a section cannot be read; or if there is a fault. The first of these
counts. -/
theorem ofEntries_eq_error {homes : FilePath.Homes} : ofEntries homes entries = .error error ↔
    (∃ entry ∈ entries, ∀ name, entry.1 ≠ .text name) ∧ error = .sectionName ∨
    (∀ entry ∈ entries, ∃ name, entry.1 = .text name) ∧
      ((∃ interruption, (sections homes entries).interruption? = some interruption ∧
        error = .interrupted interruption) ∨
      (sections homes entries).interruption? = none ∧
        ((∃ fault, unreadableKey? entries = some fault ∧ error = fault.error) ∨
        unreadableKey? entries = none ∧
          ∃ fault, ((sections homes entries).faults ++ unknownSections entries).findSome? some =
            some fault ∧ error = fault.error)) := by
  by_cases named : entries.all hasTextKey = true
  · have texts := all_hasTextKey.mp named
    have none : ¬∃ entry ∈ entries, ∀ name, entry.1 ≠ .text name := by
      rintro ⟨entry, among, unnamed⟩
      obtain ⟨name, same⟩ := texts entry among
      exact unnamed name same
    rw [ofEntries, if_pos named, or_iff_right (fun wrong => none wrong.1),
      and_iff_right texts]
    cases interrupted : (sections homes entries).interruption? with
    | some interruption => simp [eq_comm]
    | none =>
      cases unreadable : unreadableKey? entries with
      | some fault => simp [strict, unreadable, eq_comm]
      | none =>
        cases faults : (sections homes entries).faults ++ unknownSections entries with
        | nil => simp [strict, unreadable, faults]
        | cons fault rest => simp [strict, unreadable, faults, eq_comm]
  · have unnamed : ∃ entry ∈ entries, ∀ name, entry.1 ≠ .text name := by
      have some := mt all_hasTextKey.mpr named
      push Not at some
      exact some
    have texts := mt all_hasTextKey.mpr named
    rw [ofEntries, if_neg named, or_iff_left (fun right => texts right.1), and_iff_right unnamed]
    simp [eq_comm]

/-- Checkable settings are checked to the end. -/
theorem Checkable.interruption?_eq_none (checkable : Checkable sources entries) :
    (sections sources.homes entries).interruption? = none := by
  rw [interruption?_sections]
  exact ((enumerates_config sources.homes entries).findSome?_eq_none _).mpr checkable.whole

/-- Loading goes on to the check with merged settings. -/
theorem load_of_merged (merged : Merged sources entries) :
    load sources = ofEntries sources.homes entries := by
  rw [load, merged_eq_ok.mpr merged]
  rfl

/-- Loading fails where merging does. -/
theorem load_of_merged_eq_error (failed : merged sources = .error error) :
    load sources = .error error :=
  bind_eq_error.mpr (.inl failed)

/-- The rule that is broken first makes loading fail. -/
theorem BreaksFirst.load {fault : Fault} (breaks : BreaksFirst sources fault) :
    load sources = .error fault.error := by
  obtain ⟨checkable, readable, broken, first⟩ := breaks
  rw [load_of_merged checkable.merged, ofEntries_eq_error]
  refine .inr ⟨checkable.named, .inr ⟨checkable.interruption?_eq_none, ?_⟩⟩
  refine .inr ⟨unreadableKey?_eq_none.mpr readable, _, ?_, rfl⟩
  refine ((enumerates_config sources.homes _).findSome?_eq_some _ _).mpr ⟨_, _, broken, rfl, ?_⟩
  intro other fault' there less
  exact absurd less (first other fault' there)

/-- A fault whose value can be put into the message becomes a failure. -/
theorem Fault.error_of_writable {fault : Fault} (writable : ¬HoldsHuge fault.found) :
    fault.error = .failure fault.failure := by
  rw [Fault.error, if_pos]
  rwa [← Bool.not_eq_false, isWritable_eq_false]

/-- A fault whose value cannot be put into the message does not. -/
theorem Fault.error_of_huge {fault : Fault} (huge : HoldsHuge fault.found) :
    fault.error = .unwritable := by
  rw [Fault.error, (isWritable_eq_false _).mpr huge, if_neg Bool.false_ne_true]

/-- What is reported makes loading fail with this failure. -/
theorem Reported.load {failure : Failure} (reported : Reported sources failure) :
    load sources = .error (.failure failure) := by
  cases reported with
  | file first =>
    refine load_of_merged_eq_error (merged_eq_error.mpr ?_)
    cases first with
    | globalFile spoiled => exact .inl (.inl ⟨_, spoiled, rfl⟩)
    | workspaceFile global spoiled => exact .inr ⟨_, global, .inl (.inl ⟨_, spoiled, rfl⟩)⟩
  | sectionName checkable first =>
    rw [load_of_merged checkable.merged, ofEntries_eq_error]
    refine .inr ⟨checkable.named, .inr ⟨checkable.interruption?_eq_none, ?_⟩⟩
    exact .inl ⟨_, unreadableKey?_eq_some.mpr ⟨_, first, rfl⟩, rfl⟩
  | setting breaks writable =>
    exact breaks.load.trans (congrArg Except.error (Fault.error_of_writable writable))

/-- What escapes makes loading fail with this error. -/
theorem Escapes.load (escapes : Escapes sources error) : load sources = .error error := by
  cases escapes with
  | globalFile raises =>
    exact load_of_merged_eq_error (merged_eq_error.mpr (.inl (.inr ⟨_, raises, rfl⟩)))
  | workspaceFile global raises =>
    exact load_of_merged_eq_error (merged_eq_error.mpr
      (.inr ⟨_, global, .inl (.inr ⟨_, raises, rfl⟩)⟩))
  | @environment _ _ _ _ sec fault global workspace split readable unreadable =>
    have refused : Environment.settings sources.environment =
        .error { name := sec.name, fault } :=
      Environment.settings_eq_error.mpr ⟨_, _, _, split, readable, rfl, unreadable⟩
    exact load_of_merged_eq_error (merged_eq_error.mpr
      (.inr ⟨_, global, .inr ⟨_, workspace, _, refused, rfl⟩⟩))
  | sectionName merged among unnamed =>
    rw [load_of_merged merged, ofEntries_eq_error]
    exact .inl ⟨⟨_, among, unnamed⟩, rfl⟩
  | interrupted merged named broken interrupts first =>
    rw [load_of_merged merged, ofEntries_eq_error]
    refine .inr ⟨named, .inl ⟨_, ?_, rfl⟩⟩
    rw [interruption?_sections]
    exact ((enumerates_config sources.homes _).findSome?_eq_some _ _).mpr
      ⟨_, _, broken, interrupts, first⟩
  | unwritable breaks huge => rw [breaks.load, Fault.error_of_huge huge]

end Loading

end PredicateIndex.Config

/-! ## Runs of the program -/

namespace PredicateIndex.Cli.Session

open Config (Escapes LoadError Reported)

/-- No configuration broke a run off. -/
def NotBySettings (session : Session) : Prop := ∀ error, session.aborted ≠ some (.settings error)

/-- Printing one thing is not broken off by a configuration. -/
theorem NotBySettings.print {session : Session} (fine : session.NotBySettings) (next : Print) :
    (session.print next).NotBySettings := by
  unfold Session.print
  split
  · exact fine
  · cases next with
    | err line => exact fine
    | out line | table lines =>
      dsimp only [write]
      split
      · exact fun _ => nofun
      · exact fine

section Analyzed

variable {setting : Setting} {verbose : Bool} {files : List SourceFile}
  {print : LogSettings → Batch → Except Batch.TableFault Printout}

end Analyzed

end PredicateIndex.Cli.Session

namespace PredicateIndex.Config

open Cli (Session)

/-! ## Main result -/

/-- A section that is named by a number. -/
def numbered : Sources where
  homes := { own := "/home/user" }
  reader := .byHand
  globalPath := "/home/user/config.yaml"
  workspacePath := "/work/config.yaml"
  workspaceFile := .content (Utf8.bytes "1: 2\n")

end PredicateIndex.Config
