import PredicateIndex.Config.Check
import PredicateIndex.Config.Environment
import PredicateIndex.Failure
import PredicateIndex.Yaml.Reader

/-!
# Loading the configuration

Settings come from four layers. The configuration files are read first, the global one before that
of the workspace, and the workspace overrides the global file key by key. The environment overrides
the files, and settings given by the caller override everything. The first setting that breaks its
rule is reported; a section that does not exist is refused after all others have been checked.
-/
namespace PredicateIndex.Config

/-- What stands in the place of a configuration file. -/
inductive SettingsFile where
  /-- Nothing. -/
  | absent
  /-- Something that cannot be opened, and what is raised then. -/
  | unopened (raised : Yaml.Raised)
  /-- A file with its bytes. -/
  | content (bytes : List UInt8)
  deriving Repr

/-- Where settings come from. -/
structure Sources where
  /-- The home directories. -/
  homes : FilePath.Homes
  /-- The reader of the files. -/
  reader : Yaml.Reader
  /-- The path of the global file. -/
  globalPath : String
  /-- The global file. -/
  globalFile : SettingsFile := .absent
  /-- The path of the workspace file. -/
  workspacePath : String
  /-- The workspace file. -/
  workspaceFile : SettingsFile := .absent
  /-- The variables of the environment. -/
  environment : List (String × String) := []
  /-- The settings given by the caller. -/
  overrides : Yaml.Entries := []

/-- Why no configuration was loaded. -/
inductive LoadError where
  /-- A file or a setting is wrong. -/
  | failure (failure : Failure)
  /-- A variable of the environment cannot be read. -/
  | environment (refusal : Environment.Refusal)
  /-- A file cannot be opened, or its reader gave up. -/
  | raised (raised : Yaml.Raised)
  /-- A section of a file is not named by a text. -/
  | sectionName
  /-- The value that breaks a rule cannot be put into the message. -/
  | unwritable
  /-- The check of the settings was interrupted. -/
  | interrupted (interruption : Interruption)
  deriving Repr

/-- The words of an error. -/
def LoadError.message : LoadError → String
  | .failure cause => cause.line
  | .environment refusal => refusal.message
  | .raised what => what.message
  | .sectionName => "keywords must be strings"
  | .unwritable => Numeral.unwritableMessage
  | .interrupted interruption => interruption.message

/-- The settings of what was read from a file: an empty document has none. -/
def readSettings (path : String) : Yaml.Reading → Except LoadError Yaml.Entries
  | .malformed reason => .error (.failure (.configParse path reason))
  | .raised raised => .error (.raised raised)
  | .document (.mapping entries) => .ok entries
  | .document value =>
    if value.isEmptyDocument then .ok []
    else .error (.failure (.configParse path "top level must be a mapping"))

/-- The settings of a file: an absent one has none. -/
def fileSettings (reader : Yaml.Reader) (path : String) :
    SettingsFile → Except LoadError Yaml.Entries
  | .absent => .ok []
  | .unopened raised => .error (.raised raised)
  | .content bytes => readSettings path (reader.read bytes)

/-- The faults of entries that are no section. -/
def unknownSections (entries : Yaml.Entries) : List Fault :=
  entries.filterMap fun (key, found) =>
    match key with
    | .text name =>
      if ["logging", "analyzer", "pipeline"].contains name then none
      else some { path := [.key name], problem := .unknown, found }
    | _ => none

/-- The fault of the first entry whose key holds an unpaired surrogate. -/
def unreadableKey? (entries : Yaml.Entries) : Option Fault :=
  entries.findSome? fun (key, _) =>
    match key with
    | .text name =>
      if Text.isWellFormed name then none
      else some { path := [], problem := .notCharacters, found := key }
    | _ => none

/-- A configuration in which no further section is allowed. A key that cannot be read hides all other
faults. -/
def strict (homes : FilePath.Homes) (entries : Yaml.Entries) : Checked Config :=
  let checked := sections homes entries
  match unreadableKey? entries with
  | some fault => { checked with faults := [fault] }
  | none => { checked with faults := checked.faults ++ unknownSections entries }

/-- Whether an entry has a text as its key. -/
def hasTextKey (entry : Yaml × Yaml) : Bool :=
  match entry.1 with
  | .text _ => true
  | _ => false

/-- The failure that reports a fault. -/
def Fault.failure (fault : Fault) : Failure :=
  .configInvalid (Path.text fault.path) fault.found.display fault.problem.message

/-- What becomes of a fault: the failure that reports it, if its value can be put into the message. -/
def Fault.error (fault : Fault) : LoadError :=
  if fault.found.isWritable then .failure fault.failure else .unwritable

/-- The configuration of merged settings. -/
def ofEntries (homes : FilePath.Homes) (entries : Yaml.Entries) : Except LoadError Config :=
  if entries.all hasTextKey then
    match (sections homes entries).interruption? with
    | some interruption => .error (.interrupted interruption)
    | none =>
      let checked := strict homes entries
      match checked.faults with
      | [] => .ok checked.value
      | fault :: _ => .error fault.error
  else .error .sectionName

/-- All layers merged. -/
def merged (sources : Sources) : Except LoadError Yaml.Entries := do
  let globalFile ← fileSettings sources.reader sources.globalPath sources.globalFile
  let workspaceFile ← fileSettings sources.reader sources.workspacePath sources.workspaceFile
  let files := Yaml.mergeEntries globalFile workspaceFile
  let given ← (Environment.settings sources.environment).mapError .environment
  return Yaml.mergeEntries files (Yaml.mergeEntries given sources.overrides)

/-- Load the configuration. -/
def load (sources : Sources) : Except LoadError Config := do
  ofEntries sources.homes (← merged sources)

end PredicateIndex.Config
