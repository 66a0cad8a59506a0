import PredicateIndex.Config.Basic
import PredicateIndex.Decimal.Numeral
import PredicateIndex.Path.Basic
import PredicateIndex.Text.Blank
import PredicateIndex.Value.Path
import PredicateIndex.Yaml.Basic

/-!
# Checking settings

A document is checked field by field. A setting that breaks its rule leaves a fault and counts as
its default, so that all faults are found, in the order of the fields; the settings are accepted if
there is no fault. A fault that cannot be reported interrupts the check. Unknown keys inside a section
are ignored.
-/
namespace PredicateIndex.Config

/-- The rule a setting breaks. -/
inductive Problem where
  /-- Only certain texts are allowed. -/
  | choice (allowed : List String)
  /-- A text is wanted. -/
  | notText
  /-- A text in the place of a number or a choice holds an unpaired surrogate. -/
  | notCharacters
  /-- A list is wanted. -/
  | notList
  /-- A mapping is wanted, for the named group of settings. -/
  | notMapping (group : String)
  /-- A number is wanted. -/
  | notNumber
  /-- A text is no number. -/
  | notNumberText
  /-- A log file must be given by an absolute path. -/
  | relativeDestination (destination : String)
  /-- The wait must not be negative. -/
  | negativeDebounce (seconds : Binary64)
  /-- There is no such setting. -/
  | unknown
  /-- The home directory that a path starts in cannot be found. -/
  | noHome (fault : FilePath.HomeFault)
  deriving DecidableEq, Repr

/-- Quoted alternatives: the last two are joined by "or". -/
def alternatives : List String → String
  | [] => ""
  | [one] => "'" ++ one ++ "'"
  | [one, two] => "'" ++ one ++ "' or '" ++ two ++ "'"
  | one :: rest => "'" ++ one ++ "', " ++ alternatives rest

/-- What is said of a log file that is not given by an absolute path. -/
def relativeMessage (destination : String) : String :=
  "File destination must be absolute path: " ++ destination

/-- The words of a broken rule. -/
def Problem.message : Problem → String
  | .choice allowed => "Input should be " ++ alternatives allowed
  | .notText => "Input should be a valid string"
  | .notCharacters => "Input should be a valid string, unable to parse raw data as a unicode string"
  | .notList => "Input should be a valid list"
  | .notMapping group => "Input should be a valid dictionary or instance of " ++ group
  | .notNumber => "Input should be a valid number"
  | .notNumberText => "Input should be a valid number, unable to parse string as a number"
  | .relativeDestination destination => "Value error, " ++ relativeMessage destination
  | .negativeDebounce seconds => "Value error, debounce_sec must be >= 0, got " ++ seconds.text
  | .unknown => "Extra inputs are not permitted"
  | .noHome .unknown => FilePath.HomeFault.unknown.message
  | .noHome fault => "Value error, " ++ fault.message

/-- What interrupts a check. -/
inductive Interruption where
  /-- A home directory is not known. -/
  | unknownHome
  /-- What is wrong cannot be said, because the words cannot be encoded. -/
  | unsayable (fault : Utf8.EncodeFault)
  deriving DecidableEq, Repr

/-- The words of an interruption. -/
def Interruption.message : Interruption → String
  | .unknownHome => FilePath.HomeFault.unknown.message
  | .unsayable fault => fault.message

/-- How a broken rule interrupts the check, if it does. -/
def Problem.interruption? : Problem → Option Interruption
  | .noHome .unknown => some .unknownHome
  | .relativeDestination destination => (Utf8.fault? (relativeMessage destination)).map .unsayable
  | _ => none

/-- A broken rule, where, and what stands there. -/
structure Fault where
  /-- Where it is. -/
  path : Path
  /-- The rule. -/
  problem : Problem
  /-- What stands there. -/
  found : Yaml
  deriving Repr

/-- A setting with the faults found in it. -/
structure Checked (α : Type) where
  /-- The setting; the default where there is a fault. -/
  value : α
  /-- The faults in order. -/
  faults : List Fault := []
  deriving Repr

namespace Checked

variable {α β : Type}

instance : Monad Checked where
  pure value := { value }
  bind checked next :=
    let after := next checked.value
    { value := after.value, faults := checked.faults ++ after.faults }

/-- A setting that breaks its rule. -/
def refused (default : α) (problem : Problem) (found : Yaml) : Checked α where
  value := default
  faults := [{ path := [], problem, found }]

/-- What interrupts the check of a setting first. -/
def interruption? (checked : Checked α) : Option Interruption :=
  checked.faults.findSome? fun fault => fault.problem.interruption?

/-- The faults of a setting, seen from one step further out. -/
def under (step : PathStep) (checked : Checked α) : Checked α where
  value := checked.value
  faults := checked.faults.map fun fault => { fault with path := step :: fault.path }

end Checked

/-- A setting of a mapping; an absent one has its default. -/
def field {α : Type} (entries : Yaml.Entries) (name : String) (default : α)
    (check : Yaml → Checked α) : Checked α :=
  match Yaml.field? entries name with
  | none => pure default
  | some found => (check found).under (.key name)

/-- One of several named things. -/
def choice {α : Type} (all : List α) (name : α → String) (default : α) (found : Yaml) :
    Checked α :=
  match found with
  | .text s =>
    if !Text.isWellFormed s then .refused default .notCharacters found
    else match all.find? fun item => name item == s with
      | some item => pure item
      | none => .refused default (.choice (all.map name)) found
  | _ => .refused default (.choice (all.map name)) found

/-- A thing or null. -/
def optional {α : Type} (check : Yaml → Checked α) (found : Yaml) : Checked (Option α) :=
  match found with
  | .null => pure none
  | _ => some <$> check found

/-- The text that a value is, or that its bytes are, or why it is none. -/
def textOf : Yaml → Except Problem String
  | .text s => .ok s
  | .bytes raw => (Utf8.decode raw).mapError fun _ => .notCharacters
  | _ => .error .notText

/-- A text. -/
def text (found : Yaml) : Checked String :=
  match textOf found with
  | .ok s => pure s
  | .error problem => .refused "" problem found

/-- The items of a list from a position on. -/
def items {α : Type} (check : Yaml → Checked α) : Nat → List Yaml → Checked (List α)
  | _, [] => pure []
  | n, found :: rest => do
    let first ← (check found).under (.index n)
    let others ← items check (n + 1) rest
    return first :: others

/-- The elements of a list, of a set or of a pair. -/
def elements? : Yaml → Option (List Yaml)
  | .list items => some items
  | .set members => some members
  | .pair first second => some [first, second]
  | _ => none

/-- A list. -/
def list {α : Type} (check : Yaml → Checked α) (found : Yaml) : Checked (List α) :=
  match elements? found with
  | some elements => items check 0 elements
  | none => .refused [] .notList found

/-- A number, or a text or bytes that stand for one. -/
def number (found : Yaml) : Checked Binary64 :=
  match found with
  | .float x => pure x
  | .int n =>
    if (Binary64.ofInt n).isInfinite then .refused default .notNumber found
    else pure (.ofInt n)
  | .bool b => pure (.ofInt (if b then 1 else 0))
  | .text s =>
    if !Text.isWellFormed s then .refused default .notCharacters found
    else match Numeral.readDecimal? s with
      | some x => pure x
      | none => .refused default .notNumberText found
  | .bytes raw =>
    match (Utf8.decode raw).toOption.bind Numeral.readDecimal? with
    | some x => pure x
    | none => .refused default .notNumberText found
  | _ => .refused default .notNumber found

/-- A group of settings. -/
def group {α : Type} (name : String) (default : α) (check : Yaml.Entries → Checked α)
    (found : Yaml) : Checked α :=
  match found with
  | .mapping entries => check entries
  | _ => .refused default (.notMapping name) found

/-- Where a log goes: a standard stream, or a file by its absolute path, in which a leading `~` is
the home directory. -/
def destination (homes : FilePath.Homes) (found : Yaml) : Checked String := do
  let checked := text found
  if !checked.faults.isEmpty || LogOutput.isStream checked.value then checked
  else
    match (FilePath.ofText checked.value).expandHome homes with
    | .error fault => .refused "" (.noHome fault) found
    | .ok path =>
      if path.isAbsolute then pure path.text
      else .refused "" (.relativeDestination checked.value) found

/-- The level of a log. -/
def level (found : Yaml) : Checked LogLevel := choice LogLevel.all LogLevel.settingName .info found

/-- An output of the log. -/
def logOutput (homes : FilePath.Homes) : Yaml → Checked LogOutput :=
  group "LogOutputConfig" {} fun entries => do
    let format ← field entries "format" .console (choice LogFormat.all LogFormat.name .console)
    let destination ← field entries "destination" "stderr" (destination homes)
    let level ← field entries "level" none (optional level)
    return { format, destination, level }

/-- The logging section. -/
def loggingSection (homes : FilePath.Homes) : Yaml → Checked LogSettings :=
  group "LoggingConfig" {} fun entries => do
    let level ← field entries "level" .info level
    let outputs ← field entries "outputs" [{}] (list (logOutput homes))
    return { level, outputs }

/-- The path of the analyzer; a blank one counts as none. -/
def executable (found : Yaml) : Checked (Option String) := do
  let path ← optional text found
  return path.filter fun s => !Text.isAllBlank s

/-- The analyzer section. -/
def analyzerSection : Yaml → Checked AnalyzerSettings :=
  group "AnalyzerConfig" {} fun entries => do
    let path ← field entries "path" none executable
    let args ← field entries "args" [] (list text)
    return { path, args }

/-- A wait in seconds. -/
def debounce (found : Yaml) : Checked Binary64 :=
  let checked := number found
  if checked.faults.isEmpty && checked.value.isBelowZero then
    .refused default (.negativeDebounce checked.value) found
  else checked

/-- The pipeline section. -/
def pipelineSection : Yaml → Checked PipelineSettings :=
  group "PipelineConfig" {} fun entries => do
    let standard : PipelineSettings := {}
    let debounceSeconds ← field entries "debounce_sec" standard.debounceSeconds debounce
    return { debounceSeconds }

/-- The sections of a configuration. -/
def sections (homes : FilePath.Homes) (entries : Yaml.Entries) : Checked Config := do
  let logging ← field entries "logging" {} (loggingSection homes)
  let analyzer ← field entries "analyzer" {} analyzerSection
  let pipeline ← field entries "pipeline" {} pipelineSection
  return { logging, analyzer, pipeline }

/-- A configuration in which further sections are ignored. -/
def lenient (homes : FilePath.Homes) : Yaml → Checked Config :=
  group "ClauseIndexConfig" {} (sections homes)

end PredicateIndex.Config
