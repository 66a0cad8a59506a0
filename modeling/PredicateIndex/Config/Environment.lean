import PredicateIndex.Json.Reader
import PredicateIndex.Text.Lower
import PredicateIndex.Yaml.Basic

/-!
# Settings from the environment

A variable named after a section holds the section as JSON; a variable named after a section and a
key holds one setting and goes before the former. The case of the names does not matter. Settings
that are lists are given as JSON too, and all others as they are. Other variables are ignored.
-/
namespace PredicateIndex.Environment

/-- The start of the names of all variables that hold settings. -/
def lead : String := "clauseindex__"

/-- A section: its name, its keys, and those of them that are given as JSON. -/
structure Section where
  /-- The name. -/
  name : String
  /-- The keys. -/
  keys : List String
  /-- The keys whose variables hold JSON. -/
  structured : List String := []
  deriving Repr

/-- The sections in order. -/
def sections : List Section :=
  [{ name := "logging", keys := ["level", "outputs"], structured := ["outputs"] },
   { name := "analyzer", keys := ["path", "args"], structured := ["args"] },
   { name := "pipeline", keys := ["debounce_sec"] }]

/-- The section of the first variable that cannot be read. -/
structure Refusal where
  /-- The name of the section. -/
  name : String
  /-- Why the variable cannot be read. -/
  fault : Json.ReadError
  deriving DecidableEq, Repr

/-- The words of a refusal; nesting that is too deep is not told from where it came. -/
def Refusal.message (refusal : Refusal) : String :=
  match refusal.fault with
  | .tooDeep shape => Json.tooDeepMessage shape
  | .malformed .. | .oversized _ =>
    let name := refusal.name
    s!"error parsing value for field \"{name}\" from source \"EnvSettingsSource\""

/-- The parts of a name between doubled underscores. -/
def splitName : List Char → List (List Char)
  | [] => [[]]
  | '_' :: '_' :: rest => [] :: splitName rest
  | c :: rest =>
    match splitName rest with
    | part :: parts => (c :: part) :: parts
    | [] => [[c]]

/-- A variable's text as JSON. -/
def decode (text : String) : Except Json.ReadError Yaml := (Json.read text).map Yaml.ofValue

/-- Set a value below a mapping; what is no mapping is not entered. -/
def insertAt : List String → Yaml → Yaml.Entries → Yaml.Entries
  | [], _, entries => entries
  | [key], value, entries => Yaml.put entries (.text key) value
  | key :: keys, value, entries =>
    match Yaml.field? entries key with
    | none => Yaml.put entries (.text key) (.mapping (insertAt keys value []))
    | some (.mapping inner) => Yaml.put entries (.text key) (.mapping (insertAt keys value inner))
    | some _ => entries

/-- The value of a variable for a setting: JSON for a list unless it is empty. -/
def settingValue (sec : Section) (keys : List String) (text : String) :
    Except Json.ReadError Yaml :=
  match keys with
  | [key] => if sec.structured.contains key && !text.isEmpty then decode text else .ok (.text text)
  | _ => .ok (.text text)

/-- The settings of a section that have variables of their own. -/
def separateSettings (sec : Section) (environment : Ledger String) : Except Refusal Yaml.Entries :=
  environment.foldlM (fun entries (name, text) =>
    let start := lead ++ sec.name ++ "__"
    if name.startsWith start then
      let keys := (splitName (name.toList.drop start.length)).map String.ofList
      match settingValue sec keys text with
      | .ok value => .ok (insertAt keys value entries)
      | .error fault => .error { name := sec.name, fault }
    else .ok entries) []

/-- A mapping whose known keys have their proper case. -/
def properCase (sec : Section) (entries : Yaml.Entries) : Yaml.Entries :=
  entries.foldl (fun done (key, value) =>
    match key with
    | .text name =>
      let proper := (sec.keys.find? (· == Text.lower name)).getD name
      Yaml.put done (.text proper) value
    | _ => Yaml.put done key value) []

/-- A section as the environment gives it: the settings of its own variable, if that holds a mapping,
overridden by those with variables of their own. -/
def sectionValue? (sec : Section) (environment : Ledger String) : Except Refusal (Option Yaml) := do
  match environment.get? (lead ++ sec.name) with
  | none =>
    let entries ← separateSettings sec environment
    return if entries.isEmpty then none else some (.mapping (properCase sec entries))
  | some text =>
    match decode text with
    | .error fault => throw { name := sec.name, fault }
    | .ok .null => return none
    | .ok (.mapping entries) =>
      let separate ← separateSettings sec environment
      return some (.mapping (properCase sec (Yaml.mergeEntries entries separate)))
    | .ok other => return some other

/-- Variables by their names in lower case; of two that differ in case only, the last counts. -/
def lowerCase (environment : List (String × String)) : Ledger String :=
  Ledger.ofPairs (environment.map fun (name, text) => (Text.lower name, text))

/-- The settings that the environment gives. -/
def settings (environment : List (String × String)) : Except Refusal Yaml.Entries := do
  let found ← sections.mapM fun sec => do
    return (← sectionValue? sec (lowerCase environment)).map fun value => (Yaml.text sec.name, value)
  return found.filterMap id

end PredicateIndex.Environment
