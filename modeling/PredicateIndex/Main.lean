import PredicateIndex.Analyzer.Installed
import PredicateIndex.Cli.Session
import PredicateIndex.Text.Lines

/-!
# The program

Reads the files, the environment and the configuration that a run needs, hands them to the library
and prints what it leaves. Other programs are not started from here, so an analyzer tool that is found
counts as one that may not be run.
-/
namespace PredicateIndex.Program

/-- What stands under an absolute path, if anything does. -/
def found (path : FilePath) : IO Disk := do
  try
    let bytes ← IO.FS.readBinFile (Text.plain path.text)
    return [(path, { bytes := bytes.toList })]
  catch
    | .inappropriateType .. => return [(path, { isDirectory := true })]
    | _ => return []

/-- The path of the working directory. -/
def workingDirectory : IO FilePath := do
  return .ofText (Text.ofChars (← IO.currentDir).toString.toList)

/-- What stands under a path and under every path on the way to it. -/
def foundOnTheWay (path : FilePath) : IO Disk := do
  let steps := (List.range path.names.length).map fun n =>
    { path with names := path.names.take (n + 1) }
  return (← steps.mapM found).flatten

/-- What stands in the place of a configuration file. -/
def settingsFile (path : FilePath) : IO Config.SettingsFile := do
  match ← found path with
  | [(_, entry)] =>
    if entry.isDirectory then
      return .unopened
        { kind := "IsADirectoryError", message := (LogFile.Fault.isDirectory path.text).message }
    else return .content entry.bytes
  | _ => return .absent

/-- The home directories of the users that the system knows. -/
def userHomes : IO (List (String × String)) := do
  match ← found (.ofText "/etc/passwd") with
  | [(_, entry)] =>
    return (Text.lines (Utf8.decodeLossy entry.bytes)).filterMap fun line =>
      match Numeral.splitAt ':' line.toList with
      | [name, _, _, _, _, directory, _] => some (String.ofList name, String.ofList directory)
      | _ => none
  | _ => return []

/-- The names of the variables that hold settings. -/
def variableNames : List String :=
  Environment.sections.flatMap fun sec =>
    let start := Environment.lead ++ sec.name
    (start :: sec.keys.map fun key => start ++ "__" ++ key).map fun name => name.map Char.toUpper

/-- The text of a variable of the environment. -/
def valueOf? (name : String) : IO (Option String) := do
  return (← IO.getEnv name).map fun value => Text.ofChars value.toList

/-- The variables of the environment that hold settings. -/
def environment : IO (List (String × String)) := do
  let values ← variableNames.mapM fun name => do return (name, ← valueOf? name)
  return values.filterMap fun (name, value) => value.map fun text => (name, text)

/-- Where the configuration comes from. -/
def sources (homes : FilePath.Homes) (working : FilePath) : IO Config.Sources := do
  let globalPath := (FilePath.ofText homes.own).join (.ofText ".config/clauseindex/config.yaml")
  let workspacePath := working.join (.ofText ".clauseindex/config.yaml")
  return {
    homes, reader := .byHand
    globalPath := globalPath.text, globalFile := ← settingsFile globalPath
    workspacePath := workspacePath.text, workspaceFile := ← settingsFile workspacePath
    environment := ← environment }

/-- The paths of the log files that a configuration names. -/
def logPaths (sources : Config.Sources) : List String :=
  match Config.load sources with
  | .ok config => config.logging.outputs.map LogOutput.destination
  | .error _ => []

/-- What the run needs to know. -/
def setting (arguments : List String) : IO Cli.Setting := do
  let working ← workingDirectory
  let homes := { own := (← valueOf? "HOME").getD "/", users := ← userHomes }
  let sources ← sources homes working
  let paths := (arguments ++ logPaths sources).map fun word => working.join (.ofText word)
  let disk := (← paths.mapM foundOnTheWay).flatten
  let program := Text.ofChars (← IO.appPath).toString.toList
  let bundle := (FilePath.ofText program).parent.join (.ofText "bin")
  let around : Locate.Surroundings :=
    { host := { system := "Linux", machine := "x86_64" }, homes, bundle, disk }
  return {
    terminal := { columns := ← valueOf? "COLUMNS", lines := ← valueOf? "LINES" }
    workspace := { directory := working, disk }
    sources
    analyzer := installedAnalyzer around "" fun _ _ => .error .denied }

/-- A written record as a line. -/
def logLine : LogEntry → String
  | .object value => Json.compact value
  | .line text => text

/-- An identifier made at random. -/
def identifier : IO String := do
  return Text.hex AnalysisId.generatedLength (← IO.rand 0 (Nat.pow 16 AnalysisId.generatedLength - 1))

/-- Write what was logged to its destinations. -/
def writeLog (session : Cli.Session) : IO Unit := do
  let some settings := session.logging | return
  let some batch := session.batch | return
  let records := batch.records (← identifier)
  for destination in (settings.outputs.map LogOutput.destination).eraseDups do
    let lines := (settings.writtenTo destination records).map logLine
    if destination == "stdout" then lines.forM fun line => IO.println (Text.plain line)
    else if destination == "stderr" then lines.forM fun line => IO.eprintln (Text.plain line)
    else
      IO.FS.createDirAll (Text.plain (FilePath.ofText destination).parent.text)
      let handle ← IO.FS.Handle.mk (Text.plain destination) .append
      lines.forM fun line => handle.putStrLn (Text.plain line)

/-- Run the program with the words of its command line. -/
def run (words : List String) : IO UInt32 := do
  let arguments := words.map fun word => Text.ofChars word.toList
  let session := Cli.Session.run (← setting arguments) arguments
  writeLog session
  IO.print (Text.plain session.out)
  IO.eprint (Text.plain session.err)
  if let some abort := session.aborted then IO.eprintln (Text.plain abort.message)
  return session.exitCode.toUInt32

end PredicateIndex.Program

/-- Run the program. -/
def main (arguments : List String) : IO UInt32 := PredicateIndex.Program.run arguments
