import PredicateIndex.Analyzer.Reply
import PredicateIndex.Path.Disk
import PredicateIndex.Text.Lower

/-!
# Finding the analyzer tool

A configured path must lead to a file that can be run; nothing else is tried then. Without one the
tool that is bundled for the host is taken, and made runnable if it is not, and last the search path
of the system is asked.
-/
namespace PredicateIndex.Locate

/-- The machine the program runs on. -/
structure Host where
  /-- The name of the operating system. -/
  system : String
  /-- The name of the processor. -/
  machine : String
  deriving DecidableEq, Repr

/-- The name of the tool. -/
def toolName : String := "BLint"

/-- The folder name of an operating system, if it is supported. -/
def systemFolder? (system : String) : Option String :=
  [("linux", "linux"), ("darwin", "darwin"), ("windows", "win32")].lookup (Text.lower system)

/-- The folder name of a processor; an unknown one has its own name. -/
def machineFolder (machine : String) : String :=
  let name := Text.lower machine
  ([("x86_64", "x64"), ("amd64", "x64"), ("aarch64", "arm64"), ("arm64", "arm64")].lookup name).getD
    name

/-- Where the tool for a host would be bundled. -/
def bundledPath? (bundle : FilePath) (host : Host) : Option FilePath := do
  let system ← systemFolder? host.system
  let folder := system ++ "-" ++ machineFolder host.machine
  let name := if system == "win32" then toolName ++ ".exe" else toolName
  return (bundle.join (.ofText folder)).join (.ofText name)

/-- What finding the tool needs to know. -/
structure Surroundings where
  /-- The machine. -/
  host : Host
  /-- The home directories. -/
  homes : FilePath.Homes
  /-- The directory of the bundled tools. -/
  bundle : FilePath
  /-- The files. -/
  disk : Disk := []
  /-- Whether permissions can be changed. -/
  canChange : Bool := true
  /-- What the search path of the system gives. -/
  onSearchPath : Option String := none
  deriving Repr

/-- The end of the search. -/
structure Search where
  /-- The tool, if one was found. -/
  found : Option String := none
  /-- The files afterwards. -/
  disk : Disk
  /-- Whether the search path of the system was asked. -/
  asked : Bool := false
  /-- What was reported on the way. -/
  notices : List AnalyzerNotice := []
  deriving Repr

/-- The permission bits that make a file runnable. -/
def runnableMode : Nat := 0o755

/-- A disk on which a file has been made runnable. -/
def makeRunnable (disk : Disk) (path : FilePath) : Disk :=
  disk.map fun (known, entry) =>
    if known.names == path.names then (known, { entry with mode := runnableMode })
    else (known, entry)

/-- Ask the search path of the system. -/
def onSearchPath (around : Surroundings) : Search :=
  let found := around.onSearchPath.filter fun path => !path.isEmpty
  let bundled := (bundledPath? around.bundle around.host).map FilePath.text
  { found, disk := around.disk, asked := true
    notices := if found.isSome then [] else [.notFound bundled] }

/-- Take the bundled tool, else ask the search path. A bundled tool that cannot be made runnable ends
the search. -/
def bundled (around : Surroundings) : Search :=
  match bundledPath? around.bundle around.host with
  | none => onSearchPath around
  | some path =>
    match Disk.file? around.disk path with
    | none => onSearchPath around
    | some entry =>
      if entry.canRun then { found := path.text, disk := around.disk }
      else if around.canChange then
        { found := path.text, disk := makeRunnable around.disk path }
      else { disk := around.disk }

/-- Take the configured tool, which must be runnable; without a known home there is no answer. -/
def configured (around : Surroundings) (path : String) : Except FilePath.HomeFault Search :=
  ((FilePath.ofText path).expandHome around.homes).map fun expanded =>
    if (Disk.file? around.disk expanded).any DiskEntry.canRun then
      { found := expanded.text, disk := around.disk }
    else { disk := around.disk, notices := [.configuredPathInvalid expanded.text] }

/-- Find the tool. -/
def tool (around : Surroundings) (settings : AnalyzerSettings) :
    Except FilePath.HomeFault Search :=
  match settings.path.filter fun path => !path.isEmpty with
  | some path => configured around path
  | none => .ok (bundled around)

end PredicateIndex.Locate
