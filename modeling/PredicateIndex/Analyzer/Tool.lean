import PredicateIndex.Analyzer.Reply
import PredicateIndex.Analyzer.SourceName
import PredicateIndex.Text.Utf8
import PredicateIndex.Tree.Decode

/-!
# Running the analyzer tool

Each analysis has a directory of its own. The text of the document is copied into it, the tool is
started with the copy as its last argument, and the tree is read from the output that the tool leaves
in the directory. An exit code other than zero and one gives a warning beside a usable output. What
goes wrong with the tool is a failed outcome; a name or an argument that the system cannot take
breaks the analysis off.
-/
namespace PredicateIndex.Tool

/-- What the operating system refuses. -/
inductive OsFault where
  /-- There is no such file. -/
  | missing
  /-- The file is no program for this system. -/
  | badFormat
  /-- The file may not be run. -/
  | denied
  /-- The file is a directory. -/
  | isDirectory
  /-- The name is too long. -/
  | nameTooLong
  deriving DecidableEq, Repr

/-- The number and the words of a fault. -/
def OsFault.reason : OsFault → Nat × String
  | .missing => (2, "No such file or directory")
  | .badFormat => (8, "Exec format error")
  | .denied => (13, "Permission denied")
  | .isDirectory => (21, "Is a directory")
  | .nameTooLong => (36, "File name too long")

/-- The words of a fault with a path. -/
def OsFault.message (fault : OsFault) (path : String) : String :=
  let number := toString fault.reason.1
  let words := fault.reason.2
  s!"[Errno {number}] {words}: " ++ Text.quoted path

/-- What stands under a name in the directory of an analysis. -/
inductive DirectoryEntry where
  /-- A directory. -/
  | directory
  /-- A file with its bytes. -/
  | file (bytes : List UInt8)
  deriving DecidableEq, Repr

/-- The directory of an analysis. -/
abbrev RunDirectory := Ledger DirectoryEntry

/-- How the tool is started. -/
structure Invocation where
  /-- The program. -/
  executable : String
  /-- Its arguments. -/
  arguments : List String
  /-- The text of the copy it is given. -/
  source : String
  deriving DecidableEq, Repr

/-- A tool: its exit code and the directory that it leaves, unless it cannot be started. A tool that
dies from a signal has the negative number of the signal as its exit code. -/
abbrev Program := Invocation → RunDirectory → Except OsFault (Int × RunDirectory)

/-- Why an analysis gives no tree. -/
inductive Stop where
  /-- The tool failed. -/
  | failure (failure : Failure)
  /-- The directory could not be prepared or read. -/
  | setup (fault : OsFault) (path : String)
  /-- The analysis was broken off. -/
  | crash (crash : Crash)
  deriving Repr

/-- The longest name of a file, in bytes. -/
def nameLimit : Nat := 255

/-- The path of a name in a directory. -/
def inDirectory (directory name : String) : String := directory ++ "/" ++ name

/-- What is said of a text with a null character. -/
def nullMessage : String := "embedded null byte"

/-- The system takes no text with a null character as a name or an argument. -/
def refuseNull (text : String) : Except Stop Unit :=
  if text.toList.contains '\x00' then .error (.crash (.conversion nullMessage)) else .ok ()

/-- Refuse an argument that the system does not take. -/
def refuseArgument (text : String) : Except Stop Unit := do
  if let some fault := Utf8.nameFault? text then throw (.crash (.encoding fault.message))
  refuseNull text

/-- A document that cannot be copied because of a text that cannot be encoded. -/
def unencodable (file name : String) (fault : Utf8.EncodeFault) : Stop :=
  let reason := fault.message
  .failure (.analyzerFailed
    s!"Document text for {file} cannot be encoded as UTF-8: {reason}" [("source", .text name)])

/-- Refuse a name under which no file can be written. -/
def refuseName (directory file name : String) : Except Stop Unit := do
  let path := inDirectory directory name
  if let some fault := Utf8.nameFault? path then throw (unencodable file name fault)
  refuseNull name
  if name == ".." then throw (.setup .isDirectory path)
  if nameLimit < Utf8.byteCount name then throw (.setup .nameTooLong path)

/-- The arguments of the tool: comments are kept, a tree is asked for, and the source comes last. -/
def arguments (directory name : String) (settings : AnalyzerSettings) : List String :=
  ["-ec", "-ast", "-o" ++ directory] ++ settings.args ++ [inDirectory directory name]

/-- How the tool is started for a document, and the name of the copy. -/
def prepare (executable : Option String) (directory file source : String)
    (settings : AnalyzerSettings) : Except Stop (String × Invocation) := do
  let some executable := executable | throw (.failure (.analyzerNotFound settings.path))
  let name ← (SourceName.ofFile file).mapError fun refusal =>
    .crash (.conversion refusal.message)
  refuseName directory file name
  if let some fault := Utf8.fault? source then throw (unencodable file name fault)
  let arguments := arguments directory name settings
  arguments.forM refuseArgument
  return (name, { executable, arguments, source })

/-- Start the tool in a directory that holds the copy. -/
def launch (program : Program) (name : String) (invocation : Invocation) :
    Except Stop (Int × RunDirectory) :=
  (program invocation [(name, .file (Utf8.bytes invocation.source))]).mapError fun fault =>
    let executable := invocation.executable
    let reason := fault.message executable
    .failure (.analyzerFailed
      s!"Failed to start analyzer process ({executable}): {reason}"
      [("executable", .text executable)])

/-- The warning of an exit code. Zero is fine, and so is one if there is output. -/
def exitWarning (exitCode : Int) (hasOutput : Bool) : Option String :=
  let shown := toString exitCode
  if exitCode == 0 || (exitCode == 1 && hasOutput) then none
  else some s!"Analyzer exited with error code {shown}. Check log output for details."

/-- The text that the tool wrote. -/
def outputText (directory output : String) (exitCode : Int) (left : RunDirectory) :
    Except Stop String :=
  match left.get? output with
  | none => .error (.failure (.analyzerNoOutput output (some exitCode)))
  | some .directory =>
    let reason := OsFault.isDirectory.message (inDirectory directory output)
    .error (.failure (.analyzerFailed
      s!"Error reading analyzer output file {output}. Error: {reason}" [("output", .text output)]))
  | some (.file bytes) =>
    match Utf8.decode bytes with
    | .ok text => .ok (String.ofList (Utf8.unifyNewlines text.toList))
    | .error fault =>
      let reason := fault.message
      .error (.failure (.analyzerMalformed
        s!"output file {output} is not valid UTF-8 ({reason})"))

/-- Whether the tool wrote anything. -/
def hasOutput (left : RunDirectory) (output : String) : Bool :=
  match left.get? output with
  | none | some (.file []) => false
  | some _ => true

/-- The outcome of a finished tool. -/
def collect (directory name : String) (exitCode : Int) (left : RunDirectory) :
    Except Stop Outcome := do
  let output := SourceName.outputOf name
  if nameLimit < Utf8.byteCount output then
    throw (.setup .nameTooLong (inDirectory directory output))
  let text ← outputText directory output exitCode left
  match Tree.ofText text with
  | .ok tree => return .ok tree (exitWarning exitCode (hasOutput left output))
  | .error error =>
    match error.report with
    | .malformed reason => throw (.failure (.analyzerMalformed reason))
    | .conversion message => throw (.crash (.conversion message))
    | .nesting message => throw (.crash (.nesting message))
    | .lookup message => throw (.crash (.lookup message))

/-- What an analysis that stopped gives. -/
def Stop.result (file : String) : Stop → Except Crash Outcome
  | .failure cause => .ok (.failed cause.message)
  | .setup fault path =>
    let reason := fault.message path
    .ok (.failed s!"Critical error during analyzer setup for {file}: {reason}")
  | .crash cause => .error cause

/-- What an analysis that stopped reports. -/
def Stop.notices (file : String) : Stop → List AnalyzerNotice
  | .failure cause => [.failed file cause]
  | .setup fault path => [.setupFailed file (fault.message path)]
  | .crash _ => []

/-- The reply of an analysis, and how the tool was started if it was. -/
structure Report where
  /-- The reply. -/
  reply : Reply
  /-- How the tool was started. -/
  invocation : Option Invocation := none
  deriving Repr

/-- The report of an analysis that stopped. -/
def Report.stopped (file : String) (stop : Stop) (invocation : Option Invocation) : Report where
  reply := { result := stop.result file, notices := stop.notices file }
  invocation := invocation

/-- Analyze a document with the tool. -/
def analyze (executable : Option String) (directory : String) (program : Program)
    (file source : String) (settings : AnalyzerSettings) : Report :=
  match prepare executable directory file source settings with
  | .error stop => .stopped file stop none
  | .ok (name, invocation) =>
    match launch program name invocation with
    | .error stop => .stopped file stop none
    | .ok (exitCode, left) =>
      match collect directory name exitCode left with
      | .ok outcome => { reply := { result := .ok outcome }, invocation }
      | .error stop => .stopped file stop invocation

end PredicateIndex.Tool
