import PredicateIndex.Analyzer.Tool
import PredicateIndex.Cli.Report
import PredicateIndex.Config.Load
import PredicateIndex.Indicator
import PredicateIndex.Text.Sequence

/-!
# One run of the program

The command line is read first, then the indicator, then the configuration; the first that is wrong
ends the run. A wrong use of the program ends with two, any other failure with one. What is not
foreseen breaks the run off.
-/
namespace PredicateIndex.Cli

/-- What breaks a run off. -/
inductive Abort where
  /-- An arity has no value. -/
  | indicator (refusal : Indicator.Refusal)
  /-- The configuration cannot be loaded. -/
  | settings (error : Config.LoadError)
  /-- A log file cannot be opened. -/
  | logFile (fault : LogFile.Fault)
  /-- A table cannot be printed. -/
  | table (fault : Batch.TableFault)
  /-- A path has a null character. -/
  | nullCharacter
  /-- A path cannot be encoded. -/
  | path (fault : Utf8.EncodeFault)
  /-- What is printed cannot be encoded. -/
  | output (fault : Utf8.EncodeFault)
  /-- A table that is printed cannot be encoded. -/
  | tableOutput (fault : Utf8.EncodeFault)
  deriving Repr

/-- What is added to the words about a table that cannot be encoded. -/
def encodingAdvice : String :=
  "\n*** You may need to add PYTHONIOENCODING=utf-8 to your environment ***"

/-- The words of what breaks a run off. -/
def Abort.message : Abort → String
  | .indicator refusal => refusal.message
  | .settings error => error.message
  | .logFile fault => fault.message
  | .table fault => fault.message
  | .nullCharacter => Tool.nullMessage
  | .path fault | .output fault => fault.message
  | .tableOutput fault => fault.message ++ encodingAdvice

/-- What a run of the program leaves. -/
structure Session where
  /-- The exit code. -/
  exitCode : Nat := 0
  /-- The output. -/
  out : String := ""
  /-- The text beside the output. -/
  err : String := ""
  /-- What broke the run off. -/
  aborted : Option Abort := none
  /-- The batch that was analyzed. -/
  batch : Option Batch := none
  /-- Where records were logged. -/
  logging : Option LogSettings := none

/-- What a run of the program needs to know. -/
structure Setting where
  /-- The files. -/
  workspace : Workspace
  /-- Where the configuration comes from. -/
  sources : Config.Sources
  /-- The analyzer. -/
  analyzer : Analyzer
  /-- The terminal. -/
  terminal : Batch.Terminal := {}

namespace Session

/-- A run that was broken off. -/
def broken (abort : Abort) : Session := { exitCode := 1, aborted := some abort }

/-- A run of a wrong use. -/
def misused (scope : Scope) (problem : Problem) : Session :=
  { exitCode := 2, err := Utf8.escaped (Text.withoutSequences (problem.report scope)) }

/-- Print a text to the output of a run, unless it cannot be encoded. -/
def write (abort : Utf8.EncodeFault → Abort) (session : Session) (text : String) : Session :=
  match Utf8.fault? text with
  | some fault => { session with exitCode := 1, aborted := some (abort fault) }
  | none => { session with out := session.out ++ text }

/-- Print one thing, unless the run was broken off before. Only a table keeps control sequences, and
beside the output what cannot be encoded is escaped. -/
def print (session : Session) (next : Print) : Session :=
  if session.aborted.isSome then session
  else match next with
    | .out line => session.write .output (Text.withoutSequences line ++ "\n")
    | .err line =>
      { session with err := session.err ++ Utf8.escaped (Text.withoutSequences line) ++ "\n" }
    | .table lines => session.write .tableOutput (String.join (lines.map (· ++ "\n")))

/-- A run that ended with a printout. -/
def printed (printout : Printout) : Session :=
  printout.prints.foldl print { exitCode := if printout.isFailure then 1 else 0 }

/-- The run of a refused command line. -/
def refused : Refusal → Session
  | .nothing => { exitCode := 2, err := Scope.help none }
  | .usage scope problem => misused scope problem
  | .nullCharacter => broken .nullCharacter
  | .unencodable fault => broken (.path fault)

/-- The logging of a run: on demand everything is logged. -/
def logSettings (verbose : Bool) (settings : LogSettings) : LogSettings :=
  if verbose then { settings with level := .debug } else settings

/-- Analyze files and print what a command makes of them. -/
def analyzed (setting : Setting) (verbose : Bool) (files : List SourceFile)
    (print : LogSettings → Batch → Except Batch.TableFault Printout) : Session :=
  match Config.load setting.sources with
  | .error (.failure failure) => printed (.failed failure.line)
  | .error error => broken (.settings error)
  | .ok config =>
    let logging := logSettings verbose config.logging
    match LogFile.openAll setting.workspace.disk logging with
    | .error fault => broken (.logFile fault)
    | .ok _ =>
      let batch := Batch.run setting.analyzer config.analyzer files
      let ended := match print logging batch with
        | .ok printout => printed printout
        | .error fault => broken (.table fault)
      { ended with batch := some batch, logging := some logging }

/-- Read an indicator for a command. -/
def withIndicator (command : Command) (text : String) (next : String → Nat → Session) : Session :=
  match Indicator.parse text with
  | .ok (name, arity) => next name arity
  | .error (.malformed value) =>
    misused command (.badValue (Indicator.Refusal.malformed value).message)
  | .error refusal => broken (.indicator refusal)

/-- Perform a task. -/
def perform (setting : Setting) (verbose : Bool) (task : Task) : Session :=
  match task with
  | .analyze true files =>
    analyzed setting verbose files fun _ batch =>
      .ok { prints := [.out (Json.indented batch.toValue)] }
  | .analyze false files =>
    analyzed setting verbose files fun logging batch => .ok (batch.report logging.logFile?)
  | .outline file =>
    analyzed setting verbose [file] fun _ batch => batch.outline setting.terminal file.id
  | .refs indicator files =>
    withIndicator task.command indicator fun name arity =>
      analyzed setting verbose files fun _ batch => .ok (batch.references name arity)
  | .definition indicator files =>
    withIndicator task.command indicator fun name arity =>
      analyzed setting verbose files fun _ batch => .ok (batch.definitions name arity)

/-- Run the program with the words of a command line. -/
def run (setting : Setting) (words : List String) : Session :=
  match read setting.workspace words with
  | .error refusal => refused refusal
  | .ok (.help scope) => { out := scope.help }
  | .ok .version => { out := versionText }
  | .ok (.perform verbose task) => perform setting verbose task

end Session

end PredicateIndex.Cli
