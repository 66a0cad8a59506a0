import PredicateIndex.Analyzer.Outcome
import PredicateIndex.Analyzer.Settings
import PredicateIndex.Failure
import PredicateIndex.Index.Calls
import PredicateIndex.Log.Level
import PredicateIndex.Tree.Fault

/-!
# Calling the analyzer

An analyzer is called with a document and settings and answers with an outcome, unless it breaks off
unexpectedly. A tree that cannot be decoded is a failed outcome if its form is wrong, and breaks the
analysis off if decoding itself gives up.
-/
namespace PredicateIndex

/-- What broke an analysis off. -/
inductive Crash where
  /-- The analyzer itself. -/
  | analyzer (message : String)
  /-- A number that could not be converted, or a name that could not be used. -/
  | conversion (message : String)
  /-- A text that could not be encoded. -/
  | encoding (message : String)
  /-- Lists or objects that were nested too deep. -/
  | nesting (message : String)
  /-- A tag that could not be looked up. -/
  | lookup (message : String)
  deriving DecidableEq, Repr

/-- What a crash says. -/
def Crash.message : Crash → String
  | .analyzer message | .conversion message | .encoding message | .nesting message
  | .lookup message => message

/-- One call of the analyzer. -/
structure AnalyzerCall where
  /-- The file. -/
  file : String
  /-- The text of the file. -/
  text : String
  /-- The settings of the run. -/
  settings : AnalyzerSettings
  deriving DecidableEq, Repr

/-- What the analyzer reports about its own work. -/
inductive AnalyzerNotice where
  /-- No executable was found beside the program or on the search path. -/
  | notFound (bundled : Option String)
  /-- The configured executable cannot be used. -/
  | configuredPathInvalid (path : String)
  /-- The analysis of a file failed. -/
  | failed (file : String) (failure : Failure)
  /-- The analysis of a file could not be set up. -/
  | setupFailed (file reason : String)
  deriving Repr

/-- The answer of the analyzer to a call. -/
structure Reply where
  /-- The outcome, or what broke the analysis off. -/
  result : Except Crash Outcome
  /-- What was reported on the way. -/
  notices : List AnalyzerNotice := []
  deriving Repr

/-- An analyzer: its answer to each call. -/
abbrev Analyzer := AnalyzerCall → Reply

/-- The outcome of decoding what the analyzer wrote. -/
def Outcome.ofDecoded (decoded : Except TreeError Tree) (warning : Option String) :
    Except Crash Outcome :=
  match decoded with
  | .ok tree => .ok (.ok tree warning)
  | .error error =>
    match error.report with
    | .malformed reason => .ok (.failed (Failure.analyzerMalformed reason).message)
    | .conversion message => .error (.conversion message)
    | .nesting message => .error (.nesting message)
    | .lookup message => .error (.lookup message)

end PredicateIndex
