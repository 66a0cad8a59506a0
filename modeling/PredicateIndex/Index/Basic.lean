import PredicateIndex.Range
import PredicateIndex.Value.Display

/-!
# The index of one file

What is known about an analyzed file: for each predicate its definition and the calls in its
clauses, and the diagnostics of the file.
-/
namespace PredicateIndex

/-- How serious a diagnostic is. -/
inductive Severity where
  /-- An error. -/
  | error
  /-- A warning. -/
  | warning
  /-- An information. -/
  | info
  /-- A hint. -/
  | hint
  deriving DecidableEq, Repr

namespace Severity

/-- The name of a severity. -/
def name : Severity → String
  | .error => "error"
  | .warning => "warning"
  | .info => "info"
  | .hint => "hint"

/-- The severity of a name. -/
def ofName? (name : String) : Option Severity :=
  [error, warning, info, hint].find? fun severity => severity.name == name

/-- The severity that a value names. -/
def ofValue? : Value → Option Severity
  | .text name => ofName? name
  | _ => none

/-- What is said of a value that names no severity. -/
def unknownMessage (v : Value) : String := v.literal ++ " is not a valid Severity"

end Severity

/-- A message at a place of the source: a one-based line and a zero-based character. -/
structure Diagnostic where
  /-- One-based line. -/
  line : Int
  /-- Zero-based character. -/
  character : Int
  /-- The message. -/
  message : String
  /-- How serious it is. -/
  severity : Severity := .error
  deriving DecidableEq, Repr

/-- The written form of a predicate: its name and its arity. -/
def indicator (name : String) (arity : Int) : String := name ++ "/" ++ toString arity

/-- A goal in the body of a clause; the location covers its name only. -/
structure CallSite where
  /-- The name called. -/
  name : String
  /-- The arity called. -/
  arity : Int
  /-- Where the name stands. -/
  location : SourceRange
  deriving DecidableEq, Repr

/-- The written form of the predicate a goal calls. -/
def CallSite.key (call : CallSite) : String := indicator call.name call.arity

/-- All clauses of one predicate in a file. -/
structure PredicateRecord where
  /-- The name of the predicate. -/
  name : String
  /-- The arity of the predicate. -/
  arity : Int
  /-- The head of the first clause. -/
  definition : SourceRange
  /-- What all clauses cover together. -/
  full : SourceRange
  /-- The calls of all clauses, in order. -/
  calls : List CallSite := []
  deriving DecidableEq, Repr

/-- The written form of a predicate. -/
def PredicateRecord.key (record : PredicateRecord) : String := indicator record.name record.arity

/-- The index of one file. -/
structure FileIndex where
  /-- The identifier of the file. -/
  filePath : String
  /-- The predicates in the order of their first clauses. -/
  predicates : List PredicateRecord := []
  /-- The diagnostics of the file. -/
  diagnostics : List Diagnostic := []
  deriving DecidableEq, Repr, Inhabited

/-- The record of a predicate. -/
def FileIndex.predicate? (index : FileIndex) (name : String) (arity : Int) :
    Option PredicateRecord :=
  index.predicates.find? fun record => record.name == name && record.arity == arity

/-- A diagnostic in editor coordinates, as it is published. -/
structure EditorDiagnostic where
  /-- Where it stands. -/
  range : EditorRange
  /-- The message. -/
  message : String
  /-- How serious it is. -/
  severity : Severity
  /-- Who reports it. -/
  source : String := "clauseindex"
  deriving DecidableEq, Repr

/-- A diagnostic in editor coordinates: its line moves up by one, and neither coordinate falls
below zero. -/
def Diagnostic.toEditor (diagnostic : Diagnostic) (source : String) : EditorDiagnostic where
  range := .point (max 0 (diagnostic.line - 1)) (max 0 diagnostic.character)
  message := diagnostic.message
  severity := diagnostic.severity
  source := source

end PredicateIndex
