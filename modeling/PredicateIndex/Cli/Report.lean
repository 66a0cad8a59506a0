import PredicateIndex.Cache.Navigation
import PredicateIndex.Cli.Batch
import PredicateIndex.Decimal.Count
import PredicateIndex.Json.Writer
import PredicateIndex.Table.Layout

/-!
# What the commands print

The files of a batch are reported in the order in which they were first named. Lines and characters
are counted from one in texts; values keep the coordinates of the index.
-/
namespace PredicateIndex

/-- A source range as a value. -/
def SourceRange.toValue (range : SourceRange) : Value :=
  .object [("start_line", .int range.start.line), ("start_character", .int range.start.character),
    ("end_line", .int range.stop.line), ("end_character", .int range.stop.character)]

/-- A position as a value. -/
def Position.toValue (position : Position) : Value :=
  .object [("line", .int position.line), ("character", .int position.character)]

/-- An editor range as a value. -/
def EditorRange.toValue (range : EditorRange) : Value :=
  .object [("start", range.start.toValue), ("end", range.stop.toValue)]

/-- A call as a value. -/
def CallSite.toValue (call : CallSite) : Value :=
  .object [("name", .text call.name), ("arity", .int call.arity),
    ("location", call.location.toValue)]

/-- A predicate as a value. -/
def PredicateRecord.toValue (record : PredicateRecord) : Value :=
  .object [("name", .text record.name), ("arity", .int record.arity),
    ("definition_range", record.definition.toValue), ("full_range", record.full.toValue),
    ("calls", .list (record.calls.map CallSite.toValue))]

/-- A diagnostic as a value. -/
def Diagnostic.toValue (diagnostic : Diagnostic) : Value :=
  .object [("line", .int diagnostic.line), ("character", .int diagnostic.character),
    ("message", .text diagnostic.message), ("severity", .text diagnostic.severity.name)]

/-- An index as a value. -/
def FileIndex.toValue (index : FileIndex) : Value :=
  .object [("file_path", .text index.filePath),
    ("predicates", .list (index.predicates.map PredicateRecord.toValue)),
    ("diagnostics", .list (index.diagnostics.map Diagnostic.toValue))]

/-- A published diagnostic as a value. -/
def EditorDiagnostic.toValue (diagnostic : EditorDiagnostic) : Value :=
  .object [("range", diagnostic.range.toValue), ("message", .text diagnostic.message),
    ("severity", .text diagnostic.severity.name), ("source", .text diagnostic.source)]

namespace Cli

/-- What is printed at once. -/
inductive Print where
  /-- A line of the output. -/
  | out (line : String)
  /-- A line beside the output. -/
  | err (line : String)
  /-- The lines of a table, which are printed as they are. -/
  | table (lines : List String)
  deriving DecidableEq, Repr

/-- What a command prints and how it ends. -/
structure Printout where
  /-- What is printed, in order. -/
  prints : List Print := []
  /-- Whether the command failed. -/
  isFailure : Bool := false
  deriving DecidableEq, Repr

/-- The printout of a failed command. -/
def Printout.failed (reason : String) : Printout :=
  { prints := [.err ("Error: " ++ reason)], isFailure := true }

namespace Batch

/-- A batch as a value. -/
def toValue (batch : Batch) : Value :=
  .object (batch.results.map fun (file, index) =>
    (file, .object [("index", (index.map FileIndex.toValue).getD .null),
      ("published", .list ((batch.published file).map EditorDiagnostic.toValue))]))

/-- The line of a published diagnostic. -/
def diagnosticLine (diagnostic : EditorDiagnostic) : String :=
  let line := toString (diagnostic.range.start.line + 1)
  "  " ++ diagnostic.severity.name ++ s!": {line}: " ++ diagnostic.message

/-- The report of one file. A failed analysis points to the log file. -/
def fileReport (batch : Batch) (logFile : Option String) (file : String)
    (index : Option FileIndex) : List Print :=
  let diagnostics := (batch.published file).map fun diagnostic => .out (diagnosticLine diagnostic)
  match index with
  | none =>
    .out (file ++ ": analysis failed") ::
      logFile.toList.map (fun path => .err ("  details in " ++ path)) ++ diagnostics
  | some index =>
    let predicates := index.predicates.length
    let count := index.diagnostics.length
    .out s!"{file}: {predicates} predicates, {count} diagnostics" :: diagnostics

/-- The report of a batch. -/
def report (batch : Batch) (logFile : Option String) : Printout :=
  { prints := batch.results.flatMap fun (file, index) => batch.fileReport logFile file index }

/-- The place of a range in a file. -/
def place (file : String) (range : SourceRange) : String :=
  let line := toString range.start.line
  let character := toString (range.start.character + 1)
  s!"{file}:{line}:{character}"

/-- The calls of a predicate. -/
def references (batch : Batch) (name : String) (arity : Nat) : Printout :=
  let found := batch.state.cache.references name arity
  if found.isEmpty then { prints := [.out ("No references to " ++ indicator name arity)] }
  else
    { prints := found.map fun reference =>
        .out (place reference.file reference.call.location ++ "  in " ++ reference.caller.key) }

/-- The definitions of a predicate: the first one, and the files of all others. -/
def definitions (batch : Batch) (name : String) (arity : Nat) : Printout :=
  match batch.state.cache.definitions name arity with
  | [] => .failed ("No definition of " ++ indicator name arity)
  | first :: others =>
    let also := "also defined in: " ++ String.intercalate ", " (others.map DefinitionMatch.file)
    { prints := .out (place first.file first.record.definition) ::
        (if others.isEmpty then [] else [.err also]) }

/-- The width of a terminal that does not tell its width. -/
def usualWidth : Nat := 80

/-- What the environment says about the terminal. -/
structure Terminal where
  /-- The variable that holds its width. -/
  columns : Option String := none
  /-- The variable that holds its height. -/
  lines : Option String := none
  deriving DecidableEq, Repr

/-- The number that a variable holds, if it is written in digits. -/
def Terminal.number? (setting : Option String) : Except Count.Fault (Option Nat) :=
  match setting.map String.toList with
  | some cs => if Count.isWritten cs then (Count.read cs).map some else .ok none
  | none => .ok none

/-- The width of the terminal that tables are printed for. The height must be a number too, but tables
are of any height. -/
def Terminal.width (terminal : Terminal) : Except Count.Fault Nat := do
  let columns ← number? terminal.columns
  let _ ← number? terminal.lines
  return columns.getD usualWidth

/-- Why a table cannot be printed. -/
inductive TableFault where
  /-- The width of the terminal has no value. -/
  | width (fault : Count.Fault)
  /-- A text is wrongly marked up. -/
  | markup (fault : Markup.Fault)
  deriving Repr

/-- The words of a fault of a table. -/
def TableFault.message : TableFault → String
  | .width fault => fault.message
  | .markup fault => fault.message

/-- The table of the predicates of a file. -/
def outlineTable (file : String) (symbols : List Symbol) (index : FileIndex) : Table where
  title := (FilePath.ofText file).name
  columns :=
    [{ heading := "Predicate" }, { heading := "Line", alignment := .right },
     { heading := "Calls", alignment := .right }]
  rows := List.zipWith (fun symbol record =>
    [symbol.name, toString (symbol.range.start.line + 1), toString record.calls.length])
    symbols index.predicates

/-- The outline of a file. -/
def outline (batch : Batch) (terminal : Terminal) (file : String) :
    Except TableFault Printout :=
  match (batch.results.get? file).bind id, batch.state.cache.outline file with
  | some index, some symbols => do
    let width ← terminal.width.mapError .width
    let lines ← ((outlineTable file symbols index).lines width).mapError .markup
    return { prints := [.table lines] }
  | _, _ => .ok (.failed ("No analysis available for " ++ file))

end Batch

end Cli

end PredicateIndex
