import PredicateIndex.Cli.Arguments
import PredicateIndex.Log.Delivery
import PredicateIndex.Pipeline.Schedule

/-!
# Analyzing a batch of files

All files are opened before the first is waited for, so their analyses all end while it is. A file
whose analysis failed has nothing cached, so that it is analyzed once more when it is waited for. Last
the pipeline is stopped. No document ever changes, so nothing is held back.
-/
namespace PredicateIndex.Cli

/-- The end of a batch. -/
structure Batch where
  /-- The pipeline afterwards. -/
  state : Pipeline.State
  /-- The index of each file, if its analysis succeeded. -/
  results : Ledger (Option FileIndex) := []

namespace Batch

/-- A pipeline in which files have been opened. -/
def opened (settings : AnalyzerSettings) (files : List SourceFile) : Pipeline.State :=
  files.foldl (fun state file => state.handle (.opened file.id file.text 0))
    (.initial (.fixed settings) 0)

/-- The index that a task found. -/
def indexOf (state : Pipeline.State) (task : Pipeline.TaskId) : Option FileIndex :=
  match (state.task? task).bind Pipeline.Task.result? with
  | some (.index found) => found
  | _ => none

/-- Wait for the index of a file. -/
def await (analyzer : Analyzer) (batch : Batch) (file : SourceFile) : Batch :=
  let (task, state) := batch.state.ask (.lookup file.id)
  let settled := state.settle analyzer
  { state := settled, results := batch.results.put file.id (indexOf settled task) }

/-- Analyze files. -/
def run (analyzer : Analyzer) (settings : AnalyzerSettings) (files : List SourceFile) : Batch :=
  let batch := files.foldl (await analyzer) { state := opened settings files }
  { batch with state := (batch.state.ask .shutdown).2.settle analyzer }

/-- What is published about a file. -/
def published (batch : Batch) (file : String) : List EditorDiagnostic :=
  (batch.state.published.get? file).getD []

/-- What was reported during a batch: records from inside a run bear its identifier. -/
def records (batch : Batch) (identifier : String) : List LogRecord :=
  batch.state.journal.filterMap fun
    | .reported inRun notice =>
      let (level, event, fields) := notice.record
      some { level, event, fields, analysisId := if inRun then some identifier else none }
    | _ => none

end Batch

end PredicateIndex.Cli
