import PredicateIndex.Cache.Basic
import PredicateIndex.Debounce.Basic
import PredicateIndex.Pipeline.Notice
import PredicateIndex.Pipeline.Task

/-!
# The state of the pipeline

The open documents, the requests that wait for their deadline, the runs in flight, the cache and the
published diagnostics, and the tasks with the queue of work. Everything that can be seen from outside
is also written to a journal, in order.
-/
namespace PredicateIndex.Pipeline

/-- The latest text of an open document. -/
structure Document where
  /-- The text. -/
  text : String
  /-- The version. -/
  version : Int := 0
  deriving DecidableEq, Repr

/-- What can be seen from outside. -/
inductive Entry where
  /-- The analyzer was called. -/
  | called (call : AnalyzerCall)
  /-- The diagnostics of a file were published. -/
  | published (file : String) (diagnostics : List EditorDiagnostic)
  /-- A task ended. -/
  | ended (task : TaskId) (result : Result)
  /-- Something was reported; the flag says whether a run reported it. -/
  | reported (inRun : Bool) (notice : Notice)
  deriving Repr

/-- The state of the pipeline. -/
structure State where
  /-- How the settings of a file are found. -/
  provider : SettingsProvider
  /-- The changed documents whose analysis is held back. -/
  debouncer : Debouncer Unit
  /-- The time. -/
  now : Nat := 0
  /-- The open documents. -/
  documents : Ledger Document := []
  /-- The last texts of the documents of each file that were put away: closed, or opened anew. -/
  retired : Ledger (List String) := []
  /-- The run in flight of each file. -/
  pending : Ledger TaskId := []
  /-- The generation of the next run. -/
  nextGeneration : Int := 1
  /-- The installed indexes. -/
  cache : Cache := .empty
  /-- The published diagnostics of each file that has any. -/
  published : Ledger (List EditorDiagnostic) := []
  /-- The files whose analyzer calls are held back. -/
  held : List String := []
  /-- All tasks in the order of their numbers. -/
  tasks : List Task := []
  /-- The work that is to be done, in order. -/
  queue : List Work := []
  /-- What could be seen from outside so far. -/
  journal : List Entry := []

namespace State

/-- The pipeline with nothing open. -/
def initial (provider : SettingsProvider) (delay : Nat) : State :=
  { provider, debouncer := { delay } }

/-- Whether a document is open. -/
def isOpen (state : State) (file : String) : Bool := state.documents.has file

/-- Write to the journal. -/
def log (state : State) (entry : Entry) : State :=
  { state with journal := state.journal ++ [entry] }

/-- Report something from outside a run. -/
def report (state : State) (notice : Notice) : State := state.log (.reported false notice)

/-- Report something from inside a run. -/
def reportInRun (state : State) (notice : Notice) : State := state.log (.reported true notice)

/-- Publish the complete diagnostics of a file; an empty list clears them. -/
def publish (state : State) (file : String) (diagnostics : List EditorDiagnostic) : State :=
  { state.log (.published file diagnostics) with
    published :=
      if diagnostics.isEmpty then state.published.remove file
      else state.published.put file diagnostics }

/-- Put the document of a file away, if it has one. A task that waits for its settings may still hold
it. -/
def putAway (state : State) (file : String) : State :=
  let texts := (state.retired.get? file).getD []
  { state with
    retired := state.retired.put file
      (texts ++ ((state.documents.get? file).map Document.text).toList) }

/-- Put work at the end of the queue. -/
def enqueue (state : State) (work : Work) : State := { state with queue := state.queue ++ [work] }

/-- A task by its number. -/
def task? (state : State) (task : TaskId) : Option Task := state.tasks[task]?

/-- Move a task to a phase. -/
def setPhase (state : State) (task : TaskId) (phase : Phase) : State :=
  { state with tasks := state.tasks.modify task fun t => { t with phase } }

/-- Create a task, which takes its first step when its turn comes. -/
def spawn (state : State) (job : Job) (listeners : TaskId → List Work) : TaskId × State :=
  let task := state.tasks.length
  (task, { state with
    tasks := state.tasks ++ [{ job, listeners := listeners task }]
    queue := state.queue ++ [.step task] })

/-- End a task: its result goes to the journal, and its listeners are queued. -/
def finish (state : State) (task : TaskId) (result : Result) : State :=
  let listeners := ((state.task? task).map Task.listeners).getD []
  let ended := (state.setPhase task (.ended result)).log (.ended task result)
  { ended with queue := ended.queue ++ listeners }

/-- Have work queued when a task ends, which may be at once. -/
def listen (state : State) (task : TaskId) (work : Work) : State :=
  match (state.task? task).bind Task.result? with
  | some _ => state.enqueue work
  | none =>
    { state with
      tasks := state.tasks.modify task fun t => { t with listeners := t.listeners ++ [work] } }

end State

end PredicateIndex.Pipeline
