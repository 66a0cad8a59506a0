import PredicateIndex.Analyzer.Reply

/-!
# Tasks

The pipeline works on several tasks at once. A task takes a step when its turn in the queue of work
comes; between steps it waits for its settings, for the analyzer, for a run that it has joined, or
for all runs that were in flight when it began. A task that is cancelled takes one more step, in
which it ends.
-/
namespace PredicateIndex.Pipeline

/-- The number of a task; tasks are numbered as they are created. -/
abbrev TaskId := Nat

/-- What a task is to do. -/
inductive Job where
  /-- Analyze a document and install the result under a generation. -/
  | run (file : String) (generation : Option Int)
  /-- Find the index of a document: the cached one, else that of the pending run, else of a new
  run. -/
  | lookup (file : String)
  /-- Decode the syntax tree of a document afresh. -/
  | tree (file : String)
  /-- Stop: drop the waiting requests and wait for the runs in flight. -/
  | shutdown
  deriving DecidableEq, Repr

/-- Whether a task is a run. -/
def Job.isRun : Job → Bool
  | .run _ _ => true
  | _ => false

/-- How a task ended. -/
inductive Result where
  /-- With an index or without one. -/
  | index (found : Option FileIndex)
  /-- With an exported tree or without one. -/
  | tree (exported : Option Value)
  /-- With so many runs waited for. -/
  | drained (runs : Nat)
  /-- It was cancelled. -/
  | cancelled
  /-- It was broken off. -/
  | crashed (crash : Crash)
  deriving Repr

/-- What a task is at. -/
inductive Phase where
  /-- It has not begun. -/
  | fresh
  /-- It waits for the settings of a file whose text it has seen, when so many documents of the file
  had been put away. -/
  | asking (file text : String) (away : Nat)
  /-- The provider has an answer for it. -/
  | informed (file text : String) (away : Nat) (answer : SettingsAnswer)
  /-- It waits for the analyzer. -/
  | calling (call : AnalyzerCall)
  /-- The analyzer has an answer for it. -/
  | answered (call : AnalyzerCall)
  /-- It waits for the result of a run. -/
  | joined (run : TaskId)
  /-- It waits for runs, of which some are left; the flag says whether it was cancelled. -/
  | draining (runs : List TaskId) (left : Nat) (cancelled : Bool)
  /-- Its result is known, and it ends in its next step. -/
  | ending (result : Result)
  /-- It has ended. -/
  | ended (result : Result)
  deriving Repr

/-- What can stand in the queue of work. -/
inductive Work where
  /-- A task takes its next step. -/
  | step (task : TaskId)
  /-- A run that has ended is no longer pending. -/
  | settle (file : String) (run : TaskId)
  /-- The result of a run that has ended goes to a task that joined it. -/
  | relay (run waiter : TaskId)
  /-- A task that waits for runs hears that one has ended. -/
  | drained (waiter : TaskId)
  /-- A request without delay fires after so many further turns. -/
  | alarm (file : String) (serial turns : Nat)
  deriving DecidableEq, Repr

/-- A task. -/
structure Task where
  /-- What it is to do. -/
  job : Job
  /-- What it is at. -/
  phase : Phase := .fresh
  /-- The work that is queued when it ends. -/
  listeners : List Work := []
  deriving Repr

/-- The result of a task that has ended. -/
def Task.result? (task : Task) : Option Result :=
  match task.phase with
  | .ended result => some result
  | _ => none

end PredicateIndex.Pipeline
