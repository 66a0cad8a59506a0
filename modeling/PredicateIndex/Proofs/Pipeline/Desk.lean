import Mathlib.Logic.Relation
import PredicateIndex.Proofs.Ledger
import PredicateIndex.Proofs.Pipeline.Interleaving

/-!
# What can move on the desk

The desk is the part of the pipeline that tells how far the work has come: the open documents, the
runs in flight, the tasks, the queue of work, and the generations that were given out and recorded.
`Move` lists everything that the functions of the pipeline do to it, each move with the condition
under which it is made. A function makes several moves one after another; the piece of work that is
being done stays in front of the queue until all its moves are made, and is dropped when it is
spent.
-/
namespace PredicateIndex.Pipeline

/-- The open documents, the runs in flight, the tasks with their work, and the generations. -/
structure Desk where
  /-- The open documents. -/
  documents : Ledger Document
  /-- The run in flight of each file. -/
  pending : Ledger TaskId
  /-- All tasks in the order of their numbers. -/
  tasks : List Task
  /-- The work that is to be done, in order. -/
  queue : List Work
  /-- The generation recorded for each cached file. -/
  generations : Ledger Int
  /-- The generation of the next run. -/
  next : Int

namespace Desk

/-- Put work at the end of the queue. -/
def enqueue (desk : Desk) (work : Work) : Desk := { desk with queue := desk.queue ++ [work] }

/-- Move a task to a phase. -/
def setPhase (desk : Desk) (task : TaskId) (phase : Phase) : Desk :=
  { desk with tasks := desk.tasks.modify task fun t => { t with phase } }

/-- Add work to what is queued when a task ends. -/
def addListener (desk : Desk) (task : TaskId) (work : Work) : Desk :=
  { desk with
    tasks := desk.tasks.modify task fun t => { t with listeners := t.listeners ++ [work] } }

/-- Create a task. -/
def spawn (desk : Desk) (job : Job) (listeners : List Work) : Desk :=
  { desk with
    tasks := desk.tasks ++ [{ job, listeners }]
    queue := desk.queue ++ [.step desk.tasks.length] }

/-- Start a run under the next generation. -/
def start (desk : Desk) (file : String) : Desk :=
  { desk.spawn (.run file (some desk.next)) [.settle file desk.tasks.length] with
    pending := desk.pending.put file desk.tasks.length
    next := desk.next + 1 }

/-- End a task: its listeners are queued. -/
def finish (desk : Desk) (task : TaskId) (result : Result) : Desk :=
  { desk.setPhase task (.ended result) with
    queue := desk.queue ++ ((desk.tasks[task]?).map Task.listeners).getD [] }

end Desk

/-- A task is a run of a file. -/
def Task.IsRunOf (t : Task) (file : String) : Prop := ∃ generation, t.job = .run file generation

/-- The result that a phase gives. -/
def Phase.result? : Phase → Option Result
  | .ended result => some result
  | _ => none

/-- The result of a task is that of its phase. -/
theorem Task.result?_eq (t : Task) : t.result? = t.phase.result? := rfl

/-- A job that is about a file: to analyze it, or to decode its tree. -/
def Job.IsAbout (job : Job) (file : String) : Prop :=
  (∃ generation, job = .run file generation) ∨ job = .tree file

/-- A task begins to wait for an answer: first of the provider, which may have one at once, and then
of the analyzer. It asks about its own file. -/
inductive Phase.Asks (job : Job) : Phase → Phase → Prop where
  /-- It asks for its settings. -/
  | provider (file text : String) (away : Nat) (own : job.IsAbout file) :
    Asks job .fresh (.asking file text away)
  /-- It has its settings at once and calls the analyzer. -/
  | analyzer (call : AnalyzerCall) (own : job.IsAbout call.file) :
    Asks job .fresh (.calling call)
  /-- It has been given its settings and calls the analyzer. -/
  | informed (file text : String) (away : Nat) (answer : SettingsAnswer) (call : AnalyzerCall)
    (same : call.file = file) : Asks job (.informed file text away answer) (.calling call)

/-- The answer that a task waits for is there. -/
inductive Phase.Hears : Phase → Phase → Prop where
  /-- It is that of the provider. -/
  | settings (file text : String) (away : Nat) (answer : SettingsAnswer) :
    Hears (.asking file text away) (.informed file text away answer)
  /-- It is that of the analyzer. -/
  | reply (call : AnalyzerCall) : Hears (.calling call) (.answered call)

/-- A task has begun to find its settings or its reply, and is not at its end. -/
structure Phase.Going (phase : Phase) : Prop where
  /-- It has taken its first step. -/
  begun : phase ≠ .fresh
  /-- It has joined no run. -/
  not_joined (run : TaskId) : phase ≠ .joined run
  /-- It is not told to end. -/
  not_told (result : Result) : phase ≠ .ending result
  /-- It has not ended. -/
  not_ended (result : Result) : phase ≠ .ended result

/-- A task that waits for an answer is not at its end. -/
theorem Phase.Asks.going {job : Job} {before after : Phase} (asks : before.Asks job after) :
    after.Going := by
  cases asks <;> constructor <;> simp

/-- A task that has its answer is not at its end. -/
theorem Phase.Hears.going {before after : Phase} (hears : before.Hears after) : after.Going := by
  cases hears <;> constructor <;> simp

/-- A task that is not at its end has no result. -/
theorem Phase.Going.unfinished {phase : Phase} (going : phase.Going) : phase.result? = none := by
  unfold result?
  split
  · exact (going.not_ended _ rfl).elim
  · rfl

/-- A task that begins to wait for an answer had not ended before. -/
theorem Phase.Asks.unfinished {job : Job} {before after : Phase} (asks : before.Asks job after) :
    before.result? = none := by
  cases asks <;> rfl

/-- A task that gets its answer had not ended before. -/
theorem Phase.Hears.unfinished {before after : Phase} (hears : before.Hears after) :
    before.result? = none := by
  cases hears <;> rfl

/-- Work that concerns no run: a request without delay, or the end of a run that is waited for. -/
def Work.IsSignal : Work → Prop
  | .alarm _ _ _ | .drained _ => True
  | _ => False

/-- A task in such a phase may end with a result in its next step. -/
def Phase.MayEnd (phase : Phase) (result : Result) : Prop :=
  match phase with
  | .fresh | .informed .. | .answered _ => True
  | .ending known => known = result
  | _ => False

/-- A task that waits for an answer cannot end. -/
theorem Phase.Asks.waits {job : Job} {before after : Phase} (asks : before.Asks job after)
    (result : Result) : ¬after.MayEnd result := by
  cases asks <;> exact id

/-- A task that may end has not ended. -/
theorem Task.result?_of_mayEnd {t : Task} {result : Result} (ready : t.phase.MayEnd result) :
    t.result? = none := by
  unfold Task.result?
  split
  · rename_i ended
    rw [ended] at ready
    exact ready.elim
  · rfl

/-- A piece of work has nothing more to do on a desk. -/
def Desk.Spent (desk : Desk) : Work → Prop
  | .step task => ∀ t result, desk.tasks[task]? = some t → ¬t.phase.MayEnd result
  | .settle file run => desk.pending.get? file ≠ some run
  | .relay run waiter => ∀ t joined, desk.tasks[waiter]? = some t → t.phase = .joined joined →
      ∀ u, desk.tasks[run]? = some u → u.result? = none
  | .drained _ | .alarm _ _ _ => True

/-- What a function of the pipeline can do to the desk. -/
inductive Move : Desk → Desk → Prop where
  /-- A run of a file that has none in flight is started. -/
  | start (desk : Desk) (file : String) (idle : desk.pending.get? file = none) :
    Move desk (desk.start file)
  /-- A signal is queued. -/
  | signal (desk : Desk) (work : Work) (harmless : work.IsSignal) : Move desk (desk.enqueue work)
  /-- A task that has not ended is to give a signal when it does. -/
  | listen (desk : Desk) (task : TaskId) (work : Work) (harmless : work.IsSignal) :
    Move desk (desk.addListener task work)
  /-- A lookup takes its first step and joins a run that has not ended. -/
  | join (desk : Desk) (waiter run : TaskId) (t : Task) (file : String)
    (known : desk.tasks[waiter]? = some t) (fresh : t.phase = .fresh)
    (lookup : t.job = .lookup file)
    (unfinished : ∀ u, desk.tasks[run]? = some u → u.result? = none) :
    Move desk ((desk.addListener run (.relay run waiter)).setPhase waiter (.joined run))
  /-- A task begins to wait for the provider or the analyzer. -/
  | call (desk : Desk) (task : TaskId) (t : Task) (phase : Phase)
    (known : desk.tasks[task]? = some t) (asks : t.phase.Asks t.job phase) :
    Move desk (desk.setPhase task phase)
  /-- The provider or the analyzer has an answer. -/
  | respond (desk : Desk) (task : TaskId) (t : Task) (phase : Phase)
    (known : desk.tasks[task]? = some t) (hears : t.phase.Hears phase) :
    Move desk ((desk.setPhase task phase).enqueue (.step task))
  /-- A shutdown takes its first step and waits for runs. -/
  | await (desk : Desk) (task : TaskId) (t : Task) (runs : List TaskId) (left : Nat)
    (known : desk.tasks[task]? = some t) (fresh : t.phase = .fresh) (shutdown : t.job = .shutdown) :
    Move desk (desk.setPhase task (.draining runs left false))
  /-- A task that waits for runs has fewer to wait for. -/
  | drain (desk : Desk) (task : TaskId) (t : Task) (runs : List TaskId) (left fewer : Nat)
    (cancelled : Bool) (known : desk.tasks[task]? = some t)
    (waiting : t.phase = .draining runs left cancelled) :
    Move desk (desk.setPhase task (.draining runs fewer cancelled))
  /-- A task has waited for all its runs. -/
  | drained (desk : Desk) (task : TaskId) (t : Task) (runs : List TaskId) (left : Nat)
    (cancelled : Bool) (result : Result) (known : desk.tasks[task]? = some t)
    (waiting : t.phase = .draining runs left cancelled) :
    Move desk ((desk.setPhase task (.ending result)).enqueue (.step task))
  /-- The result of a run that has ended is passed to a task that joined it. -/
  | relay (desk : Desk) (run waiter joined : TaskId) (t u : Task) (result : Result)
    (queued : .relay run waiter ∈ desk.queue)
    (known : desk.tasks[waiter]? = some t) (waiting : t.phase = .joined joined)
    (inFlight : desk.tasks[run]? = some u) (ended : u.result? = some result) :
    Move desk ((desk.setPhase waiter (.ending result)).enqueue (.step waiter))
  /-- A task ends. -/
  | finish (desk : Desk) (task : TaskId) (t : Task) (result : Result)
    (known : desk.tasks[task]? = some t) (ready : t.phase.MayEnd result) :
    Move desk (desk.finish task result)
  /-- A document is set. -/
  | write (desk : Desk) (file : String) (document : Document) :
    Move desk { desk with documents := desk.documents.put file document }
  /-- A document is closed. -/
  | discard (desk : Desk) (file : String) :
    Move desk { desk with documents := desk.documents.remove file }
  /-- A run that has not ended records its generation. -/
  | record (desk : Desk) (task : TaskId) (t : Task) (file : String) (generation : Int)
    (known : desk.tasks[task]? = some t) (run : t.job = .run file (some generation))
    (unfinished : t.result? = none) :
    Move desk { desk with generations := desk.generations.put file generation }
  /-- The recorded generation of a file is dropped. -/
  | forget (desk : Desk) (file : String) :
    Move desk { desk with generations := desk.generations.remove file }
  /-- A run is no longer in flight. -/
  | settle (desk : Desk) (file : String) (run : TaskId)
    (queued : .settle file run ∈ desk.queue) (pending : desk.pending.get? file = some run) :
    Move desk { desk with pending := desk.pending.remove file }

namespace Desk

variable (desk : Desk)

/-- The tasks after one of them was moved to a phase. -/
theorem tasks_setPhase (task k : TaskId) (phase : Phase) :
    (desk.setPhase task phase).tasks[k]? =
      (desk.tasks[k]?).map fun t => { t with phase := if task = k then phase else t.phase } := by
  rw [setPhase, List.getElem?_modify, Option.map_eq_map]
  congr 1
  funext t
  split <;> rfl

/-- The tasks after one of them has more listeners. -/
theorem tasks_addListener (task k : TaskId) (work : Work) :
    (desk.addListener task work).tasks[k]? = (desk.tasks[k]?).map fun t =>
      { t with listeners := if task = k then t.listeners ++ [work] else t.listeners } := by
  rw [addListener, List.getElem?_modify, Option.map_eq_map]
  congr 1
  funext t
  split <;> rfl

/-- The tasks after one more was created. -/
theorem tasks_spawn (job : Job) (listeners : List Work) (k : TaskId) :
    (desk.spawn job listeners).tasks[k]? =
      if k = desk.tasks.length then some { job, listeners } else desk.tasks[k]? := by
  rcases Nat.lt_trichotomy k desk.tasks.length with inside | last | outside
  · rw [if_neg (Nat.ne_of_lt inside)]
    exact List.getElem?_append_left inside
  · subst last
    simp [spawn]
  · rw [if_neg (Nat.ne_of_gt outside), List.getElem?_eq_none (Nat.le_of_lt outside)]
    exact List.getElem?_eq_none (by simpa [spawn] using Nat.succ_le_of_lt outside)

/-- A task keeps its number when another is created. -/
theorem tasks_spawn_of_known (job : Job) (listeners : List Work) {k : TaskId} {t : Task}
    (found : desk.tasks[k]? = some t) : (desk.spawn job listeners).tasks[k]? = some t :=
  (List.getElem?_append_left (List.getElem?_eq_some_iff.mp found).1).trans found

/-- A task is an old one or the one that was created. -/
theorem of_tasks_spawn {job : Job} {listeners : List Work} {k : TaskId} {t : Task}
    (found : (desk.spawn job listeners).tasks[k]? = some t) :
    desk.tasks[k]? = some t ∨ k = desk.tasks.length ∧ t = { job, listeners } := by
  rw [tasks_spawn] at found
  split at found
  · exact .inr ⟨‹_›, (Option.some.inj found).symm⟩
  · exact .inl found

end Desk

/-- Several moves one after another. -/
abbrev Moves : Desk → Desk → Prop := Relation.ReflTransGen Move

/-- A move, a question, or the end of a piece of work. -/
inductive Turn : Desk → Desk → Prop where
  /-- A move is made. -/
  | move {desk desk' : Desk} (moved : Move desk desk') : Turn desk desk'
  /-- A task other than a run is asked for. -/
  | ask (desk : Desk) (job : Job) (other : ∀ file generation, job ≠ .run file generation) :
    Turn desk (desk.spawn job [])
  /-- The first piece of work is dropped. -/
  | drop (desk : Desk) (work : Work) (rest : List Work) (first : desk.queue = work :: rest)
    (spent : desk.Spent work) : Turn desk { desk with queue := rest }

/-- Several turns one after another. -/
abbrev Turns : Desk → Desk → Prop := Relation.ReflTransGen Turn

/-- What every turn keeps is kept by turns. -/
theorem Turns.keep (kept : Desk → Prop) (turn : ∀ {d d' : Desk}, kept d → Turn d d' → kept d')
    {desk desk' : Desk} (turns : Turns desk desk') (start : kept desk) : kept desk' := by
  induction turns with
  | refl => exact start
  | tail _ turned ih => exact turn ih turned

/-- Moves are turns. -/
theorem Moves.turns {desk desk' : Desk} (moves : Moves desk desk') : Turns desk desk' := by
  induction moves with
  | refl => exact .refl
  | tail _ moved ih => exact ih.tail (.move moved)

/-- The desk of a state, with a piece of work in hand in front of the queue. -/
def State.desk (state : State) (hand : List Work) : Desk where
  documents := state.documents
  pending := state.pending
  tasks := state.tasks
  queue := hand ++ state.queue
  generations := state.cache.generations
  next := state.nextGeneration

end PredicateIndex.Pipeline
