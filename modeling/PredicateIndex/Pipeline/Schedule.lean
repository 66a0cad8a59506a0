import PredicateIndex.Pipeline.Event
import PredicateIndex.Pipeline.Run
import PredicateIndex.Tree.Dump

/-!
# Scheduling

The queue of work is done from its front; work that comes up goes to its end. A task's step takes it
as far as it can go: the settings are there at once unless the provider has no answer yet, the
analyzer answers at once unless the calls of the file are held back, and a task that joins a run
waits until the result of the run is passed on. Releasing a file lets the calls that were held back
go on in the order in which they were made.
-/
namespace PredicateIndex.Pipeline.State

/-- End a task whose analyzer call has been answered: a run installs the result, and a tree task
exports the tree. -/
def answer (analyzer : Analyzer) (state : State) (task : TaskId) (job : Job) (call : AnalyzerCall) :
    State :=
  let reply := analyzer call
  match job with
  | .run file generation =>
    let (index, concluded) := state.conclude file generation reply
    concluded.finish task (.index index)
  | _ =>
    match reply.result with
    | .ok outcome => state.finish task (.tree (outcome.tree.map Tree.exported))
    | .error crash => state.finish task (.crashed crash)

/-- Report if the settings of a file could not be had. -/
def heed (state : State) (job : Job) (file : String) (answer : SettingsAnswer) : State :=
  { state with journal := state.journal ++ (answer.notices file).map (.reported job.isRun) }

/-- Call the analyzer for a task with the settings that the provider has answered; the answer of the
analyzer is awaited while the calls of the file are held back. -/
def call (analyzer : Analyzer) (state : State) (task : TaskId) (job : Job) (file text : String)
    (answer : SettingsAnswer) : State :=
  let call : AnalyzerCall := { file, text, settings := answer.settings }
  let called := (state.heed job file answer).log (.called call)
  if state.held.contains file then called.setPhase task (.calling call)
  else called.answer analyzer task job call

/-- Ask the provider for the settings of a file, and call the analyzer once it has answered. -/
def consult (analyzer : Analyzer) (state : State) (task : TaskId) (job : Job)
    (file text : String) : State :=
  match state.provider file with
  | some answer => state.call analyzer task job file text answer
  | none =>
    state.setPhase task (.asking file text ((state.retired.get? file).getD []).length)

/-- The text that a task sends to the analyzer when it has waited for its settings. A run has read
it before; a tree task reads its document only now, which may have been put away. -/
def textFor (state : State) (job : Job) (file text : String) (away : Nat) : String :=
  match job with
  | .tree _ =>
    (((state.retired.get? file).getD [])[away]?).getD
      (((state.documents.get? file).map Document.text).getD text)
  | _ => text

/-- Wait for the result of a run. -/
def join (state : State) (task run : TaskId) : State :=
  match (state.task? run).bind Task.result? with
  | some result => state.finish task result
  | none => (state.listen run (.relay run task)).setPhase task (.joined run)

/-- The first step of a task that looks for an index. -/
def beginLookup (state : State) (task : TaskId) (file : String) : State :=
  match state.cache.get? file with
  | some index => state.finish task (.index (some index))
  | none =>
    match state.pending.get? file with
    | some run => state.join task run
    | none =>
      if state.isOpen file then
        let (run, started) := state.start file
        started.join task run
      else state.finish task (.index none)

/-- End a task that has waited for runs. -/
def stop (state : State) (task : TaskId) (runs : Nat) : State :=
  (state.report (.stopped runs)).finish task (.drained runs)

/-- The first step of a shutdown: waiting requests are dropped, and the runs in flight awaited. -/
def beginShutdown (state : State) (task : TaskId) : State :=
  let quiet := { state with debouncer := state.debouncer.cancelAll }
  let runs := quiet.pending.map Prod.snd
  if runs.isEmpty then quiet.stop task 0
  else
    let listening := runs.foldl (fun s run => s.listen run (.drained task)) quiet
    listening.setPhase task (.draining runs runs.length false)

/-- The first step of a task. -/
def begin (analyzer : Analyzer) (state : State) (task : TaskId) (job : Job) : State :=
  match job with
  | .run file generation =>
    match state.documents.get? file with
    | none => state.finish task (.index none)
    | some document =>
      (state.reportInRun (.runStarted file generation)).consult analyzer task job file document.text
  | .lookup file => state.beginLookup task file
  | .tree file =>
    match state.documents.get? file with
    | none => state.finish task (.tree none)
    | some document => state.consult analyzer task job file document.text
  | .shutdown => state.beginShutdown task

/-- The step of a task: its first one, one in which it goes on with an answer, or the one in which it
ends. -/
def stepTask (analyzer : Analyzer) (state : State) (id : TaskId) (task : Task) : State :=
  match task.phase with
  | .fresh => state.begin analyzer id task.job
  | .informed file text away answer =>
    state.call analyzer id task.job file (state.textFor task.job file text away) answer
  | .answered call => state.answer analyzer id task.job call
  | .ending (.drained runs) => state.stop id runs
  | .ending result => state.finish id result
  | _ => state

/-- Pass the result of a run to a task that joined it and still waits. -/
def relay (state : State) (run waiter : TaskId) : State :=
  match (state.task? waiter).map Task.phase, (state.task? run).bind Task.result? with
  | some (.joined _), some result =>
    (state.setPhase waiter (.ending result)).enqueue (.step waiter)
  | _, _ => state

/-- Tell a task that one of the runs it waits for has ended. -/
def drain (state : State) (waiter : TaskId) : State :=
  match (state.task? waiter).map Task.phase with
  | some (.draining runs left cancelled) =>
    if left ≤ 1 then
      let result := if cancelled then .cancelled else .drained runs.length
      (state.setPhase waiter (.ending result)).enqueue (.step waiter)
    else state.setPhase waiter (.draining runs (left - 1) cancelled)
  | _ => state

/-- A waiting request fires: it no longer waits, and an analysis is triggered. -/
def fire (state : State) (file : String) : State := ((state.cancelRequest file).trigger file).2

/-- Do one piece of work. -/
def execute (analyzer : Analyzer) (state : State) : Work → State
  | .step id =>
    match state.task? id with
    | some task => state.stepTask analyzer id task
    | none => state
  | .settle file run =>
    if state.pending.get? file == some run then
      { state with pending := state.pending.remove file }
    else state
  | .relay run waiter => state.relay run waiter
  | .drained waiter => state.drain waiter
  | .alarm file serial (turns + 1) => state.enqueue (.alarm file serial turns)
  | .alarm file serial 0 =>
    if (state.debouncer.alarms.get? file).map Alarm.serial == some serial then state.fire file
    else state

/-- Do the first piece of work in the queue. -/
def tick (analyzer : Analyzer) (state : State) : State :=
  match state.queue with
  | [] => state
  | work :: rest => execute analyzer { state with queue := rest } work

/-- Do so many pieces of work, or all there is. -/
def ticks (analyzer : Analyzer) : Nat → State → State
  | 0, state => state
  | n + 1, state => if state.queue.isEmpty then state else ticks analyzer n (tick analyzer state)

/-- More pieces of work than can come up before new events. With `n` tasks, requests and pieces of
work there are at most `2 n` tasks in the end, each takes two steps and is settled once, and each
pair of them is told once of an end. -/
def workload (state : State) : Nat :=
  let n := state.tasks.length + state.queue.length + state.debouncer.alarms.length + 1
  16 * n * n

/-- Do all the work there is. -/
def settle (analyzer : Analyzer) (state : State) : State := ticks analyzer state.workload state

/-- Ask for a task. -/
def ask (state : State) (job : Job) : TaskId × State := state.spawn job fun _ => []

/-- Cancel a task that does not wait for runs: it ends in its next step, which is queued if it waits
for something. -/
def cancelStep (state : State) (id : TaskId) : State :=
  match (state.task? id).map Task.phase with
  | some (.asking ..) | some (.calling _) | some (.joined _) =>
    (state.setPhase id (.ending .cancelled)).enqueue (.step id)
  | some .fresh | some (.informed ..) | some (.answered _) | some (.ending _) =>
    state.setPhase id (.ending .cancelled)
  | _ => state

/-- Cancel a task; the flag says whether it had not ended. A task that waits for runs cancels them
and ends when they have. -/
def cancel (state : State) (id : TaskId) : Bool × State :=
  match (state.task? id).map Task.phase with
  | none | some (.ended _) => (false, state)
  | some (.draining runs left _) =>
    (true, runs.foldl cancelStep (state.setPhase id (.draining runs left true)))
  | some _ => (true, state.cancelStep id)

/-- The provider answers a task that waits for its settings. -/
def inform (answer : SettingsAnswer) (state : State) (id : TaskId) : State :=
  match (state.task? id).map Task.phase with
  | some (.asking file text away) =>
    (state.setPhase id (.informed file text away answer)).enqueue (.step id)
  | _ => state

/-- Hold back the analyzer calls of a file. -/
def hold (state : State) (file : String) : State := { state with held := file :: state.held }

/-- Let the call of a task go on if it is one of a file. -/
def letGo (file : String) (state : State) (id : TaskId) : State :=
  match (state.task? id).map Task.phase with
  | some (.calling call) =>
    if call.file == file then (state.setPhase id (.answered call)).enqueue (.step id) else state
  | _ => state

/-- Let the analyzer calls of a file go on. -/
def release (state : State) (file : String) : State :=
  (List.range state.tasks.length).foldl (letGo file)
    { state with held := state.held.filter (· != file) }

/-- Fire at most so many requests that are due until a time, doing all work after each. -/
def fireDue (analyzer : Analyzer) (time : Nat) : Nat → State → State
  | 0, state => state
  | n + 1, state =>
    match state.debouncer.due? time with
    | none => state
    | some (file, alarm) =>
      fireDue analyzer time n
        (settle analyzer ({ state with now := max state.now alarm.deadline }.fire file))

/-- The state after some time: the requests that come due fire in the order of their deadlines. -/
def advance (analyzer : Analyzer) (state : State) (milliseconds : Nat) : State :=
  let target := state.now + milliseconds
  { fireDue analyzer target state.debouncer.alarms.length state with now := target }

end PredicateIndex.Pipeline.State
