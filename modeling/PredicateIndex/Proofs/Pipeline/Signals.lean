import Mathlib.Algebra.GroupWithZero.Nat
import PredicateIndex.Proofs.Pipeline.Moves

/-!
# Signals to a task that waits for runs

A shutdown has every run that is in flight give it a signal when it ends, and counts the signals
down. The signals that are still to come stand in the queue or among the listeners of tasks that
have not ended. They are never more than the task has left to wait for: only the first step of a
shutdown asks for signals, as many as it waits for, and every signal that is heard is one less of
both.
Everything else that is done leaves the account, whatever runs are started by hand and whatever is
cancelled. So a task that waits no more has heard all its signals.
-/
namespace PredicateIndex.Pipeline

/-- How many signals a task gives to a waiter when it ends. -/
def Task.signals (t : Task) (waiter : TaskId) : Nat :=
  if t.result?.isNone then t.listeners.count (.drained waiter) else 0

/-- How many signals a task waits for. -/
def Phase.left : Phase → Nat
  | .draining _ left _ => left
  | _ => 0

/-- A sum over tasks of which one is changed. -/
theorem sum_map_modify {tasks : List Task} {k : TaskId} {t : Task} (known : tasks[k]? = some t)
    (change : Task → Task) (weight : Task → Nat) :
    ((tasks.modify k change).map weight).sum + weight t =
      (tasks.map weight).sum + weight (change t) := by
  induction tasks generalizing k with
  | nil => cases known
  | cons first rest ih =>
    cases k with
    | zero =>
      cases known
      simp only [List.modify_zero_cons, List.map_cons, List.sum_cons]
      omega
    | succ k =>
      have later := ih known
      simp only [List.modify_succ_cons, List.map_cons, List.sum_cons]
      omega

namespace State

/-- The signals to a waiter that are still to come. -/
def signals (state : State) (waiter : TaskId) : Nat :=
  state.queue.count (.drained waiter) + (state.tasks.map (·.signals waiter)).sum

/-- How many signals a task waits for. -/
def left (state : State) (waiter : TaskId) : Nat :=
  ((state.task? waiter).map fun t => t.phase.left).getD 0

/-- There are no more signals to come than are waited for. -/
def Solvent (state : State) : Prop := ∀ waiter, state.signals waiter ≤ state.left waiter

/-- Something adds no signals and takes nothing from what is waited for. -/
structure Hushed (before after : State) : Prop where
  /-- There are no more signals. -/
  signals (waiter : TaskId) : after.signals waiter ≤ before.signals waiter
  /-- No task waits for fewer. -/
  left (waiter : TaskId) : before.left waiter ≤ after.left waiter

variable {state : State} {task : TaskId} {t : Task}

/-- What adds no signals keeps the account. -/
theorem Solvent.hushed {after : State} (solvent : state.Solvent) (hushed : Hushed state after) :
    after.Solvent := fun waiter =>
  Nat.le_trans (Nat.le_trans (hushed.signals waiter) (solvent waiter)) (hushed.left waiter)

namespace Hushed

/-- Doing nothing adds no signals. -/
theorem refl (state : State) : Hushed state state :=
  ⟨fun _ => Nat.le_refl _, fun _ => Nat.le_refl _⟩

/-- What changes neither the tasks nor the queue adds no signals. -/
theorem of_same {before after : State} (tasks : after.tasks = before.tasks)
    (queue : after.queue = before.queue) : Hushed before after := by
  refine ⟨fun waiter => Nat.le_of_eq ?_, fun waiter => Nat.le_of_eq ?_⟩
  · rw [State.signals, State.signals, tasks, queue]
  · rw [State.left, State.left, task?, task?, tasks]

/-- One thing after another adds no signals if neither does. -/
theorem trans {first second third : State} (before : Hushed first second)
    (after : Hushed second third) : Hushed first third where
  signals waiter := Nat.le_trans (after.signals waiter) (before.signals waiter)
  left waiter := Nat.le_trans (before.left waiter) (after.left waiter)

/-- Things that each add no signals add none one after another. -/
theorem foldl {α : Type} {step : State → α → State} (hushed : ∀ s a, Hushed s (step s a))
    (state : State) (items : List α) : Hushed state (items.foldl step state) :=
  List.foldlRecOn (motive := fun s : State => Hushed state s) items step (refl state)
    fun s before item _ => before.trans (hushed s item)

/-- Work that is no signal may be queued. -/
theorem enqueue (state : State) {work : Work} (other : ∀ waiter, work ≠ .drained waiter) :
    Hushed state (state.enqueue work) := by
  refine ⟨fun waiter => ?_, fun _ => Nat.le_refl _⟩
  have none : [work].count (.drained waiter) = 0 :=
    List.count_eq_zero.mpr (by simpa using (other waiter).symm)
  simp only [State.signals, State.enqueue, List.count_append, none]
  exact Nat.le_refl _

end Hushed

/-- How many signals a task waits for that is known. -/
theorem left_eq (known : state.task? task = some t) : state.left task = t.phase.left := by
  rw [left, known]
  rfl

/-- Changing a task that gives no more signals and waits for no fewer adds no signals. -/
theorem hushed_modify {change : Task → Task} (known : state.task? task = some t)
    (gives : ∀ waiter, (change t).signals waiter ≤ t.signals waiter)
    (waits : t.phase.left ≤ (change t).phase.left) :
    Hushed state { state with tasks := state.tasks.modify task change } := by
  have listed : state.tasks[task]? = some t := known
  refine ⟨fun waiter => ?_, fun waiter => ?_⟩
  · have sum := sum_map_modify listed change (·.signals waiter)
    have fewer := gives waiter
    simp only [signals]
    omega
  · by_cases same : task = waiter
    · subst same
      rw [left_eq known]
      simpa [left, task?, listed] using waits
    · simp [left, task?, same]

/-- A task that has not ended may be moved to another such phase in which it waits for no less. -/
theorem hushed_setPhase {phase : Phase} (known : state.task? task = some t)
    (unfinished : t.result? = none) (going : phase.result? = none)
    (waits : t.phase.left ≤ phase.left) : Hushed state (state.setPhase task phase) := by
  refine hushed_modify known (fun waiter => ?_) waits
  have still : ({ t with phase } : Task).result? = none := going
  simp [Task.signals, unfinished, still]

/-- A task that waits for nothing may end: it gives its signals. -/
theorem hushed_finish (known : state.task? task = some t) (unfinished : t.result? = none)
    (idle : t.phase.left = 0) (result : Result) : Hushed state (state.finish task result) := by
  have listed : state.tasks[task]? = some t := known
  refine ⟨fun waiter => ?_, fun waiter => ?_⟩
  · have sum := sum_map_modify listed (fun t => { t with phase := .ended result })
      (·.signals waiter)
    have given : ({ t with phase := .ended result } : Task).signals waiter = 0 := rfl
    have gives : t.signals waiter = t.listeners.count (.drained waiter) := by
      simp [Task.signals, unfinished]
    have after : (state.finish task result).signals waiter =
        (state.queue ++ t.listeners).count (.drained waiter) +
          ((state.tasks.modify task fun t => { t with phase := .ended result }).map
            (·.signals waiter)).sum := by
      simp [signals, finish, known, setPhase, log]
    rw [after, signals, List.count_append]
    omega
  · by_cases same : task = waiter
    · subst same
      rw [left_eq known, idle]
      exact Nat.zero_le _
    · simp [left, task?, finish, setPhase, log, same]

/-- A task that gives no signals may be created. -/
theorem hushed_spawn (state : State) (job : Job) (listeners : TaskId → List Work)
    (silent : ∀ task waiter, .drained waiter ∉ listeners task) :
    Hushed state (state.spawn job listeners).2 := by
  refine ⟨fun waiter => ?_, fun waiter => ?_⟩
  · have none : (listeners state.tasks.length).count (.drained waiter) = 0 :=
      List.count_eq_zero.mpr (silent _ waiter)
    simp [signals, spawn, List.count_append, Task.signals, none]
  · cases known : state.task? waiter with
    | none => simp [left, known]
    | some t =>
      have listed : state.tasks[waiter]? = some t := known
      have kept : (state.tasks ++ [{ job, listeners := listeners state.tasks.length }])[waiter]? =
        some t := (List.getElem?_append_left (List.getElem?_eq_some_iff.mp listed).1).trans listed
      rw [left_eq known, left]
      simp [task?, spawn, kept]

/-- How many signals are to come when one task is asked for a further piece of work. -/
theorem signals_listen (state : State) (heard : TaskId) (work : Work) (waiter : TaskId) :
    (state.listen heard work).signals waiter ≤
        state.signals waiter + [work].count (.drained waiter) ∧
      (state.listen heard work).left waiter = state.left waiter := by
  rw [listen]
  split
  · refine ⟨?_, rfl⟩
    simp only [signals, enqueue, List.count_append]
    omega
  · rename_i unfinished
    cases known : state.task? heard with
    | none =>
      have absent : state.tasks[heard]? = none := known
      have same : (state.tasks.modify heard fun t =>
          { t with listeners := t.listeners ++ [work] }) = state.tasks := by
        refine List.ext_getElem? fun k => ?_
        rw [List.getElem?_modify]
        split
        · rename_i here
          rw [← here, absent]
          rfl
        · simp
      rw [same]
      exact ⟨Nat.le_add_right _ _, rfl⟩
    | some t =>
      have listed : state.tasks[heard]? = some t := known
      have going : t.result? = none := by simpa [known] using unfinished
      have sum := sum_map_modify listed (fun t => { t with listeners := t.listeners ++ [work] })
        (·.signals waiter)
      have gives : ({ t with listeners := t.listeners ++ [work] } : Task).signals waiter =
          t.signals waiter + [work].count (.drained waiter) := by
        have still : ({ t with listeners := t.listeners ++ [work] } : Task).result? = none := going
        simp [Task.signals, going, still, List.count_append]
      refine ⟨?_, ?_⟩
      · simp only [signals]
        omega
      · by_cases same : heard = waiter
        · subst same
          simp [left, task?, listed]
        · simp [left, task?, same]

/-- A task may be listened to with what is no signal. -/
theorem hushed_listen (state : State) (heard : TaskId) {work : Work}
    (other : ∀ waiter, work ≠ .drained waiter) : Hushed state (state.listen heard work) := by
  have heard := state.signals_listen heard work
  refine ⟨fun waiter => ?_, fun waiter => Nat.le_of_eq (heard waiter).2.symm⟩
  have none : [work].count (.drained waiter) = 0 :=
    List.count_eq_zero.mpr (by simpa using (other waiter).symm)
  have bound := (heard waiter).1
  omega

/-! ## What gives no signals -/

/-- Starting a run adds no signals. -/
theorem hushed_start (state : State) (file : String) : Hushed state (state.start file).2 := by
  have spawned := hushed_spawn (state.report (.runQueued file state.nextGeneration))
    (.run file (some state.nextGeneration)) (fun task => [.settle file task]) (by simp)
  exact ⟨spawned.signals, spawned.left⟩

/-- A trigger adds no signals. -/
theorem hushed_trigger (state : State) (file : String) : Hushed state (state.trigger file).2 := by
  rw [trigger]
  split
  · exact .of_same rfl rfl
  · split
    · exact hushed_start state file
    · exact .refl state

/-- A request that fires adds no signals. -/
theorem hushed_fire (state : State) (file : String) : Hushed state (state.fire file) := by
  have triggered := hushed_trigger (state.cancelRequest file) file
  exact ⟨triggered.signals, triggered.left⟩

/-- An event adds no signals. -/
theorem hushed_handle (state : State) (event : Event) : Hushed state (state.handle event) := by
  have fires : ∀ (other : State) (files : List String), Hushed other (files.foldl fire other) :=
    fun other files => .foldl hushed_fire other files
  cases event with
  | opened file text version =>
    have triggered := hushed_trigger (((state.report (.documentOpened file)).putAway
      file).setDocument file { text, version }) file
    exact ⟨triggered.signals, triggered.left⟩
  | changed file text version =>
    rw [handle, holdBack]
    split
    · have queued : Hushed state (state.enqueue (.alarm file state.debouncer.nextSerial 1)) :=
        .enqueue state (by simp)
      exact ⟨queued.signals, queued.left⟩
    · exact .of_same rfl rfl
  | saved file text =>
    cases text with
    | none => exact hushed_fire state file
    | some text =>
      have saved : Hushed state (state.setDocument file
        { text, version := ((state.documents.get? file).map Document.version).getD 0 }) :=
          .of_same rfl rfl
      exact saved.trans (hushed_fire _ file)
  | closed file => exact .of_same rfl rfl
  | configured settings =>
    cases settings with
    | none => exact fires state _
    | some given =>
      have configured : Hushed state { state with provider := .fixed given } := .of_same rfl rfl
      exact configured.trans (fires _ _)
  | reanalyzed => exact fires state _

/-- The answer to a call adds no signals. -/
theorem hushed_answer (analyzer : Analyzer) (known : state.task? task = some t)
    (unfinished : t.result? = none) (idle : t.phase.left = 0) (job : Job) (call : AnalyzerCall) :
    Hushed state (state.answer analyzer task job call) := by
  cases job with
  | run file generation =>
    obtain ⟨cache, published, journal, frame⟩ :=
      conclude_frame state file generation (analyzer call)
    have found : ({ state with cache, published, journal } : State).task? task = some t := known
    simp only [answer]
    rw [frame]
    have finished := hushed_finish found unfinished idle
      (.index (state.conclude file generation (analyzer call)).1)
    exact ⟨finished.signals, finished.left⟩
  | _ =>
    simp only [answer]
    split <;> exact hushed_finish known unfinished idle _

/-- A call of the analyzer adds no signals. -/
theorem hushed_call (analyzer : Analyzer) (known : state.task? task = some t)
    (unfinished : t.result? = none) (idle : t.phase.left = 0) (job : Job) (file text : String)
    (answer : SettingsAnswer) :
    Hushed state (state.call analyzer task job file text answer) := by
  have moves : ∀ call, Hushed state (state.setPhase task (.calling call)) := fun call =>
    hushed_setPhase known unfinished rfl (by rw [idle]; exact Nat.zero_le _)
  rw [State.call]
  split
  · exact ⟨(moves _).signals, (moves _).left⟩
  · have logged : ∀ entry, ((state.heed job file answer).log entry).task? task = some t :=
      fun _ => known
    refine Hushed.trans ?_ (hushed_answer analyzer (logged _) unfinished idle job _)
    exact .of_same rfl rfl

/-- A question for settings adds no signals. -/
theorem hushed_consult (analyzer : Analyzer) (known : state.task? task = some t)
    (fresh : t.phase = .fresh) (job : Job) (file text : String) :
    Hushed state (state.consult analyzer task job file text) := by
  have unfinished : t.result? = none := by rw [Task.result?_eq, fresh]; rfl
  have idle : t.phase.left = 0 := by rw [fresh]; rfl
  rw [consult]
  split
  · exact hushed_call analyzer known unfinished idle job file text _
  · exact hushed_setPhase known unfinished rfl (by rw [idle]; exact Nat.zero_le _)

/-- Joining a run adds no signals. -/
theorem hushed_join (known : state.task? task = some t) (fresh : t.phase = .fresh) (run : TaskId) :
    Hushed state (state.join task run) := by
  have unfinished : t.result? = none := by rw [Task.result?_eq, fresh]; rfl
  have idle : t.phase.left = 0 := by rw [fresh]; rfl
  rw [join]
  split
  · exact hushed_finish known unfinished idle _
  · obtain ⟨u, found, -, phase⟩ := task?_listen state known run (.relay run task)
    have listening : Hushed state (state.listen run (.relay run task)) :=
      hushed_listen state run (by simp)
    refine listening.trans (hushed_setPhase found ?_ rfl ?_)
    · rw [Task.result?_eq, phase, fresh]
      rfl
    · rw [phase, idle]
      exact Nat.zero_le _

/-- The first step of a lookup adds no signals. -/
theorem hushed_beginLookup (known : state.task? task = some t) (fresh : t.phase = .fresh)
    (file : String) : Hushed state (state.beginLookup task file) := by
  have unfinished : t.result? = none := by rw [Task.result?_eq, fresh]; rfl
  have idle : t.phase.left = 0 := by rw [fresh]; rfl
  rw [beginLookup]
  split
  · exact hushed_finish known unfinished idle _
  · split
    · exact hushed_join known fresh _
    · split
      · exact (hushed_start state file).trans
          (hushed_join (task?_start state known file) fresh _)
      · exact hushed_finish known unfinished idle _

/-- The end of a shutdown adds no signals. -/
theorem hushed_stop (known : state.task? task = some t) (unfinished : t.result? = none)
    (idle : t.phase.left = 0) (runs : Nat) : Hushed state (state.stop task runs) := by
  have reported : (state.report (.stopped runs)).task? task = some t := known
  have finished := hushed_finish reported unfinished idle (.drained runs)
  exact ⟨finished.signals, finished.left⟩

/-- Passing a result on adds no signals. -/
theorem hushed_relay (state : State) (run waiter : TaskId) :
    Hushed state (state.relay run waiter) := by
  rw [relay]
  split
  · rename_i joined result waiting _
    obtain ⟨t, known, at_⟩ := Option.map_eq_some_iff.mp waiting
    refine (hushed_setPhase known ?_ rfl ?_).trans (.enqueue _ (by simp))
    · rw [Task.result?_eq, at_]
      rfl
    · rw [at_]
      exact Nat.le_refl _
  · exact .refl state

/-- An answer of the analyzer adds no signals. -/
theorem hushed_letGo (file : String) (state : State) (task : TaskId) :
    Hushed state (letGo file state task) := by
  rw [letGo]
  split
  · rename_i call waiting
    split
    · obtain ⟨t, known, at_⟩ := Option.map_eq_some_iff.mp waiting
      refine (hushed_setPhase known ?_ rfl ?_).trans (.enqueue _ (by simp))
      · rw [Task.result?_eq, at_]
        rfl
      · rw [at_]
        exact Nat.le_refl _
    · exact .refl state
  · exact .refl state

/-- An answer of the provider adds no signals. -/
theorem hushed_inform (answer : SettingsAnswer) (state : State) (task : TaskId) :
    Hushed state (state.inform answer task) := by
  rw [inform]
  split
  · rename_i file text away waiting
    obtain ⟨t, known, at_⟩ := Option.map_eq_some_iff.mp waiting
    refine (hushed_setPhase known ?_ rfl ?_).trans (.enqueue _ (by simp))
    · rw [Task.result?_eq, at_]
      rfl
    · rw [at_]
      exact Nat.le_refl _
  · exact .refl state

/-- Cancelling a task by itself adds no signals. -/
theorem hushed_cancelStep (state : State) (task : TaskId) :
    Hushed state (state.cancelStep task) := by
  have moved : ∀ {before : Phase}, (state.task? task).map Task.phase = some before →
      before.result? = none → before.left = 0 →
      Hushed state (state.setPhase task (.ending .cancelled)) := by
    intro before at_ unfinished idle
    obtain ⟨t, known, rfl⟩ := Option.map_eq_some_iff.mp at_
    exact hushed_setPhase known unfinished rfl (by rw [idle]; exact Nat.zero_le _)
  rw [cancelStep]
  split
  · exact (moved ‹_› rfl rfl).trans (.enqueue _ (by simp))
  · exact (moved ‹_› rfl rfl).trans (.enqueue _ (by simp))
  · exact (moved ‹_› rfl rfl).trans (.enqueue _ (by simp))
  · exact moved ‹_› rfl rfl
  · exact moved ‹_› rfl rfl
  · exact moved ‹_› rfl rfl
  · exact moved ‹_› rfl rfl
  · exact .refl state

/-- A cancellation adds no signals. -/
theorem hushed_cancel (state : State) (task : TaskId) : Hushed state (state.cancel task).2 := by
  rw [cancel]
  split
  · exact .refl state
  · exact .refl state
  · rename_i runs left cancelled waiting
    obtain ⟨t, known, at_⟩ := Option.map_eq_some_iff.mp waiting
    refine (hushed_setPhase known ?_ rfl ?_).trans (.foldl hushed_cancelStep _ runs)
    · rw [Task.result?_eq, at_]
      rfl
    · rw [at_]
      exact Nat.le_refl _
  · exact hushed_cancelStep state task

/-! ## The account -/

/-- Every run that is listened to gives one signal more to the task and none to the others. -/
theorem signals_foldl_listen (state : State) (task : TaskId) (runs : List TaskId)
    (waiter : TaskId) :
    (runs.foldl (fun s run => s.listen run (.drained task)) state).signals waiter ≤
        state.signals waiter + (if task = waiter then runs.length else 0) ∧
      (runs.foldl (fun s run => s.listen run (.drained task)) state).left waiter =
        state.left waiter := by
  induction runs generalizing state with
  | nil => exact ⟨Nat.le_add_right _ _, rfl⟩
  | cons run rest ih =>
    obtain ⟨heard, same⟩ := state.signals_listen run (.drained task) waiter
    obtain ⟨later, still⟩ := ih (state.listen run (.drained task))
    refine ⟨?_, still.trans same⟩
    simp only [List.count_singleton, beq_iff_eq, Work.drained.injEq] at heard
    rw [List.foldl_cons, List.length_cons]
    by_cases own : task = waiter
    · rw [if_pos own] at heard later ⊢
      omega
    · rw [if_neg own] at heard later ⊢
      omega

/-- The first step of a shutdown asks for as many signals as it waits for. -/
theorem Solvent.beginShutdown (solvent : state.Solvent) (known : state.task? task = some t)
    (fresh : t.phase = .fresh) : (state.beginShutdown task).Solvent := by
  have unfinished : t.result? = none := by rw [Task.result?_eq, fresh]; rfl
  have idle : t.phase.left = 0 := by rw [fresh]; rfl
  have quiet : Hushed state { state with debouncer := state.debouncer.cancelAll } :=
    .of_same rfl rfl
  have settled := solvent.hushed quiet
  have found : ({ state with debouncer := state.debouncer.cancelAll } : State).task? task =
    some t := known
  rw [State.beginShutdown]
  generalize ({ state with debouncer := state.debouncer.cancelAll } : State) = silent
    at settled found
  simp only
  split
  · exact settled.hushed (hushed_stop found unfinished idle 0)
  · generalize silent.pending.map Prod.snd = runs
    obtain ⟨u, listed, -, phase⟩ := task?_foldl_listen silent found (.drained task) runs
    have heard := signals_foldl_listen silent task runs
    generalize runs.foldl (fun s run => s.listen run (.drained task)) silent = listening at *
    have moved : Hushed listening (listening.setPhase task (.draining runs runs.length false)) := by
      refine hushed_setPhase listed ?_ rfl ?_
      · rw [Task.result?_eq, phase, fresh]
        rfl
      · rw [phase, idle]
        exact Nat.zero_le _
    intro waiter
    have fewer := moved.signals waiter
    have more := moved.left waiter
    obtain ⟨bound, same⟩ := heard waiter
    have before := settled waiter
    by_cases own : task = waiter
    · subst own
      rw [left_eq found, idle] at before
      have waits : (listening.setPhase task (.draining runs runs.length false)).left task =
          runs.length := by
        have at_ : listening.tasks[task]? = some u := listed
        simp [left, task?, setPhase, at_, Phase.left]
      rw [if_pos rfl] at bound
      omega
    · rw [if_neg own] at bound
      omega

/-- A signal that is heard is one less to come and one less to wait for. -/
theorem Solvent.drain {waiter : TaskId}
    (solvent : ∀ other,
      state.signals other + (if waiter = other then 1 else 0) ≤ state.left other) :
    (state.drain waiter).Solvent := by
  have settled : state.Solvent := fun other => Nat.le_trans (Nat.le_add_right _ _) (solvent other)
  rw [State.drain]
  split
  · rename_i runs left cancelled waiting
    obtain ⟨t, known, at_⟩ := Option.map_eq_some_iff.mp waiting
    have listed : state.tasks[waiter]? = some t := known
    have unfinished : t.result? = none := by rw [Task.result?_eq, at_]; rfl
    have owed := solvent waiter
    rw [left_eq known, at_, if_pos rfl] at owed
    -- the signals to come are those of before, and only what the waiter has left changes
    have moved : ∀ phase : Phase, phase.result? = none → left - 1 ≤ phase.left →
        (state.setPhase waiter phase).Solvent := by
      intro phase going bound other
      have same : (state.setPhase waiter phase).signals other = state.signals other := by
        have still : ({ t with phase } : Task).result? = none := going
        have sum := sum_map_modify listed (fun t => { t with phase }) (·.signals other)
        have gives : ({ t with phase } : Task).signals other = t.signals other := by
          simp [Task.signals, unfinished, still]
        simp only [signals, setPhase]
        omega
      rw [same]
      by_cases own : waiter = other
      · subst own
        have waits : (state.setPhase waiter phase).left waiter = phase.left := by
          simp [State.left, task?, setPhase, listed]
        have owed : state.signals waiter + 1 ≤ left := owed
        omega
      · have waits : (state.setPhase waiter phase).left other = state.left other := by
          simp [State.left, task?, setPhase, own]
        rw [waits]
        exact settled other
    split
    · refine (moved (.ending _) rfl ?_).hushed (.enqueue _ (by simp))
      simp only [Phase.left]
      omega
    · exact moved (.draining runs (left - 1) cancelled) rfl (Nat.le_refl _)
  · exact settled

/-- The step of a task keeps the account. -/
theorem Solvent.stepTask (solvent : state.Solvent) (analyzer : Analyzer)
    (known : state.task? task = some t) : (State.stepTask analyzer state task t).Solvent := by
  have ended : ∀ {phase : Phase} (result : Result), t.phase = phase → phase.result? = none →
      phase.left = 0 → (state.finish task result).Solvent := by
    intro phase result at_ unfinished idle
    refine solvent.hushed (hushed_finish known ?_ ?_ result)
    · rw [Task.result?_eq, at_, unfinished]
    · rw [at_, idle]
  rw [State.stepTask]
  split
  · rename_i fresh
    cases job : t.job with
    | run file generation =>
      rw [State.begin]
      split
      · exact ended _ fresh rfl rfl
      · have reported : (state.reportInRun (.runStarted file generation)).task? task = some t :=
          known
        refine solvent.hushed (Hushed.trans ?_ (hushed_consult analyzer reported fresh _ file _))
        exact .of_same rfl rfl
    | lookup file => exact solvent.hushed (hushed_beginLookup known fresh file)
    | tree file =>
      rw [State.begin]
      split
      · exact ended _ fresh rfl rfl
      · exact solvent.hushed (hushed_consult analyzer known fresh _ file _)
    | shutdown => exact solvent.beginShutdown known fresh
  · rename_i file text away answer informed
    refine solvent.hushed (hushed_call analyzer known ?_ ?_ t.job file _ answer)
    · rw [Task.result?_eq, informed]
      rfl
    · rw [informed]
      rfl
  · rename_i call answered
    refine solvent.hushed (hushed_answer analyzer known ?_ ?_ t.job call)
    · rw [Task.result?_eq, answered]
      rfl
    · rw [answered]
      rfl
  · rename_i runs ending
    refine solvent.hushed (hushed_stop known ?_ ?_ runs)
    · rw [Task.result?_eq, ending]
      rfl
    · rw [ending]
      rfl
  · rename_i result _ ending
    exact ended _ ending rfl rfl
  · exact solvent

/-- Work keeps the account. -/
theorem Solvent.tick (solvent : state.Solvent) (analyzer : Analyzer) :
    (tick analyzer state).Solvent := by
  cases queue : state.queue with
  | nil => simpa only [State.tick, queue] using solvent
  | cons work rest =>
    simp only [State.tick, queue]
    have taken : ∀ waiter, ({ state with queue := rest } : State).signals waiter +
        [work].count (.drained waiter) = state.signals waiter := by
      intro waiter
      simp only [signals, queue, List.count_cons, List.count_nil]
      omega
    have shorter : Hushed state { state with queue := rest } :=
      ⟨fun waiter => by have := taken waiter; omega, fun _ => Nat.le_refl _⟩
    have left := solvent.hushed shorter
    cases work with
    | step task =>
      simp only [execute]
      split
      · exact left.stepTask analyzer ‹_›
      · exact left
    | settle file run =>
      simp only [execute]
      split
      · exact left.hushed (.of_same rfl rfl)
      · exact left
    | relay run waiter => exact left.hushed (hushed_relay _ run waiter)
    | drained waiter =>
      refine Solvent.drain fun other => ?_
      have heard := taken other
      have owed := solvent other
      have same : ({ state with queue := rest } : State).left other = state.left other := rfl
      simp only [List.count_singleton, beq_iff_eq, Work.drained.injEq] at heard
      omega
    | alarm file serial turns =>
      cases turns with
      | succ turns => exact left.hushed (.enqueue _ (by simp))
      | zero =>
        simp only [execute]
        split
        · exact left.hushed (hushed_fire _ file)
        · exact left

/-- Every action keeps the account. -/
theorem Solvent.act (solvent : state.Solvent) (action : Action) : (state.act action).Solvent := by
  cases action with
  | event event => exact solvent.hushed (hushed_handle state event)
  | trigger file => exact solvent.hushed (hushed_trigger state file)
  | ask job => exact solvent.hushed (hushed_spawn state job (fun _ => []) (by simp))
  | cancel task => exact solvent.hushed (hushed_cancel state task)
  | tick analyzer => exact solvent.tick analyzer
  | clock | hold | provide => exact solvent.hushed (.of_same rfl rfl)
  | alarm file =>
    simp only [State.act]
    split
    · exact solvent.hushed (hushed_fire state file)
    · exact solvent
  | release file =>
    have freed : Hushed state { state with held := state.held.filter (· != file) } :=
      .of_same rfl rfl
    exact solvent.hushed (freed.trans (.foldl (hushed_letGo file) _ _))
  | respond file task => exact solvent.hushed (hushed_letGo file state task)
  | inform task answer => exact solvent.hushed (hushed_inform answer state task)

/-- In every interleaving there are no more signals to come than are waited for. -/
theorem solvent_play (provider : SettingsProvider) (delay : Nat) (actions : List Action) :
    ((initial provider delay).play actions).Solvent :=
  List.foldlRecOn (motive := fun s : State => s.Solvent) actions act (fun _ => Nat.le_refl _)
    fun _ solvent action _ => solvent.act action

end State

end PredicateIndex.Pipeline
