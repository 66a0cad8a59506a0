import PredicateIndex.Proofs.Pipeline.Awaiting
import PredicateIndex.Proofs.Pipeline.Supersession

/-!
# Shutting down

A shutdown drops the requests that wait and waits for the runs in flight. None of the requests fires
after that, and when the shutdown has returned, all these runs have ended and are settled. If nobody
calls the pipeline in the meantime, no run is in flight then, and what readers see stays as it is
until the pipeline is called again. There is one exception: a run that was started by hand is in
flight for no file, so nobody waits for it, and it takes its reply in whenever the analyzer answers.
-/
namespace PredicateIndex.Pipeline

/-! ## Requests that wait -/

/-- The requests that wait were numbered from a first number on. -/
structure Shelf.Numbered (shelf : Shelf) (first : Nat) : Prop where
  /-- The first number has come up. -/
  reached : first ≤ shelf.debouncer.nextSerial
  /-- A request that waits has been given a number from the first on. -/
  waiting {file : String} {alarm : Alarm Unit} : (file, alarm) ∈ shelf.debouncer.alarms →
    first ≤ alarm.serial ∧ alarm.serial < shelf.debouncer.nextSerial

/-- Requests are numbered in order. -/
theorem Shelf.Numbered.change {shelf shelf' : Shelf} {first : Nat} (numbered : shelf.Numbered first)
    (changed : Change shelf shelf') : shelf'.Numbered first := by
  have dropped : ∀ (cancelled : String) {file : String} {alarm : Alarm Unit},
      (file, alarm) ∈ shelf.debouncer.alarms.remove cancelled →
      first ≤ alarm.serial ∧ alarm.serial < shelf.debouncer.nextSerial :=
    fun _ _ _ inside => numbered.waiting (List.mem_of_mem_filter inside)
  cases changed with
  | deed done =>
    cases done with
    | cancel file => exact ⟨numbered.reached, dropped file⟩
    | silence => exact ⟨numbered.reached, nofun⟩
    | install | evict | publish => exact ⟨numbered.reached, numbered.waiting⟩
  | write => exact ⟨numbered.reached, numbered.waiting⟩
  | close file => exact ⟨numbered.reached, dropped file⟩
  | request now file opened =>
    refine ⟨Nat.le_succ_of_le numbered.reached, fun {key alarm} inside => ?_⟩
    rcases List.mem_append.mp inside with old | new
    · obtain ⟨bound, given⟩ := dropped file old
      exact ⟨bound, Nat.lt_succ_of_lt given⟩
    · cases List.mem_singleton.mp new
      exact ⟨numbered.reached, Nat.lt_succ_self _⟩

/-- Where no request waits, deeds hold none back. -/
theorem Deeds.alarms_eq_nil {shelf shelf' : Shelf} (deeds : Deeds shelf shelf')
    (quiet : shelf.debouncer.alarms = []) : shelf'.debouncer.alarms = [] := by
  induction deeds with
  | refl => exact quiet
  | tail _ done ih =>
    cases done with
    | cancel file =>
      simp only [Debouncer.cancel, ih]
      rfl
    | silence => rfl
    | install | evict | publish => exact ih

/-! ## Runs that are started by hand -/

/-- Every run that has not ended is in flight or was started by hand. -/
def Tracked (byHand : TaskId → Prop) (desk : Desk) : Prop :=
  ∀ (k : TaskId) (t : Task) (file : String) (generation : Option Int), desk.tasks[k]? = some t →
    t.job = .run file generation → t.result? = none → desk.pending.get? file = some k ∨ byHand k

namespace Tracked

variable {byHand : TaskId → Prop} {desk desk' : Desk}

/-- In a turn only runs in flight are started, and runs stay in flight until they have ended. -/
theorem turn (tracked : Tracked byHand desk) (moored : Moored desk) (turned : Turn desk desk') :
    Tracked byHand desk' := by
  intro k u file generation found job unfinished
  cases before : desk.tasks[k]? with
  | some t =>
    obtain ⟨v, advance⟩ := turned.advance before
    obtain rfl : u = v := Option.some.inj (found.symm.trans advance.known)
    have earlier := tracked k t file generation before (advance.job.symm.trans job)
      (advance.unfinished unfinished)
    refine earlier.imp_left fun inFlight => ?_
    rcases moored.inFlight_turn turned inFlight with still | ⟨v, listed, ended⟩
    · exact still
    · obtain rfl : u = v := Option.some.inj (found.symm.trans listed)
      simp [unfinished] at ended
  | none =>
    -- a run is created with the next generation, so it is started
    obtain ⟨t, known, -⟩ | ⟨-, created⟩ := turned.origin found
    · cases before.symm.trans known
    have next := (created file generation job).2
    have same : desk'.next ≠ desk.next := by omega
    cases turned with
    | ask | drop => exact (same rfl).elim
    | move moved =>
      cases moved with
      | start started idle =>
        rcases desk.of_tasks_spawn found with known | ⟨rfl, rfl⟩
        · cases before.symm.trans known
        · cases job
          exact .inl (Ledger.get?_put_self _ _ _)
      | _ => exact (same rfl).elim

/-- A task that has not ended may be moved to any phase. -/
theorem setPhase (tracked : Tracked byHand desk) {task : TaskId} {t : Task} {phase : Phase}
    (known : desk.tasks[task]? = some t) (unfinished : t.result? = none) :
    Tracked byHand (desk.setPhase task phase) := by
  intro k u file generation found job going
  rw [Desk.tasks_setPhase, Option.map_eq_some_iff] at found
  obtain ⟨v, found, rfl⟩ := found
  refine tracked k v file generation found job ?_
  by_cases same : task = k
  · subst same
    obtain rfl : t = v := Option.some.inj (known.symm.trans found)
    exact unfinished
  · simpa [Task.result?, same] using going

/-- A task that is asked for is started by hand. -/
theorem ask (tracked : Tracked byHand desk) (job : Job)
    (new : ∀ file generation, job = .run file generation → byHand desk.tasks.length) :
    Tracked byHand (desk.spawn job []) := by
  intro k u file generation found ofJob unfinished
  rcases desk.of_tasks_spawn found with known | ⟨rfl, rfl⟩
  · exact tracked k u file generation known ofJob unfinished
  · exact .inr (new file generation ofJob)

end Tracked

namespace State

variable {state : State} {task run : TaskId} {file : String}

/-- A run was started by hand. -/
def ByHand (start : State) (actions : List Action) (run : TaskId) : Prop :=
  ∃ before file generation rest,
    Occurs start actions before (.ask (.run file generation)) rest ∧ before.tasks.length = run

/-- What was started by hand still was when something else follows. -/
theorem ByHand.snoc {start : State} {actions : List Action} (byHand : ByHand start actions run)
    (action : Action) : ByHand start (actions ++ [action]) run := by
  obtain ⟨before, file, generation, rest, occurs, number⟩ := byHand
  exact ⟨before, file, generation, rest ++ [action], occurs.snoc action, number⟩

/-- Every action keeps track of the runs that are started by hand. -/
theorem tracked_act {start : State} {actions : List Action}
    (tracked : Tracked (ByHand start actions) ((start.play actions).desk []))
    (moored : Moored ((start.play actions).desk [])) (action : Action) :
    Tracked (ByHand start (actions ++ [action])) (((start.play actions).act action).desk []) := by
  have later : Tracked (ByHand start (actions ++ [action])) ((start.play actions).desk []) :=
    fun k t file generation known job unfinished =>
      (tracked k t file generation known job unfinished).imp_right fun byHand => byHand.snoc action
  by_cases scheduled : action.Scheduled
  · exact (Turns.keep (fun desk => Tracked (ByHand start (actions ++ [action])) desk ∧ Moored desk)
      (fun kept turned => ⟨kept.1.turn kept.2 turned, kept.2.turn turned⟩)
      (turns_act _ scheduled) ⟨later, moored⟩).1
  · cases action with
    | ask job =>
      refine later.ask job fun file generation isRun => ?_
      subst isRun
      exact ⟨_, file, generation, [], occurs_last start actions _, rfl⟩
    | cancel task =>
      exact keep_cancel _ (Tracked _)
        (fun tracked known unfinished _ => tracked.setPhase known unfinished)
        (fun _ tracked => tracked) later task
    | _ => exact (scheduled trivial).elim

/-- In every interleaving a run that has not ended is in flight or was started by hand. -/
theorem tracked_play (provider : SettingsProvider) (delay : Nat) (actions : List Action) :
    Tracked (ByHand (initial provider delay) actions)
      (((initial provider delay).play actions).desk []) := by
  induction actions using List.reverseRecOn with
  | nil =>
    intro k t file generation known
    simp [initial, desk] at known
  | append_singleton actions action ih =>
    rw [play_snoc]
    exact tracked_act ih (moored_play provider delay actions) action

/-- In every interleaving the requests that wait are numbered. -/
theorem numbered_requests_play (provider : SettingsProvider) (delay : Nat) (actions : List Action) :
    ((initial provider delay).play actions).shelf.Numbered 0 :=
  keep_play _ (fun shelf => shelf.Numbered 0) (fun kept changed => kept.change changed)
    ⟨Nat.le_refl _, fun inside => (List.not_mem_nil inside).elim⟩ actions

/-- A task keeps its job, whatever is done. -/
theorem job_act {t : Task} (known : state.task? task = some t) (action : Action) :
    ∃ u, (state.act action).task? task = some u ∧ u.job = t.job := by
  refine keep_act state (fun desk => ∃ u, desk.tasks[task]? = some u ∧ u.job = t.job) ?_ ?_ ?_
    (fun _ held => held) ⟨t, known, rfl⟩ action
  · rintro d d' ⟨u, found, job⟩ turned
    obtain ⟨v, listed, same, -⟩ := Moored.kept_turn turned task u found
    exact ⟨v, listed, same.trans job⟩
  · rintro desk asked ⟨u, found, job⟩
    exact ⟨u, desk.tasks_spawn_of_known asked [] found, job⟩
  · rintro desk other v phase ⟨u, found, job⟩ - - -
    exact ⟨{ u with phase := if other = task then phase else u.phase },
      by rw [Desk.tasks_setPhase, found]; rfl, job⟩

/-- A task keeps its job. -/
theorem job_play {t : Task} (known : state.task? task = some t) (actions : List Action) :
    ∃ u, (state.play actions).task? task = some u ∧ u.job = t.job := by
  refine List.foldlRecOn
    (motive := fun s : State => ∃ u, s.task? task = some u ∧ u.job = t.job) actions act
    ⟨t, known, rfl⟩ ?_
  rintro s ⟨u, found, job⟩ action -
  obtain ⟨v, listed, same⟩ := job_act found action
  exact ⟨v, listed, same.trans job⟩

/-! ## What fires and what calls the pipeline -/

/-- An action has the waiting request with a number fire. -/
inductive Fires (state : State) (serial : Nat) : Action → Prop where
  /-- The request is due. -/
  | due (file : String) (alarm : Alarm Unit)
    (waits : state.debouncer.alarms.get? file = some alarm) (number : alarm.serial = serial)
    (reached : alarm.deadline ≤ state.now) : Fires state serial (.alarm file)
  /-- The request has no delay, and its turn has come. -/
  | turn (analyzer : Analyzer) (file : String) (alarm : Alarm Unit)
    (waits : state.debouncer.alarms.get? file = some alarm) (number : alarm.serial = serial)
    (next : state.queue.head? = some (.alarm file serial 0)) : Fires state serial (.tick analyzer)

/-- A request that fires waits. -/
theorem Fires.mem {serial : Nat} {action : Action} (fires : state.Fires serial action) :
    ∃ file alarm, (file, alarm) ∈ state.debouncer.alarms ∧ alarm.serial = serial := by
  cases fires with
  | due file alarm waits number | turn _ file alarm waits number =>
    exact ⟨file, alarm, Ledger.mem_of_get? waits, number⟩

/-- Where no request waits, none fires. -/
theorem not_fires_of_quiet (quiet : state.debouncer.alarms = []) (serial : Nat) (action : Action) :
    ¬state.Fires serial action := by
  intro fires
  obtain ⟨file, alarm, inside, -⟩ := fires.mem
  rw [quiet] at inside
  cases inside

/-- An alarm by which no request fires does nothing. -/
theorem act_alarm_of_not_fires (still : ∀ serial, ¬state.Fires serial (.alarm file)) :
    state.act (.alarm file) = state := by
  refine if_neg fun due => ?_
  rw [isDue, Option.any_eq_true] at due
  obtain ⟨alarm, waits, reached⟩ := due
  exact still alarm.serial (.due file alarm waits rfl (of_decide_eq_true reached))

/-- A turn of an alarm in which no request fires does nothing else. -/
theorem tick_alarm_of_not_fires {serial : Nat} {rest : List Work} (analyzer : Analyzer)
    (queue : state.queue = .alarm file serial 0 :: rest)
    (still : ∀ serial, ¬state.Fires serial (.tick analyzer)) :
    tick analyzer state = { state with queue := rest } := by
  simp only [tick, queue, execute]
  refine if_neg fun same => ?_
  rw [beq_iff_eq, Option.map_eq_some_iff] at same
  obtain ⟨alarm, waits, rfl⟩ := same
  exact still alarm.serial (.turn analyzer file alarm waits rfl (by rw [queue]; rfl))

/-- An action calls the pipeline: it is an event or a trigger, or a task that is not in flight takes
its first step. -/
def Enters (state : State) : Action → Prop
  | .event _ | .trigger _ => True
  | .tick _ => ∃ task t, state.queue.head? = some (.step task) ∧ state.task? task = some t ∧
      t.phase = .fresh ∧ ∀ file, state.pending.get? file ≠ some task
  | _ => False

/-- The answer to a task leaves what is in flight. -/
theorem pending_answer (state : State) (analyzer : Analyzer) (task : TaskId) (job : Job)
    (call : AnalyzerCall) : (state.answer analyzer task job call).pending = state.pending := by
  cases job with
  | run file generation =>
    obtain ⟨cache, published, journal, frame⟩ :=
      conclude_frame state file generation (analyzer call)
    simp only [answer, frame]
    rfl
  | _ =>
    simp only [answer]
    split <;> rfl

/-- A call of the analyzer leaves what is in flight. -/
theorem pending_call (state : State) (analyzer : Analyzer) (task : TaskId) (job : Job)
    (file text : String) (answer : SettingsAnswer) :
    (state.call analyzer task job file text answer).pending = state.pending := by
  rw [State.call]
  split
  · rfl
  · exact pending_answer _ analyzer task job _

/-- The step of a task leaves what is in flight if it is a run or has begun. -/
theorem pending_stepTask (state : State) (analyzer : Analyzer) (task : TaskId) {t : Task}
    (started : t.phase = .fresh → ∃ file, t.IsRunOf file) :
    (stepTask analyzer state task t).pending = state.pending := by
  rw [stepTask]
  split
  · rename_i fresh
    obtain ⟨file, generation, job⟩ := started fresh
    rw [job, begin]
    split
    · rfl
    · rw [consult]
      split
      · exact pending_call _ analyzer task _ _ _ _
      · rfl
  · exact pending_call state analyzer task t.job _ _ _
  · exact pending_answer state analyzer task t.job _
  · rfl
  · rfl
  · rfl

/-- Where no request waits, work brings no run into flight unless the pipeline is called. -/
theorem pending_tick (moored : Moored (state.desk [])) (quiet : state.debouncer.alarms = [])
    {analyzer : Analyzer} (outside : ¬state.Enters (.tick analyzer))
    (inFlight : (tick analyzer state).pending.get? file = some run) :
    state.pending.get? file = some run := by
  cases queue : state.queue with
  | nil => rwa [tick, queue] at inFlight
  | cons work rest =>
    cases work with
    | step task =>
      simp only [tick, queue, execute] at inFlight
      split at inFlight
      · rename_i t known
        rwa [pending_stepTask] at inFlight
        -- a task that takes its first step is a run in flight
        intro fresh
        by_contra other
        refine outside ⟨task, t, by rw [queue]; rfl, known, fresh, fun started pending => ?_⟩
        obtain ⟨u, found, isRun⟩ := moored.isRun pending
        obtain rfl : t = u := Option.some.inj (known.symm.trans found)
        exact other ⟨started, isRun⟩
      · exact inFlight
    | settle settled ended =>
      simp only [tick, queue, execute] at inFlight
      split at inFlight
      · rw [Ledger.get?_remove] at inFlight
        split at inFlight
        · cases inFlight
        · exact inFlight
      · exact inFlight
    | relay ended waiter =>
      simp only [tick, queue, execute, relay] at inFlight
      split at inFlight <;> exact inFlight
    | drained waiter =>
      simp only [tick, queue, execute, drain] at inFlight
      split at inFlight
      · split at inFlight <;> exact inFlight
      · exact inFlight
    | alarm asked serial turns =>
      cases turns with
      | succ turns => simpa only [tick, queue, execute, enqueue] using inFlight
      | zero =>
        rwa [tick_alarm_of_not_fires analyzer queue fun serial =>
          not_fires_of_quiet quiet serial _] at inFlight

/-- Where no request waits, an action brings no run into flight unless it calls the pipeline. -/
theorem pending_act (moored : Moored (state.desk [])) (quiet : state.debouncer.alarms = [])
    {action : Action} (outside : ¬state.Enters action)
    (inFlight : (state.act action).pending.get? file = some run) :
    state.pending.get? file = some run := by
  cases action with
  | event | trigger => exact (outside trivial).elim
  | ask | clock | hold | provide => exact inFlight
  | cancel task => rwa [act, pending_cancel] at inFlight
  | tick analyzer => exact pending_tick moored quiet outside inFlight
  | alarm asked =>
    rwa [act_alarm_of_not_fires fun serial => not_fires_of_quiet quiet serial _] at inFlight
  | release released =>
    have same : (state.release released).pending = state.pending :=
      List.foldlRecOn (motive := fun s : State => s.pending = state.pending) _ (letGo released) rfl
        fun s same task _ => (pending_letGo released task).trans same
    rwa [act, same] at inFlight
  | respond answered task => rwa [act, pending_letGo] at inFlight
  | inform task answer =>
    simp only [act, inform] at inFlight
    split at inFlight <;> exact inFlight

/-- Nobody calls the pipeline while actions are done. -/
def Undisturbed : State → List Action → Prop
  | _, [] => True
  | state, action :: rest => ¬state.Enters action ∧ Undisturbed (state.act action) rest

/-- Where no request waits, no run comes into flight until the pipeline is called. -/
theorem pending_play (moored : Moored (state.desk [])) (quiet : state.debouncer.alarms = [])
    {actions : List Action} (undisturbed : state.Undisturbed actions)
    (inFlight : (state.play actions).pending.get? file = some run) :
    state.pending.get? file = some run := by
  induction actions generalizing state with
  | nil => exact inFlight
  | cons action rest ih =>
    obtain ⟨outside, later⟩ := undisturbed
    have other : ∀ event, action ≠ .event event := by
      rintro event rfl
      exact outside trivial
    have still := (deeds_act state other).alarms_eq_nil quiet
    exact pending_act moored quiet outside (ih (moored_act moored action) still later inFlight)

/-- What readers see stays as it is unless the pipeline is called or a run takes a reply in. -/
theorem seen_act (state : State) {action : Action} (outside : ¬state.Enters action) :
    ((state.act action).cache = state.cache ∧ (state.act action).published = state.published) ∨
      ∃ analyzer run file generation reply, action = .tick analyzer ∧
        state.Takes analyzer run file generation reply := by
  have seen : ∀ {after : State} {debouncer : Debouncer Unit},
      after.shelf = { state.shelf with debouncer } →
      after.cache = state.cache ∧ after.published = state.published :=
    fun same => ⟨congrArg Shelf.cache same, congrArg Shelf.published same⟩
  cases action with
  | event | trigger => exact (outside trivial).elim
  | ask | clock | hold | provide => exact .inl ⟨rfl, rfl⟩
  | cancel task => exact .inl (seen (shelf_cancel state task))
  | tick analyzer =>
    rcases shelf_tick state analyzer with ⟨_, same⟩ | ⟨run, file, generation, reply, takes⟩
    · exact .inl (seen same)
    · exact .inr ⟨analyzer, run, file, generation, reply, rfl, takes⟩
  | alarm file =>
    simp only [act]
    split
    · exact .inl (seen (shelf_trigger (state.cancelRequest file) file))
    · exact .inl ⟨rfl, rfl⟩
  | release file =>
    exact .inl (seen (shelf_foldl { state with held := state.held.filter (· != file) }
      (fun s task => shelf_letGo s file task) _))
  | respond file task => exact .inl (seen (shelf_letGo state file task))
  | inform task answer => exact .inl (seen (shelf_inform state answer task))

/-! ## The shutdown -/

/-- The next piece of work is the first step of a shutdown. -/
structure ShutsDown (state : State) (task : TaskId) : Prop where
  /-- The task takes its step next. -/
  next : state.queue.head? = some (.step task)
  /-- It is a shutdown that has not begun. -/
  shutdown : ∃ t, state.task? task = some t ∧ t.phase = .fresh ∧ t.job = .shutdown

/-- The first step of a shutdown does nothing else. -/
theorem ShutsDown.tick_eq (shuts : state.ShutsDown task) (analyzer : Analyzer) :
    tick analyzer state = beginShutdown { state with queue := state.queue.tail } task := by
  obtain ⟨next, t, known, fresh, shutdown⟩ := shuts
  obtain ⟨rest, queue⟩ := List.head?_eq_some_iff.mp next
  have found : ({ state with queue := rest } : State).task? task = some t := known
  simp only [tick, queue, execute, found, stepTask, fresh, shutdown, begin, List.tail_cons]

/-- Listening to a task leaves what is in flight and the debouncer. -/
theorem listen_frame (state : State) (heard : TaskId) (work : Work) :
    (state.listen heard work).pending = state.pending ∧
      (state.listen heard work).debouncer = state.debouncer := by
  rw [listen]
  split <;> exact ⟨rfl, rfl⟩

/-- Listening to several tasks leaves what is in flight and the debouncer. -/
theorem foldl_listen_frame (state : State) (runs : List TaskId) (work : Work) :
    (runs.foldl (fun s run => s.listen run work) state).pending = state.pending ∧
      (runs.foldl (fun s run => s.listen run work) state).debouncer = state.debouncer :=
  List.foldlRecOn (motive := fun s : State =>
    s.pending = state.pending ∧ s.debouncer = state.debouncer) runs _ ⟨rfl, rfl⟩
    fun s same run _ => ⟨(s.listen_frame run work).1.trans same.1,
      (s.listen_frame run work).2.trans same.2⟩

/-- A shutdown drops the waiting requests and leaves what is in flight. -/
theorem beginShutdown_frame (state : State) (task : TaskId) :
    (state.beginShutdown task).pending = state.pending ∧
      (state.beginShutdown task).debouncer = state.debouncer.cancelAll := by
  rw [beginShutdown]
  split
  · exact ⟨rfl, rfl⟩
  · exact foldl_listen_frame { state with debouncer := state.debouncer.cancelAll } _ _

/-- A task that listens to a run in flight waits for it. -/
theorem awaited_listen (docked : Docked (state.desk [])) (moored : Moored (state.desk []))
    (inFlight : state.pending.get? file = some run) (waiter : TaskId) :
    Awaited ((state.listen run (.drained waiter)).desk []) waiter run file := by
  obtain ⟨t, known, -⟩ := moored.isRun inFlight
  have found : state.task? run = some t := known
  rw [listen, found]
  cases ended : t.result? with
  | some result =>
    have finished : t.result?.isSome := by rw [ended]; rfl
    simp only [Option.bind_some, ended]
    exact .told t state.queue [] known finished rfl
      (.inl (docked.queued inFlight known finished))
  | none =>
    simp only [Option.bind_some, ended]
    have listed : state.tasks[run]? = some t := known
    exact .waiting { t with listeners := t.listeners ++ [.drained waiter] } t.listeners []
      (by simp [desk, listed]) ended rfl (docked.listens inFlight known ended)

/-- A task that listens to several tasks waits for the runs in flight among them. -/
theorem awaited_foldl_listen (docked : Docked (state.desk [])) (moored : Moored (state.desk []))
    (inFlight : state.pending.get? file = some run) {runs : List TaskId} (inside : run ∈ runs)
    (waiter : TaskId) :
    Awaited ((runs.foldl (fun s run => s.listen run (.drained waiter)) state).desk []) waiter run
      file := by
  obtain ⟨before, after, rfl⟩ := List.append_of_mem inside
  rw [List.foldl_append, List.foldl_cons]
  have listening : ∀ (s : State) (runs : List TaskId), Moves (s.desk [])
      ((runs.foldl (fun s run => s.listen run (.drained waiter)) s).desk []) := fun s runs =>
    moves_foldl s [] (fun s run => moves_listen s [] run (.drained waiter) trivial) runs
  -- the tasks before the run leave it in flight and docked
  have kept := Turns.keep (fun desk => Moored desk ∧ Docked desk)
    (fun kept turned => ⟨kept.1.turn turned, kept.2.turn kept.1 turned⟩)
    (listening state before).turns ⟨moored, docked⟩
  have still := (foldl_listen_frame state before (.drained waiter)).1
  have heard := awaited_listen kept.2 kept.1 (by rw [still]; exact inFlight) waiter
  exact heard.moves (listening _ after)

/-- A shutdown that takes its first step waits for the runs in flight. -/
theorem awaited_beginShutdown (docked : Docked (state.desk [])) (moored : Moored (state.desk []))
    (inFlight : state.pending.get? file = some run) {t : Task} (known : state.task? task = some t)
    (fresh : t.phase = .fresh) (shutdown : t.job = .shutdown) :
    Awaited ((state.beginShutdown task).desk []) task run file := by
  have inside : run ∈ state.pending.map Prod.snd :=
    List.mem_map.mpr ⟨(file, run), Ledger.mem_of_get? inFlight, rfl⟩
  have busy : ¬(state.pending.map Prod.snd).isEmpty := by
    rw [List.isEmpty_iff]
    exact List.ne_nil_of_mem inside
  rw [beginShutdown]
  simp only
  rw [if_neg busy]
  generalize state.debouncer.cancelAll = debouncer
  have docked' : Docked (({ state with debouncer } : State).desk []) := docked
  have listening := awaited_foldl_listen docked' moored inFlight inside task
  obtain ⟨u, found, job, phase⟩ :=
    task?_foldl_listen { state with debouncer } known (.drained task) (state.pending.map Prod.snd)
  exact listening.move (.await _ task u _ _ found (phase.trans fresh) (job.trans shutdown))

/-- A shutdown waits for the runs in flight. -/
theorem ShutsDown.awaited (shuts : state.ShutsDown task) (docked : Docked (state.desk []))
    (moored : Moored (state.desk [])) (inFlight : state.pending.get? file = some run)
    (analyzer : Analyzer) : Awaited ((tick analyzer state).desk []) task run file := by
  rw [shuts.tick_eq analyzer]
  obtain ⟨next, t, known, fresh, shutdown⟩ := shuts
  obtain ⟨rest, queue⟩ := List.head?_eq_some_iff.mp next
  have docked' : Docked (({ state with queue := state.queue.tail } : State).desk []) := by
    refine ⟨docked.listens, fun inFlight known ended => ?_⟩
    have queued := docked.queued inFlight known ended
    simpa [desk, queue] using queued
  have moored' : Moored (({ state with queue := state.queue.tail } : State).desk []) :=
    moored.shed rfl (fun _ _ => id) fun _ _ inside => List.mem_of_mem_tail inside
  exact awaited_beginShutdown docked' moored' inFlight known fresh shutdown

/-- A shutdown leaves what is in flight. -/
theorem ShutsDown.pending_eq (shuts : state.ShutsDown task) (analyzer : Analyzer) :
    (tick analyzer state).pending = state.pending := by
  rw [shuts.tick_eq analyzer]
  exact (beginShutdown_frame _ task).1

/-- A shutdown drops the waiting requests. -/
theorem ShutsDown.debouncer_eq (shuts : state.ShutsDown task) (analyzer : Analyzer) :
    (tick analyzer state).debouncer = state.debouncer.cancelAll := by
  rw [shuts.tick_eq analyzer]
  exact (beginShutdown_frame _ task).2

/-- A request that waits when a shutdown takes its first step does not fire after it. -/
theorem ShutsDown.not_fires (shuts : state.ShutsDown task) (numbered : state.shelf.Numbered 0)
    (analyzer : Analyzer) {alarm : Alarm Unit}
    (waits : state.debouncer.alarms.get? file = some alarm) (actions : List Action)
    (action : Action) :
    ¬((tick analyzer state).play actions).Fires alarm.serial action := by
  intro fires
  have dropped := shuts.debouncer_eq analyzer
  -- all requests that wait later have numbers that were not given out before the shutdown
  have later : ((tick analyzer state).play actions).shelf.Numbered state.debouncer.nextSerial := by
    refine keep_play _ (fun shelf => shelf.Numbered state.debouncer.nextSerial)
      (fun kept changed => kept.change changed) ⟨?_, fun {_ _} inside => ?_⟩ actions
    · exact Nat.le_of_eq (congrArg Debouncer.nextSerial dropped).symm
    · have none : (tick analyzer state).debouncer.alarms = [] := congrArg Debouncer.alarms dropped
      simp [shelf, none] at inside
  obtain ⟨fired, armed, inside, number⟩ := fires.mem
  have new := (later.waiting inside).1
  have old : alarm.serial < state.debouncer.nextSerial :=
    (numbered.waiting (Ledger.mem_of_get? waits)).2
  omega

/-- When a shutdown has returned, every run that was in flight has ended and is settled. -/
theorem ShutsDown.settled (shuts : state.ShutsDown task) (docked : Docked (state.desk []))
    (moored : Moored (state.desk [])) (analyzer : Analyzer) {actions : List Action}
    (solvent : ((tick analyzer state).play actions).Solvent)
    (returned : ((tick analyzer state).play actions).HasEnded task .shutdown)
    (inFlight : state.pending.get? file = some run) :
    (∃ generation, ((tick analyzer state).play actions).HasEnded run (.run file generation)) ∧
      ∀ other, ((tick analyzer state).play actions).pending.get? other ≠ some run := by
  have awaited := awaited_play (shuts.awaited docked moored inFlight analyzer) actions
  have moored' : Moored (((tick analyzer state).play actions).desk []) :=
    List.foldlRecOn (motive := fun s : State => Moored (s.desk [])) actions act
      (moored_act moored (.tick analyzer)) fun s kept action _ => moored_act kept action
  obtain ⟨t, known, generation, ofJob⟩ := moored.isRun inFlight
  obtain ⟨u, found, job⟩ := job_play known (.tick analyzer :: actions)
  rw [play_cons] at found
  simp only [act] at found
  generalize (tick analyzer state).play actions = after at *
  have silent : after.signals task = 0 := by
    obtain ⟨v, listed, -, ended⟩ := returned
    obtain ⟨result, ended⟩ := Option.isSome_iff_exists.mp ended
    have bound := solvent task
    rw [left_eq listed, Task.phase_of_result? ended] at bound
    exact Nat.le_zero.mp bound
  obtain ⟨⟨v, listed, ended⟩, gone⟩ := settled_of_awaited awaited silent
  obtain rfl : u = v := Option.some.inj (found.symm.trans listed)
  refine ⟨⟨generation, u, found, job.trans ofJob, ended⟩, fun other still => ?_⟩
  -- a run is in flight for its own file only
  obtain ⟨v, listed, generation', ofJob'⟩ := moored'.isRun still
  obtain rfl : u = v := Option.some.inj (found.symm.trans listed)
  cases (job.trans ofJob).symm.trans ofJob'
  exact gone still

/-- When a shutdown has returned and nobody has called the pipeline since, no run is in flight. -/
theorem ShutsDown.idle (shuts : state.ShutsDown task) (docked : Docked (state.desk []))
    (moored : Moored (state.desk [])) (analyzer : Analyzer) {actions : List Action}
    (solvent : ((tick analyzer state).play actions).Solvent)
    (returned : ((tick analyzer state).play actions).HasEnded task .shutdown)
    (undisturbed : (tick analyzer state).Undisturbed actions) :
    ((tick analyzer state).play actions).pending = [] := by
  have quiet : (tick analyzer state).debouncer.alarms = [] :=
    congrArg Debouncer.alarms (shuts.debouncer_eq analyzer)
  refine Ledger.eq_nil_of_get? fun file => ?_
  rw [Option.eq_none_iff_forall_ne_some]
  intro run inFlight
  have before := pending_play (moored_act moored (.tick analyzer)) quiet undisturbed inFlight
  rw [act, shuts.pending_eq analyzer] at before
  exact (shuts.settled docked moored analyzer solvent returned before).2 file inFlight

/-- No run is in flight, and what readers see stays as it is until the pipeline is called, but for
the replies to runs that were started by hand. -/
structure AtRest (state : State) (byHand : TaskId → Prop) : Prop where
  /-- No run is in flight. -/
  idle : state.pending = []
  /-- What is done leaves what readers see. -/
  still (action : Action) : ¬state.Enters action →
    ((state.act action).cache = state.cache ∧ (state.act action).published = state.published) ∨
      ∃ analyzer run file generation reply, action = .tick analyzer ∧ byHand run ∧
        state.Takes analyzer run file generation reply

/-- Where no run is in flight, only runs that were started by hand take replies in. -/
theorem atRest_of_idle {byHand : TaskId → Prop} (idle : state.pending = [])
    (tracked : Tracked byHand (state.desk [])) : state.AtRest byHand := by
  refine ⟨idle, fun action outside => ?_⟩
  rcases seen_act state outside with seen | ⟨analyzer, run, file, generation, reply, acts, takes⟩
  · exact .inl seen
  · obtain ⟨t, known, job, unfinished⟩ := takes.unfinished
    have none : (state.desk []).pending.get? file = none := by simp [desk, idle]
    refine .inr ⟨analyzer, run, file, generation, reply, acts, ?_, takes⟩
    refine (tracked run t file generation known job unfinished).resolve_left fun inFlight => ?_
    cases none.symm.trans inFlight

/-- After the first step of a shutdown no request fires that waited before. When the shutdown has
returned, all runs that were in flight before have ended and are in flight for no file. If nobody
has called the pipeline since, it is at rest. -/
theorem shutdown_drains (provider : SettingsProvider) (delay : Nat) (actions : List Action)
    (before : State) (analyzer : Analyzer) (rest : List Action) (task : TaskId)
    (occurs : Occurs (initial provider delay) actions before (.tick analyzer) rest)
    (shuts : before.ShutsDown task) :
    (∀ file alarm mid action later, before.debouncer.alarms.get? file = some alarm →
      Occurs (tick analyzer before) rest mid action later → ¬mid.Fires alarm.serial action) ∧
    (((initial provider delay).play actions).HasEnded task .shutdown →
      (∀ file run, before.pending.get? file = some run →
        (∃ generation,
          ((initial provider delay).play actions).HasEnded run (.run file generation)) ∧
        ∀ other, ((initial provider delay).play actions).pending.get? other ≠ some run) ∧
      ((tick analyzer before).Undisturbed rest →
        ((initial provider delay).play actions).AtRest
          (ByHand (initial provider delay) actions))) := by
  obtain ⟨past, rfl, rfl⟩ := occurs
  have docked := docked_play provider delay past
  have moored := moored_play provider delay past
  have solvent := solvent_play provider delay (past ++ .tick analyzer :: rest)
  have tracked := tracked_play provider delay (past ++ .tick analyzer :: rest)
  have numbered := numbered_requests_play provider delay past
  rw [play_append, play_cons] at solvent tracked ⊢
  simp only [act] at solvent tracked ⊢
  refine ⟨?_, fun returned => ⟨?_, fun undisturbed => atRest_of_idle ?_ tracked⟩⟩
  · rintro file alarm mid action later waits ⟨earlier, rfl, rfl⟩
    exact shuts.not_fires numbered analyzer waits earlier action
  · exact fun file run inFlight => shuts.settled docked moored analyzer solvent returned inFlight
  · exact shuts.idle docked moored analyzer solvent returned undisturbed

/-- A document has changed while its first run waits for the analyzer, and a shutdown is asked
for. -/
def leaving : List Action :=
  waiting ++ [.event (.changed "a.pl" "q." none), .ask .shutdown]

/-- The analyzer answers, the run ends and is settled, and the shutdown hears of it and returns. -/
def homing : List Action := answering ++ [.tick blank, .tick blank]

/-- A shutdown that is called with a run in flight and a request waiting drops the request and
returns when the run is settled. -/
theorem shutdown_drains_leaving :
    ((initial (.fixed {}) 500).play leaving).debouncer.alarms.get? "a.pl" =
        some ⟨0, 500, ()⟩ ∧
      ((initial (.fixed {}) 500).play leaving).pending.get? "a.pl" = some 0 ∧
      (∀ mid action later,
        Occurs (tick blank ((initial (.fixed {}) 500).play leaving)) homing mid action later →
        ¬mid.Fires 0 action) ∧
      (∃ generation, ((initial (.fixed {}) 500).play
        (leaving ++ .tick blank :: homing)).HasEnded 0 (.run "a.pl" generation)) ∧
      ((initial (.fixed {}) 500).play (leaving ++ .tick blank :: homing)).AtRest
        (ByHand (initial (.fixed {}) 500) (leaving ++ .tick blank :: homing)) := by
  have waits : ((initial (.fixed {}) 500).play leaving).debouncer.alarms.get? "a.pl" =
    some ⟨0, 500, ()⟩ := rfl
  have inFlight : ((initial (.fixed {}) 500).play leaving).pending.get? "a.pl" = some 0 := rfl
  have undisturbed : (tick blank ((initial (.fixed {}) 500).play leaving)).Undisturbed
      homing := by
    refine ⟨id, ?_, ?_, ?_, ?_, trivial⟩ <;> rintro ⟨task, t, next, known, fresh, -⟩ <;>
      cases next <;> cases known <;> cases fresh
  obtain ⟨silent, drained⟩ := shutdown_drains (.fixed {}) 500 (leaving ++ .tick blank :: homing)
    _ blank homing 1 ⟨leaving, rfl, rfl⟩ ⟨rfl, _, rfl, rfl, rfl⟩
  obtain ⟨settled, rests⟩ := drained ⟨_, rfl, rfl, rfl⟩
  exact ⟨waits, inFlight, fun mid action later occurs => silent _ _ mid action later waits occurs,
    (settled _ _ inFlight).1, rests undisturbed⟩

/-- A document has been analyzed, a run of it that was started by hand waits for the analyzer, and a
shutdown is asked for. -/
def abandoning : List Action :=
  [.event (.opened "a.pl" "p." 0), .tick blank, .tick blank, .hold "a.pl", .ask (.run "a.pl" none),
    .tick blank, .ask .shutdown]

/-- What readers see may change after a shutdown has returned though nobody calls the pipeline: a
run that was started by hand is not waited for. -/
theorem not_forall_shutdown_drains :
    ¬∀ (provider : SettingsProvider) (delay : Nat) (actions : List Action) (before : State)
      (analyzer : Analyzer) (rest : List Action) (task : TaskId),
      Occurs (initial provider delay) actions before (.tick analyzer) rest →
      before.ShutsDown task →
      ((initial provider delay).play actions).HasEnded task .shutdown →
      (tick analyzer before).Undisturbed rest →
      ∀ action, ¬((initial provider delay).play actions).Enters action →
        (((initial provider delay).play actions).act action).cache =
            ((initial provider delay).play actions).cache ∧
          (((initial provider delay).play actions).act action).published =
            ((initial provider delay).play actions).published := by
  intro drains
  have outside : ¬((initial (.fixed {}) 500).play
      (abandoning ++ [.tick blank, .release "a.pl"])).Enters (.tick collapsing) := by
    rintro ⟨task, t, next, known, fresh, -⟩
    cases next
    cases known
    cases fresh
  have kept : (((initial (.fixed {}) 500).play
      (abandoning ++ [.tick blank, .release "a.pl"])).cache.get? "a.pl").isSome = true := rfl
  have lost : ((((initial (.fixed {}) 500).play
      (abandoning ++ [.tick blank, .release "a.pl"])).act (.tick collapsing)).cache.get?
        "a.pl").isSome = false := rfl
  have shuts : ((initial (.fixed {}) 500).play abandoning).ShutsDown 2 :=
    ⟨rfl, _, rfl, rfl, rfl⟩
  have returned : ((initial (.fixed {}) 500).play
      (abandoning ++ [.tick blank, .release "a.pl"])).HasEnded 2 .shutdown := ⟨_, rfl, rfl, rfl⟩
  have undisturbed : (tick blank ((initial (.fixed {}) 500).play abandoning)).Undisturbed
    [.release "a.pl"] := ⟨id, trivial⟩
  have still := (drains _ _ _ _ _ _ _ ⟨abandoning, rfl, rfl⟩ shuts returned undisturbed
    (.tick collapsing) outside).1
  rw [still, kept] at lost
  cases lost

end State

end PredicateIndex.Pipeline
