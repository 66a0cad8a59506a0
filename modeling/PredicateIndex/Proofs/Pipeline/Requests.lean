import PredicateIndex.Proofs.Pipeline.Advance
import PredicateIndex.Proofs.Pipeline.Shelf
import PredicateIndex.Proofs.Pipeline.Staleness
import PredicateIndex.Proofs.Pipeline.Standing

/-!
# Requests for another analysis

Saving a document and changing the settings ask for another analysis at once. If no run of the file
is in flight, one is started; if the run in flight has not begun, the request is dropped in its
favour. Either way a run that has not begun is in flight afterwards, and it stays in flight until it
takes its first step, which reads the text and the settings as they are then. A request that comes
while the run in flight has begun is dropped for good. Runs may also be started by hand, and tasks
may be cancelled as long as the run in flight is spared.
-/
namespace PredicateIndex.Pipeline

/-- Whether an event asks for another analysis of a file. -/
def Event.Requests (file : String) : Event → Prop
  | .saved name _ => name = file
  | .configured _ | .reanalyzed => True
  | _ => False

/-- What is in flight for a file is a run of it, and only runs that have ended are settled. -/
structure Moored (desk : Desk) : Prop where
  /-- What is in flight for a file is a run of it. -/
  isRun {file : String} {run : TaskId} : desk.pending.get? file = some run →
    ∃ t, desk.tasks[run]? = some t ∧ t.IsRunOf file
  /-- Only a run itself has itself settled. -/
  own {file : String} {run k : TaskId} {t : Task} : desk.tasks[k]? = some t →
    .settle file run ∈ t.listeners → run = k
  /-- What is about to be settled has ended. -/
  ended {file : String} {run : TaskId} : .settle file run ∈ desk.queue →
    ∃ t, desk.tasks[run]? = some t ∧ t.result?.isSome

namespace Moored

variable {desk desk' : Desk}

/-- Tasks may change and new ones may come, as long as the old ones keep their jobs and results, no
run comes into flight, and nothing more is to be settled. -/
theorem touch (moored : Moored desk)
    (pending : ∀ file run, desk'.pending.get? file = some run → desk.pending.get? file = some run)
    (queue : ∀ file run, .settle file run ∈ desk'.queue → .settle file run ∈ desk.queue)
    (kept : ∀ (k : TaskId) (t : Task), desk.tasks[k]? = some t → ∃ u : Task,
      desk'.tasks[k]? = some u ∧ u.job = t.job ∧ (t.result?.isSome → u.result?.isSome))
    (listed : ∀ (k : TaskId) (u : Task) (file : String) (run : TaskId),
      desk'.tasks[k]? = some u → .settle file run ∈ u.listeners →
      ∃ t : Task, desk.tasks[k]? = some t ∧ .settle file run ∈ t.listeners) : Moored desk' := by
  constructor
  · intro file run inFlight
    obtain ⟨t, known, generation, job⟩ := moored.isRun (pending file run inFlight)
    obtain ⟨u, found, same, -⟩ := kept run t known
    exact ⟨u, found, generation, same.trans job⟩
  · intro file run k u found inside
    obtain ⟨t, known, inside⟩ := listed k u file run found inside
    exact moored.own known inside
  · intro file run queued
    obtain ⟨t, known, ended⟩ := moored.ended (queue file run queued)
    obtain ⟨u, found, -, still⟩ := kept run t known
    exact ⟨u, found, still ended⟩

/-- Runs may leave flight and work may be taken off the queue or signalled. -/
theorem shed (moored : Moored desk) (tasks : desk'.tasks = desk.tasks)
    (pending : ∀ file run, desk'.pending.get? file = some run → desk.pending.get? file = some run)
    (queue : ∀ file run, .settle file run ∈ desk'.queue → .settle file run ∈ desk.queue) :
    Moored desk' :=
  moored.touch pending queue (fun _ t known => ⟨t, tasks ▸ known, rfl, id⟩)
    fun _ u _ _ found inside => ⟨u, tasks ▸ found, inside⟩

/-- A task that is moved to a phase has the listeners that it had. -/
theorem listed_setPhase {task k : TaskId} {phase : Phase} {u : Task} {work : Work}
    (found : (desk.setPhase task phase).tasks[k]? = some u) (inside : work ∈ u.listeners) :
    ∃ t : Task, desk.tasks[k]? = some t ∧ work ∈ t.listeners := by
  rw [Desk.tasks_setPhase, Option.map_eq_some_iff] at found
  obtain ⟨t, known, rfl⟩ := found
  exact ⟨t, known, inside⟩

/-- What a task listens for was listened for or has been added. -/
theorem listed_addListener {task k : TaskId} {u : Task} {work added : Work} (other : added ≠ work)
    (found : (desk.addListener task added).tasks[k]? = some u) (inside : work ∈ u.listeners) :
    ∃ t : Task, desk.tasks[k]? = some t ∧ work ∈ t.listeners := by
  rw [Desk.tasks_addListener, Option.map_eq_some_iff] at found
  obtain ⟨t, known, rfl⟩ := found
  refine ⟨t, known, ?_⟩
  dsimp only at inside
  split at inside
  · simpa [Ne.symm other] using inside
  · exact inside

/-- A turn keeps the jobs of tasks and that they have ended. -/
theorem kept_turn (turned : Turn desk desk') (k : TaskId) (t : Task)
    (known : desk.tasks[k]? = some t) : ∃ u : Task, desk'.tasks[k]? = some u ∧ u.job = t.job ∧
      (t.result?.isSome → u.result?.isSome) := by
  obtain ⟨u, advance⟩ := turned.advance known
  refine ⟨u, advance.known, advance.job, fun ended => ?_⟩
  rw [Option.isSome_iff_ne_none] at ended ⊢
  exact fun unfinished => ended (advance.unfinished unfinished)

/-- A run that is started is in flight, and is settled by itself. -/
theorem start (moored : Moored desk) (file : String) : Moored (desk.start file) := by
  have pending : ∀ other, (desk.start file).pending.get? other =
      if file = other then some desk.tasks.length else desk.pending.get? other :=
    fun other => Ledger.get?_put _ _ _ _
  have kept : ∀ {k : TaskId} {t : Task}, desk.tasks[k]? = some t →
      (desk.start file).tasks[k]? = some t :=
    fun found => desk.tasks_spawn_of_known _ _ found
  constructor
  · intro other run inFlight
    rw [pending] at inFlight
    split at inFlight
    · rename_i same
      cases inFlight
      exact ⟨{ job := .run file (some desk.next), listeners := [.settle file desk.tasks.length] },
        by simp [Desk.start, Desk.spawn], some desk.next, by rw [same]⟩
    · obtain ⟨t, known, isRun⟩ := moored.isRun inFlight
      exact ⟨t, kept known, isRun⟩
  · intro other run k t found inside
    rcases desk.of_tasks_spawn found with known | ⟨rfl, rfl⟩
    · exact moored.own known inside
    · simp only [List.mem_singleton, Work.settle.injEq] at inside
      exact inside.2
  · intro other run queued
    have queued : .settle other run ∈ desk.queue := by
      simpa [Desk.start, Desk.spawn] using queued
    obtain ⟨t, known, ended⟩ := moored.ended queued
    exact ⟨t, kept known, ended⟩

/-- A task that ends has itself settled. -/
theorem finish (moored : Moored desk) {task : TaskId} {t : Task} {result : Result}
    (known : desk.tasks[task]? = some t)
    (kept : ∀ (k : TaskId) (t : Task), desk.tasks[k]? = some t → ∃ u : Task,
      (desk.finish task result).tasks[k]? = some u ∧ u.job = t.job ∧
        (t.result?.isSome → u.result?.isSome)) : Moored (desk.finish task result) := by
  constructor
  · intro file run inFlight
    obtain ⟨t, known, generation, job⟩ := moored.isRun inFlight
    obtain ⟨u, found, same, -⟩ := kept run t known
    exact ⟨u, found, generation, same.trans job⟩
  · intro file run k u found inside
    obtain ⟨t, known, inside⟩ := listed_setPhase found inside
    exact moored.own known inside
  · intro file run queued
    have queue : (desk.finish task result).queue = desk.queue ++ t.listeners := by
      simp [Desk.finish, known]
    rw [queue, List.mem_append] at queued
    rcases queued with queued | inside
    · obtain ⟨v, found, ended⟩ := moored.ended queued
      obtain ⟨u, found, -, still⟩ := kept run v found
      exact ⟨u, found, still ended⟩
    · obtain rfl := moored.own known inside
      exact ⟨{ t with phase := .ended result },
        by simp [Desk.finish, Desk.tasks_setPhase, known], rfl⟩

/-- A turn keeps what is in flight moored. -/
theorem turn (moored : Moored desk) (turned : Turn desk desk') : Moored desk' := by
  have kept := kept_turn turned
  have same : desk'.pending = desk.pending → ∀ file run, desk'.pending.get? file = some run →
      desk.pending.get? file = some run := fun same file run inFlight => same ▸ inFlight
  cases turned with
  | ask job other =>
    refine moored.touch (same rfl) (by simp [Desk.spawn]) kept fun k u file run found inside => ?_
    rcases desk.of_tasks_spawn found with known | ⟨rfl, rfl⟩
    · exact ⟨u, known, inside⟩
    · cases inside
  | drop work rest first spent =>
    refine moored.shed rfl (same rfl) fun file run queued => ?_
    rw [first]
    exact List.mem_cons_of_mem _ queued
  | move moved =>
    cases moved with
    | start file idle => exact moored.start file
    | finish task t result known ready => exact moored.finish known kept
    | settle file run queued pending =>
      refine moored.shed rfl (fun other run inFlight => ?_) fun _ _ => id
      rw [Ledger.get?_remove] at inFlight
      split at inFlight
      · cases inFlight
      · exact inFlight
    | record | forget | write | discard =>
      exact moored.shed rfl (same rfl) fun _ _ => id
    | signal work harmless =>
      refine moored.shed rfl (same rfl) fun file run queued => ?_
      have other := Flight.ne_settle_of_isSignal harmless file run
      simpa [Desk.enqueue, Ne.symm other] using queued
    | listen task work harmless =>
      exact moored.touch (same rfl) (fun _ _ => id) kept fun k u file run found inside =>
        listed_addListener (Flight.ne_settle_of_isSignal harmless file run) found inside
    | join waiter run t file known fresh lookup unfinished =>
      refine moored.touch (same rfl) (fun _ _ => id) kept fun k u file run found inside => ?_
      obtain ⟨v, found, inside⟩ := listed_setPhase found inside
      exact listed_addListener (by simp) found inside
    | call | await | drain =>
      exact moored.touch (same rfl) (fun _ _ => id) kept
        fun k u file run found inside => listed_setPhase found inside
    | respond | drained | relay =>
      exact moored.touch (same rfl) (by simp [Desk.enqueue, Desk.setPhase]) kept
        fun k u file run found inside => listed_setPhase found inside

/-- A task that has not ended may be moved to any phase. -/
theorem setPhase (moored : Moored desk) {task : TaskId} {t : Task} {phase : Phase}
    (known : desk.tasks[task]? = some t) (unfinished : t.result? = none) :
    Moored (desk.setPhase task phase) := by
  refine moored.touch (fun _ _ => id) (fun _ _ => id) (fun k u found => ?_)
    fun k u file run found inside => listed_setPhase found inside
  refine ⟨{ u with phase := if task = k then phase else u.phase },
    by rw [Desk.tasks_setPhase, found]; rfl, rfl, fun ended => ?_⟩
  by_cases same : task = k
  · subst same
    obtain rfl : t = u := Option.some.inj (known.symm.trans found)
    simp [unfinished] at ended
  · simpa [Task.result?, same] using ended

/-- A step may be queued. -/
theorem enqueue_step (moored : Moored desk) (task : TaskId) :
    Moored (desk.enqueue (.step task)) :=
  moored.shed rfl (fun _ _ => id) (by simp [Desk.enqueue])

/-- A task of any kind may be created. -/
theorem ask (moored : Moored desk) (job : Job) : Moored (desk.spawn job []) := by
  refine moored.touch (fun _ _ => id) (by simp [Desk.spawn])
    (fun _ t known => ⟨t, desk.tasks_spawn_of_known _ _ known, rfl, id⟩)
    fun k u file run found inside => ?_
  rcases desk.of_tasks_spawn found with known | ⟨rfl, rfl⟩
  · exact ⟨u, known, inside⟩
  · cases inside

/-- What is in flight stays so until it has ended. -/
theorem inFlight_turn (moored : Moored desk) (turned : Turn desk desk') {file : String}
    {run : TaskId} (inFlight : desk.pending.get? file = some run) :
    desk'.pending.get? file = some run ∨
      ∃ t : Task, desk'.tasks[run]? = some t ∧ t.result?.isSome := by
  cases turned with
  | ask | drop => exact .inl inFlight
  | move moved =>
    cases moved with
    | start started idle =>
      have other : started ≠ file := by
        rintro rfl
        cases idle.symm.trans inFlight
      exact .inl ((Ledger.get?_put_ne _ other _).trans inFlight)
    | settle settled ended queued pending =>
      by_cases same : settled = file
      · subst same
        obtain rfl : ended = run := Option.some.inj (pending.symm.trans inFlight)
        exact .inr (moored.ended queued)
      · exact .inl ((Ledger.get?_remove_ne _ same).trans inFlight)
    | _ => exact .inl inFlight

/-- What is in flight stays so until it has ended, over several turns. -/
theorem inFlight_turns (moored : Moored desk) (turns : Turns desk desk') {file : String}
    {run : TaskId} (inFlight : desk.pending.get? file = some run) :
    desk'.pending.get? file = some run ∨
      ∃ t : Task, desk'.tasks[run]? = some t ∧ t.result?.isSome := by
  have kept := Turns.keep (fun d => Moored d ∧ (d.pending.get? file = some run ∨
    ∃ t : Task, d.tasks[run]? = some t ∧ t.result?.isSome)) ?_ turns ⟨moored, .inl inFlight⟩
  · exact kept.2
  · rintro d d' ⟨moored, still | ⟨t, known, ended⟩⟩ turned
    · exact ⟨moored.turn turned, moored.inFlight_turn turned still⟩
    · obtain ⟨u, found, -, kept⟩ := kept_turn turned run t known
      exact ⟨moored.turn turned, .inr ⟨u, found, kept ended⟩⟩

end Moored

namespace State

variable {state : State} {file : String} {run : TaskId}

/-- Every action keeps what is in flight moored. -/
theorem moored_act (moored : Moored (state.desk [])) (action : Action) :
    Moored ((state.act action).desk []) :=
  keep_act state Moored (fun moored turned => moored.turn turned) (fun job moored => moored.ask job)
    (fun moored known unfinished _ => moored.setPhase known unfinished)
    (fun id moored => moored.enqueue_step id) moored action

/-- Every interleaving keeps what is in flight moored. -/
theorem moored_play (provider : SettingsProvider) (delay : Nat) (actions : List Action) :
    Moored (((initial provider delay).play actions).desk []) := by
  have start : Moored ((initial provider delay).desk []) := by
    constructor <;> simp [initial, desk]
  exact List.foldlRecOn (motive := fun s : State => Moored (s.desk [])) actions act start
    fun s moored action _ => moored_act moored action

/-- A cancellation leaves what is in flight. -/
theorem pending_cancel (state : State) (task : TaskId) :
    (state.cancel task).2.pending = state.pending := by
  have step : ∀ (s : State) (id : TaskId), (s.cancelStep id).pending = s.pending := by
    intro s id
    rw [cancelStep]
    split <;> rfl
  rw [cancel]
  split
  · rfl
  · rfl
  · exact List.foldlRecOn (motive := fun s : State => s.pending = state.pending) _ cancelStep rfl
      fun s same run _ => (step s run).trans same
  · exact step state task

/-- What is in flight stays so until it has ended, whatever is done. -/
theorem inFlight_act (moored : Moored (state.desk [])) (action : Action)
    (inFlight : state.pending.get? file = some run) :
    (state.act action).pending.get? file = some run ∨
      ∃ t, (state.act action).task? run = some t ∧ t.result?.isSome := by
  by_cases scheduled : action.Scheduled
  · exact moored.inFlight_turns (turns_act state scheduled) inFlight
  · cases action with
    | ask job => exact .inl inFlight
    | cancel task =>
      left
      rw [act, pending_cancel]
      exact inFlight
    | _ => exact (scheduled trivial).elim

/-- A cancellation reaches the run in flight of a file: it cancels the run itself or a shutdown that
waits for it. -/
def Stops (state : State) (file : String) : Action → Prop
  | .cancel task => ∃ run, state.pending.get? file = some run ∧ (task = run ∨
      ∃ t runs left cancelled, state.task? task = some t ∧
        t.phase = .draining runs left cancelled ∧ run ∈ runs)
  | _ => False

/-- A run of a file is in flight that has not begun. -/
structure Queued (state : State) (file : String) (run : TaskId) : Prop where
  /-- The run is in flight. -/
  inFlight : state.pending.get? file = some run
  /-- It is a run of the file and has not begun. -/
  fresh : ∃ generation, state.Stands run (.run file generation) (· = .fresh)

/-- The document of a file is open, and no run of it that is in flight has begun. -/
structure Ready (state : State) (file : String) : Prop where
  /-- The document is open. -/
  opened : state.isOpen file
  /-- The run in flight has not begun. -/
  fresh : ∀ run, state.pending.get? file = some run → state.Queued file run

/-- Cancelling a task that is no shutdown with this one in its care leaves how it stands. -/
theorem Stands.cancel_of_spared {task other : TaskId} {job : Job} {kept : Phase → Prop}
    (stands : state.Stands task job kept) (apart : other ≠ task)
    (free : ∀ t runs left cancelled, state.task? other = some t →
      t.phase = .draining runs left cancelled → task ∉ runs) :
    (state.cancel other).2.Stands task job kept := by
  rw [State.cancel]
  split
  · exact stands
  · exact stands
  · rename_i runs left cancelled waiting
    obtain ⟨t, known, at_⟩ := Option.map_eq_some_iff.mp waiting
    have absent := free t runs left cancelled known at_
    refine List.foldlRecOn (motive := fun s : State => s.Stands task job kept) runs State.cancelStep
      (stands.setPhase fun same => (apart same).elim) fun s stands run inside => ?_
    exact stands.cancelStep fun same => (absent (same ▸ inside)).elim
  · exact stands.cancelStep fun same => (apart same).elim

/-- A task that has not begun is steady. -/
theorem steady_fresh : Phase.Steady (· = .fresh) := by
  constructor <;> nofun

/-- A run that has not begun stays in flight until it takes its first step or is stopped. -/
theorem Queued.act (queued : state.Queued file run) (moored : Moored (state.desk []))
    {action : Action}
    (other : ∀ analyzer, action = .tick analyzer → state.queue.head? ≠ some (.step run))
    (spared : ¬state.Stops file action) : (state.act action).Queued file run := by
  obtain ⟨inFlight, generation, stands⟩ := queued
  have still : (state.act action).Stands run (.run file generation) (· = .fresh) := by
    by_cases cancels : ∃ task, action = .cancel task
    · obtain ⟨task, rfl⟩ := cancels
      refine stands.cancel_of_spared ?_ fun t runs left cancelled known at_ inside => ?_
      · rintro rfl
        exact spared ⟨_, inFlight, .inl rfl⟩
      · exact spared ⟨_, inFlight, .inr ⟨t, runs, left, cancelled, known, at_, inside⟩⟩
    · exact stands.act steady_fresh other fun task same => cancels ⟨task, same⟩
  refine ⟨?_, generation, still⟩
  rcases inFlight_act moored action inFlight with pending | ⟨t, known, ended⟩
  · exact pending
  · obtain ⟨u, found, -, fresh⟩ := still
    obtain rfl : t = u := Option.some.inj (known.symm.trans found)
    rw [Task.result?_eq, fresh] at ended
    cases ended

/-- A run that has not begun and takes its step reads the open document. -/
theorem Queued.reads (queued : state.Queued file run) (opened : state.isOpen file)
    (next : state.queue.head? = some (.step run)) : ∃ text, state.Reads file run text := by
  obtain ⟨-, generation, t, known, job, fresh⟩ := queued
  obtain ⟨document, found⟩ := Option.isSome_iff_exists.mp opened
  exact ⟨_, next, ⟨t, known, fresh, generation, job⟩, document, found, rfl⟩

/-- A run that is started has not begun. -/
theorem queued_start (state : State) (file : String) :
    (state.start file).2.Queued file state.tasks.length := by
  have created : (state.start file).2.task? state.tasks.length = some
      { job := .run file (some state.nextGeneration)
        listeners := [.settle file state.tasks.length] } := List.getElem?_concat_length
  exact ⟨Ledger.get?_put_self _ _ _, some state.nextGeneration, _, created, rfl, rfl⟩

/-- Whether a document is ready depends on the documents, the runs in flight and the tasks. -/
theorem Ready.of_same {other : State} (ready : state.Ready file) (opened : other.isOpen file)
    (pending : other.pending = state.pending) (tasks : other.tasks = state.tasks) :
    other.Ready file := by
  refine ⟨opened, fun run inFlight => ⟨inFlight, ?_⟩⟩
  obtain ⟨generation, t, known, rest⟩ := (ready.fresh run (pending ▸ inFlight)).fresh
  exact ⟨generation, t, (congrArg (·[run]?) tasks).trans known, rest⟩

/-- Starting a run leaves a document ready. -/
theorem Ready.start (ready : state.Ready file) {started : String} :
    (state.start started).2.Ready file := by
  refine ⟨ready.opened, fun run inFlight => ?_⟩
  have pending : (state.start started).2.pending.get? file =
    if started = file then some state.tasks.length else state.pending.get? file :=
    Ledger.get?_put _ _ _ _
  rw [pending] at inFlight
  split at inFlight
  · rename_i same
    cases inFlight
    exact same ▸ queued_start state started
  · rename_i other
    obtain ⟨generation, stands⟩ := (ready.fresh run inFlight).fresh
    exact ⟨pending.trans ((if_neg other).trans inFlight), generation, stands.start started⟩

/-- A trigger leaves a document ready, and that of its own file with a run in flight. -/
theorem Ready.trigger (ready : state.Ready file) (triggered : String) :
    (state.trigger triggered).2.Ready file ∧
      (triggered = file ∨ state.pending.has file →
        (state.trigger triggered).2.pending.has file) := by
  rw [State.trigger]
  split
  · rename_i busy
    refine ⟨ready.of_same ready.opened rfl rfl, ?_⟩
    rintro (rfl | pending)
    · exact busy
    · exact pending
  · split
    · refine ⟨ready.start, fun wanted => ?_⟩
      have pending : (state.start triggered).2.pending.get? file =
        if triggered = file then some state.tasks.length else state.pending.get? file :=
        Ledger.get?_put _ _ _ _
      rw [Ledger.has, pending]
      split
      · rfl
      · exact wanted.resolve_left ‹_›
    · rename_i closed
      refine ⟨ready, ?_⟩
      rintro (rfl | pending)
      · exact (closed ready.opened).elim
      · exact pending

/-- A request that fires leaves a document ready, and that of its own file with a run in flight. -/
theorem Ready.fire (ready : state.Ready file) (fired : String) :
    (state.fire fired).Ready file ∧
      (fired = file ∨ state.pending.has file → (state.fire fired).pending.has file) := by
  have dropped : (state.cancelRequest fired).Ready file := ready.of_same ready.opened rfl rfl
  exact dropped.trigger fired

/-- Requests that fire leave a document ready, and with a run in flight if its own is among them. -/
theorem Ready.foldl_fire (ready : state.Ready file) (files : List String) :
    (files.foldl State.fire state).Ready file ∧
      (file ∈ files ∨ state.pending.has file →
        (files.foldl State.fire state).pending.has file) := by
  induction files generalizing state with
  | nil => exact ⟨ready, fun wanted => wanted.resolve_left List.not_mem_nil⟩
  | cons first rest ih =>
    obtain ⟨ready', fires⟩ := ready.fire first
    obtain ⟨last, wanted⟩ := ih ready'
    refine ⟨last, fun asked => wanted ?_⟩
    rw [List.mem_cons] at asked
    rcases asked with (rfl | later) | pending
    · exact .inr (fires (.inl rfl))
    · exact .inl later
    · exact .inr (fires (.inr pending))

/-- After a request for a document that is ready, a run that has not begun is in flight. -/
theorem Ready.handle (ready : state.Ready file) {request : Event} (asks : request.Requests file) :
    (state.handle request).Ready file ∧ (state.handle request).pending.has file := by
  have listed : file ∈ state.documents.keys :=
    (Ledger.mem_keys_iff state.documents file).mpr ready.opened
  have all : ∀ {s : State}, s.Ready file → s.documents = state.documents →
      s.reanalyze.Ready file ∧ s.reanalyze.pending.has file := by
    intro s ready same
    obtain ⟨last, wanted⟩ := ready.foldl_fire s.documents.keys
    exact ⟨last, wanted (.inl (same ▸ listed))⟩
  cases request with
  | saved saved text =>
    obtain rfl : saved = file := asks
    cases text with
    | none => exact (ready.fire saved).imp_right fun fires => fires (.inl rfl)
    | some text =>
      have written : ∀ document, (state.setDocument saved document).Ready saved := fun document =>
        ready.of_same (by simp [isOpen, Ledger.has, setDocument]) rfl rfl
      exact ((written _).fire saved).imp_right fun fires => fires (.inl rfl)
  | configured settings =>
    cases settings with
    | none => exact all ready rfl
    | some given =>
      have configured : ({ state with provider := .fixed given } : State).Ready file :=
        ready.of_same ready.opened rfl rfl
      exact all configured rfl
  | reanalyzed => exact all ready rfl
  | _ => exact asks.elim

/-- A run of a file takes its first step: it reads the document and asks for the settings, and calls
the analyzer with them if they are there at once. -/
def Begins (state : State) (file : String) (action : Action) : Prop :=
  ∃ analyzer run text, action = .tick analyzer ∧ state.Reads file run text ∧
    (∀ answer, state.provider file = some answer →
      (tick analyzer state).calls =
        state.calls ++ [{ file, text, settings := answer.settings }]) ∧
    (state.provider file = none →
      ∃ t away, (tick analyzer state).task? run = some t ∧ t.phase = .asking file text away)

/-- A run that has not begun takes its first step before it is no longer in flight. -/
theorem Queued.exists_begins (queued : state.Queued file run) (moored : Moored (state.desk []))
    (opened : state.isOpen file) {actions : List Action}
    (stays : .event (.closed file) ∉ actions)
    (spared : ∀ mid action later, Occurs state actions mid action later → ¬mid.Stops file action)
    (settled : (state.play actions).pending.get? file = none) :
    ∃ mid action later, Occurs state actions mid action later ∧ mid.Begins file action := by
  induction actions generalizing state with
  | nil => cases queued.inFlight.symm.trans settled
  | cons action rest ih =>
    rw [List.mem_cons, not_or] at stays
    by_cases own : ∃ analyzer, action = .tick analyzer ∧ state.queue.head? = some (.step run)
    · obtain ⟨analyzer, rfl, next⟩ := own
      obtain ⟨text, reads⟩ := queued.reads opened next
      exact ⟨state, _, rest, ⟨[], rfl, rfl⟩, analyzer, run, text, rfl, reads,
        fun answer provided => (reads.makes provided).calls_tick analyzer,
        fun unprovided => reads.asks unprovided analyzer⟩
    · have kept := queued.act moored (fun analyzer same next => own ⟨analyzer, same, next⟩)
        (spared state action rest ⟨[], rfl, rfl⟩)
      obtain ⟨mid, begun, after, occurs, begins⟩ := ih kept (moored_act moored action)
        (isOpen_act state opened (Ne.symm stays.1)) stays.2
        (fun mid action' later' occurs => spared mid action' later' occurs.cons) settled
      exact ⟨mid, begun, after, occurs.cons, begins⟩

/-- What happens among some actions happens there a last time. -/
theorem exists_last (happens : State → Action → Prop) {start before : State}
    {actions rest : List Action} {action : Action}
    (occurs : Occurs start actions before action rest) (here : happens before action) :
    ∃ mid last later, Occurs start actions mid last later ∧ happens mid last ∧
      ∀ mid' action' later', Occurs (mid.act last) later mid' action' later' →
        ¬happens mid' action' := by
  by_cases again : ∃ mid' action' later', Occurs (before.act action) rest mid' action' later' ∧
      happens mid' action'
  · obtain ⟨mid', action', later', ⟨past', rfl, rfl⟩, there⟩ := again
    obtain ⟨past, rfl, rfl⟩ := occurs
    have further : Occurs start (past ++ action :: (past' ++ action' :: later'))
        (((start.play past).act action).play past') action' later' :=
      ⟨past ++ action :: past', by simp, by rw [play_append, play_cons]⟩
    exact exists_last happens further there
  · push Not at again
    exact ⟨before, action, rest, occurs, here, again⟩
termination_by rest.length
decreasing_by
  subst_vars
  simp
  omega

/-- A document is saved or the settings change while it is open, and no run of it that is in flight
has begun. If it stays open, its run in flight is not stopped, and no run of it is in flight in the
end, then the most recent run of it took its first step after that. -/
theorem request_served (provider : SettingsProvider) (delay : Nat) (past rest : List Action)
    (request : Event) (file : String) (asks : request.Requests file)
    (opened : ((initial provider delay).play past).isOpen file)
    (fresh : ∀ run t, ((initial provider delay).play past).pending.get? file = some run →
      ((initial provider delay).play past).task? run = some t → t.phase = .fresh)
    (stays : .event (.closed file) ∉ rest)
    (spared : ∀ mid action later,
      Occurs (((initial provider delay).play past).handle request) rest mid action later →
      ¬mid.Stops file action)
    (settled : ((initial provider delay).play (past ++ .event request :: rest)).pending.get? file =
      none) :
    ∃ mid action later,
      Occurs (((initial provider delay).play past).handle request) rest mid action later ∧
      mid.Begins file action ∧
      ∀ mid' action' later', Occurs (mid.act action) later mid' action' later' →
        ¬mid'.Begins file action' := by
  have moored := moored_play provider delay past
  rw [play_append, play_cons] at settled
  generalize (initial provider delay).play past = state at *
  have ready : state.Ready file := by
    refine ⟨opened, fun run inFlight => ⟨inFlight, ?_⟩⟩
    obtain ⟨t, known, generation, job⟩ := moored.isRun inFlight
    exact ⟨generation, t, known, job, fresh run t inFlight known⟩
  obtain ⟨still, pending⟩ := ready.handle asks
  obtain ⟨run, inFlight⟩ := Option.isSome_iff_exists.mp pending
  obtain ⟨mid, action, later, occurs, begins⟩ := (still.fresh run inFlight).exists_begins
    (moored_act moored (.event request)) still.opened stays spared settled
  exact exists_last (fun mid action => mid.Begins file action) occurs begins

/-- An analyzer that finds an empty tree in every text. -/
def blank : Analyzer := fun _ => { result := .ok { tree := some {} } }

/-- Where nothing is cancelled, no run is stopped. -/
theorem not_stops_of_uncancelled {start : State} {actions : List Action}
    (uncancelled : ∀ task, .cancel task ∉ actions) {mid : State} {action : Action}
    {later : List Action} (occurs : Occurs start actions mid action later) :
    ¬mid.Stops file action := by
  obtain ⟨past, rfl, -⟩ := occurs
  intro stops
  cases action with
  | cancel task => exact uncancelled task (by simp)
  | _ => exact stops

/-- A document that is saved with another text before its first run begins is read by that run. -/
theorem request_served_before_begin :
    ((initial (.fixed {}) 500).play [.event (.opened "a.pl" "p." 0)]).pending.get? "a.pl" =
        some 0 ∧
      ∃ mid action later,
        Occurs (((initial (.fixed {}) 500).play [.event (.opened "a.pl" "p." 0)]).handle
          (.saved "a.pl" (some "q."))) [.tick blank, .tick blank] mid action later ∧
        mid.Begins "a.pl" action ∧
        ∀ mid' action' later', Occurs (mid.act action) later mid' action' later' →
          ¬mid'.Begins "a.pl" action' := by
  refine ⟨rfl, request_served (.fixed {}) 500 _ _ _ "a.pl" rfl rfl ?_ (by simp)
    (fun mid action later occurs => not_stops_of_uncancelled (by simp) occurs) rfl⟩
  rintro run t pending known
  obtain rfl : 0 = run := Option.some.inj pending
  cases known
  rfl

/-- A document is opened, and its first run waits for the analyzer. -/
def waiting : List Action := [.hold "a.pl", .event (.opened "a.pl" "p." 0), .tick blank]

/-- The analyzer answers, the run ends, and it is no longer in flight. -/
def answering : List Action := [.release "a.pl", .tick blank, .tick blank]

/-- Not every request is followed by the first step of a run: one that comes while the run in flight
waits for the analyzer is lost. -/
theorem not_forall_request_served :
    ¬∀ (provider : SettingsProvider) (delay : Nat) (past rest : List Action) (request : Event)
      (file : String), request.Requests file →
      ((initial provider delay).play past).isOpen file →
      .event (.closed file) ∉ rest → .ask .shutdown ∉ past ++ rest →
      (∀ task, .cancel task ∉ past ++ rest) →
      ((initial provider delay).play (past ++ .event request :: rest)).pending.get? file = none →
      ((initial provider delay).play (past ++ .event request :: rest)).debouncer.isWaiting file =
        false →
      ∃ mid action later,
        Occurs (((initial provider delay).play past).handle request) rest mid action later ∧
        mid.Begins file action := by
  intro served
  obtain ⟨mid, action, later, ⟨earlier, split, rfl⟩, analyzer, run, text, rfl, reads, -⟩ :=
    served (.fixed {}) 500 waiting answering (.saved "a.pl" (some "q.")) "a.pl" rfl rfl
      (by simp [answering]) (by simp [waiting, answering]) (by simp [waiting, answering]) rfl rfl
  obtain ⟨next, ⟨t, known, fresh, -⟩, -⟩ := reads
  rcases earlier with _ | ⟨first, _ | ⟨second, _ | ⟨third, more⟩⟩⟩
  · cases split
  · cases split
    obtain rfl : 0 = run := by
      cases next
      rfl
    cases known
    cases fresh
  · cases split
    cases next
  · simp [answering] at split

end State

end PredicateIndex.Pipeline
