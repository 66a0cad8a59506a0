import PredicateIndex.Proofs.Pipeline.Requests
import PredicateIndex.Proofs.Pipeline.Signals

/-!
# Waiting for the runs in flight

A run in flight is settled when it ends, before anybody else is told. So a task that is told of the
end of a run which was in flight when it began to listen finds the run settled. A shutdown listens
to all runs in flight; when it has heard all its signals, all of them have ended and are settled.
This holds whatever is done while it waits: more runs may be started, also by hand, and tasks may be
cancelled.
-/
namespace PredicateIndex.Pipeline

/-! ## How a task changes in a move -/

/-- A task that has not ended may be moved to another such phase: every task keeps its listeners and
its result. -/
theorem Desk.task_setPhase {desk : Desk} {task k : TaskId} {t v : Task} {phase : Phase}
    (listed : desk.tasks[task]? = some v) (unfinished : v.phase.result? = none)
    (going : phase.result? = none) (known : desk.tasks[k]? = some t) :
    ∃ u, (desk.setPhase task phase).tasks[k]? = some u ∧ t.listeners <+: u.listeners ∧
      u.result? = t.result? :=
  ⟨{ t with phase := if task = k then phase else t.phase }, by rw [tasks_setPhase, known]; rfl,
    List.prefix_refl _, result?_setPhase listed unfinished going known⟩

/-- More listeners come after those that are there. -/
theorem Desk.task_addListener {desk : Desk} {k : TaskId} {t : Task}
    (known : desk.tasks[k]? = some t) (task : TaskId) (work : Work) :
    ∃ u, (desk.addListener task work).tasks[k]? = some u ∧ t.listeners <+: u.listeners ∧
      u.phase = t.phase := by
  refine ⟨{ t with listeners := if task = k then t.listeners ++ [work] else t.listeners },
    by rw [tasks_addListener, known]; rfl, ?_, rfl⟩
  dsimp only
  split
  · exact List.prefix_append _ _
  · exact List.prefix_refl _

/-- In a move a task keeps its listeners and its result, or it ends and its listeners are queued. -/
theorem Move.task {desk desk' : Desk} (moved : Move desk desk') {k : TaskId} {t : Task}
    (known : desk.tasks[k]? = some t) :
    (∃ u, desk'.tasks[k]? = some u ∧ t.listeners <+: u.listeners ∧ u.result? = t.result?) ∨
      t.result? = none ∧ desk'.queue = desk.queue ++ t.listeners ∧
        ∃ u, desk'.tasks[k]? = some u ∧ u.result?.isSome := by
  cases moved with
  | start => exact .inl ⟨t, desk.tasks_spawn_of_known _ _ known, List.prefix_refl _, rfl⟩
  | signal | record | forget | settle | write | discard =>
    exact .inl ⟨t, known, List.prefix_refl _, rfl⟩
  | listen task work harmless =>
    obtain ⟨u, found, more, phase⟩ := Desk.task_addListener known task work
    exact .inl ⟨u, found, more, by rw [Task.result?_eq, Task.result?_eq, phase]⟩
  | join waiter run v file listed fresh lookup unfinished =>
    obtain ⟨u, found, more, phase⟩ := Desk.task_addListener known run (.relay run waiter)
    obtain ⟨w, heard, -, at_⟩ := Desk.task_addListener listed run (.relay run waiter)
    have going : (Phase.joined run).result? = none := rfl
    obtain ⟨x, moved, rest, result⟩ :=
      Desk.task_setPhase heard (by rw [at_, fresh]; rfl) going found
    refine .inl ⟨x, moved, more.trans rest, result.trans ?_⟩
    rw [Task.result?_eq, Task.result?_eq, phase]
  | call task v phase listed asks =>
    exact .inl (Desk.task_setPhase listed asks.unfinished asks.going.unfinished known)
  | respond task v phase listed hears =>
    exact .inl (Desk.task_setPhase listed hears.unfinished hears.going.unfinished known)
  | await task v runs left listed fresh shutdown =>
    exact .inl (Desk.task_setPhase listed (by rw [fresh]; rfl) rfl known)
  | drain task v runs left fewer cancelled listed waiting =>
    exact .inl (Desk.task_setPhase listed (by rw [waiting]; rfl) rfl known)
  | drained task v runs left cancelled result listed waiting =>
    exact .inl (Desk.task_setPhase listed (by rw [waiting]; rfl) rfl known)
  | relay run waiter joined v u result queued listed waiting inFlight ended =>
    exact .inl (Desk.task_setPhase listed (by rw [waiting]; rfl) rfl known)
  | finish task v result listed ready =>
    by_cases same : task = k
    · subst same
      obtain rfl : v = t := Option.some.inj (listed.symm.trans known)
      refine .inr ⟨Task.result?_of_mayEnd ready, by simp [Desk.finish, listed], _,
        by rw [Desk.finish, Desk.tasks_setPhase, listed]; rfl, ?_⟩
      simp [Task.result?]
    · refine .inl ⟨t, ?_, List.prefix_refl _, rfl⟩
      simp [Desk.finish, Desk.tasks_setPhase, known, same]

/-- A run that is not in flight for a file does not come into flight again. -/
theorem Move.pending_ne {desk desk' : Desk} (moved : Move desk desk') {file : String}
    {run : TaskId} {t : Task} (known : desk.tasks[run]? = some t)
    (gone : desk.pending.get? file ≠ some run) : desk'.pending.get? file ≠ some run := by
  cases moved with
  | start started idle =>
    rw [show (desk.start started).pending = desk.pending.put started desk.tasks.length from rfl,
      Ledger.get?_put]
    split
    · rintro ⟨⟩
      exact Nat.lt_irrefl _ (List.getElem?_eq_some_iff.mp known).1
    · exact gone
  | settle settled ended queued pending =>
    rw [Ledger.get?_remove]
    split
    · exact nofun
    · exact gone
  | _ => exact gone

/-! ## Runs in flight are settled -/

/-- A run in flight is about to be settled, or will be when it ends. -/
structure Docked (desk : Desk) : Prop where
  /-- A run in flight that has not ended will be settled when it does. -/
  listens {file : String} {run : TaskId} {t : Task} : desk.pending.get? file = some run →
    desk.tasks[run]? = some t → t.result? = none → .settle file run ∈ t.listeners
  /-- A run in flight that has ended is about to be settled. -/
  queued {file : String} {run : TaskId} {t : Task} : desk.pending.get? file = some run →
    desk.tasks[run]? = some t → t.result?.isSome → .settle file run ∈ desk.queue

/-- What is in flight was in flight before or was just started. -/
theorem Turn.inFlight {desk desk' : Desk} (turned : Turn desk desk') {file : String} {run : TaskId}
    (inFlight : desk'.pending.get? file = some run) : desk.pending.get? file = some run ∨
      run = desk.tasks.length ∧ desk' = desk.start file := by
  cases turned with
  | ask | drop => exact .inl inFlight
  | move moved =>
    cases moved with
    | start started idle =>
      rw [show (desk.start started).pending = desk.pending.put started desk.tasks.length from rfl,
        Ledger.get?_put] at inFlight
      split at inFlight
      · rename_i same
        exact .inr ⟨(Option.some.inj inFlight).symm, by rw [same]⟩
      · exact .inl inFlight
    | settle settled ended queued pending =>
      rw [Ledger.get?_remove] at inFlight
      split at inFlight
      · cases inFlight
      · exact .inl inFlight
    | _ => exact .inl inFlight

namespace Docked

variable {desk desk' : Desk}

/-- A turn keeps every run in flight docked. -/
theorem turn (docked : Docked desk) (moored : Moored desk) (turned : Turn desk desk') :
    Docked desk' := by
  constructor
  · intro file run u inFlight found unfinished
    rcases turned.inFlight inFlight with before | ⟨rfl, rfl⟩
    · obtain ⟨t, known, -⟩ := moored.isRun before
      obtain ⟨v, advance⟩ := turned.advance known
      obtain rfl : u = v := Option.some.inj (found.symm.trans advance.known)
      exact advance.listeners _ (docked.listens before known (advance.unfinished unfinished))
    · have new : (desk.start file).tasks[desk.tasks.length]? = some
        ⟨.run file (some desk.next), .fresh, [.settle file desk.tasks.length]⟩ := by
          simp [Desk.start, Desk.spawn]
      obtain rfl := Option.some.inj (found.symm.trans new)
      exact List.mem_cons_self
  · intro file run u inFlight found ended
    rcases turned.inFlight inFlight with before | ⟨rfl, rfl⟩
    · obtain ⟨t, known, -⟩ := moored.isRun before
      obtain ⟨v, advance⟩ := turned.advance known
      obtain rfl : u = v := Option.some.inj (found.symm.trans advance.known)
      obtain ⟨result, finished⟩ := Option.isSome_iff_exists.mp ended
      rcases advance.ends result (Task.phase_of_result? finished) with earlier | told
      · have waiting := docked.queued before known (by rw [Task.result?_eq, earlier]; rfl)
        exact (turned.queue waiting).resolve_right fun spent => spent inFlight
      · cases going : t.result? with
        | none => exact told _ (docked.listens before known going)
        | some earlier =>
          have waiting := docked.queued before known (by rw [going]; rfl)
          exact (turned.queue waiting).resolve_right fun spent => spent inFlight
    · have new : (desk.start file).tasks[desk.tasks.length]? = some
        ⟨.run file (some desk.next), .fresh, [.settle file desk.tasks.length]⟩ := by
          simp [Desk.start, Desk.spawn]
      obtain rfl := Option.some.inj (found.symm.trans new)
      cases ended

/-- A task that has not ended may be moved to another such phase. -/
theorem setPhase (docked : Docked desk) {task : TaskId} {t : Task} {phase : Phase}
    (known : desk.tasks[task]? = some t) (unfinished : t.result? = none)
    (going : phase.result? = none) : Docked (desk.setPhase task phase) := by
  have same : ∀ {k : TaskId} {u : Task}, (desk.setPhase task phase).tasks[k]? = some u →
      ∃ v, desk.tasks[k]? = some v ∧ u.listeners = v.listeners ∧ u.result? = v.result? := by
    intro k u found
    rw [Desk.tasks_setPhase, Option.map_eq_some_iff] at found
    obtain ⟨v, found, rfl⟩ := found
    exact ⟨v, found, rfl, result?_setPhase known unfinished going found⟩
  constructor
  · intro file run u inFlight found goes
    obtain ⟨v, found, listeners, result⟩ := same found
    exact listeners ▸ docked.listens inFlight found (result ▸ goes)
  · intro file run u inFlight found ended
    obtain ⟨v, found, -, result⟩ := same found
    exact docked.queued inFlight found (result ▸ ended)

/-- Work may be queued. -/
theorem enqueue (docked : Docked desk) (work : Work) : Docked (desk.enqueue work) where
  listens := docked.listens
  queued inFlight known ended := List.mem_append_left _ (docked.queued inFlight known ended)

/-- A task of any kind may be created. -/
theorem ask (docked : Docked desk) (moored : Moored desk) (job : Job) :
    Docked (desk.spawn job []) := by
  have old : ∀ {file : String} {run : TaskId} {t : Task}, desk.pending.get? file = some run →
      (desk.spawn job []).tasks[run]? = some t → desk.tasks[run]? = some t := by
    intro file run t inFlight found
    obtain ⟨u, known, -⟩ := moored.isRun inFlight
    have kept := desk.tasks_spawn_of_known job [] known
    rwa [Option.some.inj (found.symm.trans kept)]
  constructor
  · exact fun inFlight found => docked.listens inFlight (old inFlight found)
  · exact fun inFlight found ended =>
      List.mem_append_left _ (docked.queued inFlight (old inFlight found) ended)

end Docked

/-! ## Runs that are waited for -/

/-- A run of a file was in flight when a task began to wait for it, and the task has not been told
of its end before the run was settled. -/
inductive Awaited (desk : Desk) (waiter run : TaskId) (file : String) : Prop where
  /-- The run has not ended; it is settled before the task is told. -/
  | waiting (t : Task) (before after : List Work) (known : desk.tasks[run]? = some t)
    (unfinished : t.result? = none) (listeners : t.listeners = before ++ .drained waiter :: after)
    (settles : .settle file run ∈ before)
  /-- The run has ended and the task is about to be told; the run is settled before. -/
  | told (t : Task) (before after : List Work) (known : desk.tasks[run]? = some t)
    (ended : t.result?.isSome) (queue : desk.queue = before ++ .drained waiter :: after)
    (settles : .settle file run ∈ before ∨ desk.pending.get? file ≠ some run)
  /-- The run has ended and is settled. -/
  | heard (t : Task) (known : desk.tasks[run]? = some t) (ended : t.result?.isSome)
    (settled : desk.pending.get? file ≠ some run)

namespace Awaited

variable {desk desk' : Desk} {waiter run : TaskId} {file : String}

/-- Listeners may come to the run, work to the queue, and the run may leave flight. -/
theorem touch (awaited : Awaited desk waiter run file)
    (tasks : ∀ t, desk.tasks[run]? = some t → ∃ u, desk'.tasks[run]? = some u ∧
      t.listeners <+: u.listeners ∧ u.result? = t.result?)
    (queue : desk.queue <+: desk'.queue)
    (gone : desk.pending.get? file ≠ some run → desk'.pending.get? file ≠ some run) :
    Awaited desk' waiter run file := by
  cases awaited with
  | waiting t before after known unfinished listeners settles =>
    obtain ⟨u, found, ⟨more, listed⟩, result⟩ := tasks t known
    refine .waiting u before (after ++ more) found (result.trans unfinished) ?_ settles
    rw [← listed, listeners, List.append_assoc]
    rfl
  | told t before after known ended split settles =>
    obtain ⟨u, found, -, result⟩ := tasks t known
    obtain ⟨more, longer⟩ := queue
    refine .told u before (after ++ more) found (by rw [result]; exact ended) ?_
      (settles.imp_right gone)
    rw [← longer, split, List.append_assoc]
    rfl
  | heard t known ended settled =>
    obtain ⟨u, found, -, result⟩ := tasks t known
    exact .heard u found (by rw [result]; exact ended) (gone settled)

/-- A run that is waited for is a task. -/
theorem exists_known (awaited : Awaited desk waiter run file) :
    ∃ t, desk.tasks[run]? = some t := by
  cases awaited with
  | waiting t _ _ known | told t _ _ known | heard t known => exact ⟨t, known⟩

/-- A move keeps a run waited for. -/
theorem move (awaited : Awaited desk waiter run file) (moved : Move desk desk') :
    Awaited desk' waiter run file := by
  obtain ⟨t, known⟩ := awaited.exists_known
  have gone : desk.pending.get? file ≠ some run → desk'.pending.get? file ≠ some run :=
    moved.pending_ne known
  rcases moved.task known with kept | ⟨unfinished, queue, u, found, ended⟩
  · refine awaited.touch (fun v listed => ?_) moved.queue gone
    obtain rfl : t = v := Option.some.inj (known.symm.trans listed)
    exact kept
  · -- the run ends: its listeners are queued in their order
    cases awaited with
    | waiting v before after listed _ listeners settles =>
      obtain rfl : t = v := Option.some.inj (known.symm.trans listed)
      refine .told u (desk.queue ++ before) after found ended ?_
        (.inl (List.mem_append_right _ settles))
      rw [queue, listeners, List.append_assoc]
    | told v _ _ listed ended' | heard v listed ended' =>
      obtain rfl : t = v := Option.some.inj (known.symm.trans listed)
      simp [unfinished] at ended'

/-- Moves keep a run waited for. -/
theorem moves (awaited : Awaited desk waiter run file) (moves : Moves desk desk') :
    Awaited desk' waiter run file := by
  induction moves with
  | refl => exact awaited
  | tail _ moved ih => exact ih.move moved

/-- A task of any kind may be created. -/
theorem spawn (awaited : Awaited desk waiter run file) (job : Job) :
    Awaited (desk.spawn job []) waiter run file :=
  awaited.touch (fun t known =>
    ⟨t, desk.tasks_spawn_of_known job [] known, List.prefix_refl _, rfl⟩)
    (List.prefix_append _ _) id

/-- Work that is spent may be dropped. -/
theorem drop (awaited : Awaited desk waiter run file) {work : Work} {rest : List Work}
    (first : desk.queue = work :: rest) (spent : desk.Spent work) :
    Awaited { desk with queue := rest } waiter run file := by
  cases awaited with
  | waiting t before after known unfinished listeners settles =>
    exact .waiting t before after known unfinished listeners settles
  | heard t known ended settled => exact .heard t known ended settled
  | told t before after known ended queue settles =>
    rw [first] at queue
    cases before with
    | nil =>
      -- the task is told now, and the run is settled
      exact .heard t known ended (settles.resolve_left List.not_mem_nil)
    | cons head before =>
      obtain ⟨rfl, rfl⟩ := List.cons.inj queue
      refine .told t before after known ended rfl ?_
      rcases settles with inside | settled
      · rcases List.mem_cons.mp inside with rfl | inside
        · exact .inr spent
        · exact .inl inside
      · exact .inr settled

/-- A turn keeps a run waited for. -/
theorem turn (awaited : Awaited desk waiter run file) (turned : Turn desk desk') :
    Awaited desk' waiter run file := by
  cases turned with
  | move moved => exact awaited.move moved
  | ask job other => exact awaited.spawn job
  | drop work rest first spent => exact awaited.drop first spent

end Awaited

namespace State

variable {state : State} {waiter run : TaskId} {file : String}

/-- Every action keeps every run in flight docked. -/
theorem docked_act (docked : Docked (state.desk [])) (moored : Moored (state.desk []))
    (action : Action) : Docked ((state.act action).desk []) := by
  have kept := keep_act state (fun desk => Moored desk ∧ Docked desk)
    (fun kept turned => ⟨kept.1.turn turned, kept.2.turn kept.1 turned⟩)
    (fun job kept => ⟨kept.1.ask job, kept.2.ask kept.1 job⟩)
    (fun kept known unfinished going =>
      ⟨kept.1.setPhase known unfinished, kept.2.setPhase known unfinished going⟩)
    (fun id kept => ⟨kept.1.enqueue_step id, kept.2.enqueue _⟩) ⟨moored, docked⟩ action
  exact kept.2

/-- Every interleaving leaves every run in flight docked. -/
theorem docked_play (provider : SettingsProvider) (delay : Nat) (actions : List Action) :
    Docked (((initial provider delay).play actions).desk []) := by
  have start : Moored ((initial provider delay).desk []) ∧
      Docked ((initial provider delay).desk []) := by
    constructor <;> constructor <;> simp [initial, desk]
  have kept := List.foldlRecOn
    (motive := fun s : State => Moored (s.desk []) ∧ Docked (s.desk [])) actions act start
    fun s kept action _ => ⟨moored_act kept.1 action, docked_act kept.2 kept.1 action⟩
  exact kept.2

/-- Every action keeps a run waited for. -/
theorem awaited_act (awaited : Awaited (state.desk []) waiter run file) (action : Action) :
    Awaited ((state.act action).desk []) waiter run file := by
  refine keep_act state (fun desk => Awaited desk waiter run file)
    (fun awaited turned => awaited.turn turned) (fun job awaited => awaited.spawn job) ?_ ?_ awaited
    action
  · intro desk other t phase awaited known unfinished going
    exact awaited.touch (fun u found => Desk.task_setPhase known unfinished going found)
      (List.prefix_refl _) id
  · intro desk other awaited
    exact awaited.touch (fun u found => ⟨u, found, List.prefix_refl _, rfl⟩)
      (List.prefix_append _ _) id

/-- Every interleaving keeps a run waited for. -/
theorem awaited_play (awaited : Awaited (state.desk []) waiter run file) (actions : List Action) :
    Awaited ((state.play actions).desk []) waiter run file :=
  List.foldlRecOn (motive := fun s : State => Awaited (s.desk []) waiter run file) actions act
    awaited fun _ kept action _ => awaited_act kept action

/-- When no more signals are to come, a run that was waited for has ended and is settled. -/
theorem settled_of_awaited (awaited : Awaited (state.desk []) waiter run file)
    (silent : state.signals waiter = 0) :
    (∃ t, state.task? run = some t ∧ t.result?.isSome) ∧ state.pending.get? file ≠ some run := by
  obtain ⟨quiet, spent⟩ := Nat.add_eq_zero_iff.mp silent
  cases awaited with
  | heard t known ended settled => exact ⟨⟨t, known, ended⟩, settled⟩
  | told t before after known ended queue settles =>
    refine absurd ?_ (List.count_eq_zero.mp quiet)
    have split : state.queue = before ++ .drained waiter :: after := queue
    simp [split]
  | waiting t before after known unfinished listeners settles =>
    have listed : t ∈ state.tasks := List.mem_of_getElem? known
    have none : t.signals waiter = 0 :=
      List.sum_eq_zero_iff_forall_eq_nat.mp spent _ (List.mem_map.mpr ⟨t, listed, rfl⟩)
    rw [Task.signals, unfinished, listeners] at none
    simp at none

end State

end PredicateIndex.Pipeline
