import PredicateIndex.Proofs.Pipeline.Moves

/-!
# One run in flight

What is in flight for a file, the tasks that are runs of it and the work that settles them belong
together: a run that has not ended is the one in flight, the one in flight is the latest, and if it
has ended it is about to be settled. Every turn keeps this.
-/
namespace PredicateIndex.Pipeline

/-- How the runs in flight, the tasks and the queue belong together. -/
structure Flight (desk : Desk) : Prop where
  /-- What is in flight for a file is a run of it. -/
  isRun {file : String} {run : TaskId} : desk.pending.get? file = some run →
    ∃ t, desk.tasks[run]? = some t ∧ t.IsRunOf file
  /-- What is in flight for a file is the latest run of it. -/
  latest {file : String} {run k : TaskId} {t : Task} : desk.pending.get? file = some run →
    desk.tasks[k]? = some t → t.IsRunOf file → k ≤ run
  /-- A run that has not ended is in flight. -/
  pending {file : String} {run : TaskId} {t : Task} : desk.tasks[run]? = some t →
    t.IsRunOf file → t.result? = none → desk.pending.get? file = some run
  /-- A run that has not ended will be settled when it does. -/
  listens {file : String} {run : TaskId} {t : Task} : desk.tasks[run]? = some t →
    t.IsRunOf file → t.result? = none → .settle file run ∈ t.listeners
  /-- Only a run itself has itself settled. -/
  own {file : String} {run k : TaskId} {t : Task} : desk.tasks[k]? = some t →
    .settle file run ∈ t.listeners → run = k
  /-- A run in flight that has ended is about to be settled. -/
  queued {file : String} {run : TaskId} {t : Task} : desk.pending.get? file = some run →
    desk.tasks[run]? = some t → t.result?.isSome → .settle file run ∈ desk.queue
  /-- What is about to be settled has ended. -/
  ended {file : String} {run : TaskId} : .settle file run ∈ desk.queue →
    ∃ t, desk.tasks[run]? = some t ∧ t.result?.isSome

/-- Moving a task that has not ended to a phase in which it has not leaves all results. -/
theorem result?_setPhase {desk : Desk} {task k : TaskId} {t u : Task} {phase : Phase}
    (known : desk.tasks[task]? = some t) (unfinished : t.phase.result? = none)
    (going : phase.result? = none) (found : desk.tasks[k]? = some u) :
    ({ u with phase := if task = k then phase else u.phase } : Task).result? = u.result? := by
  rw [Task.result?_eq, Task.result?_eq]
  dsimp only
  split
  · rename_i same
    subst same
    obtain rfl : t = u := Option.some.inj (known.symm.trans found)
    rw [going, unfinished]
  · rfl

/-- The order of the runs depends on the jobs and results of the tasks and on what settles them, and
on nothing else. -/
theorem Flight.touch {desk desk' : Desk} (flight : Flight desk)
    (pending : desk'.pending = desk.pending)
    (queue : ∀ file run, .settle file run ∈ desk'.queue ↔ .settle file run ∈ desk.queue)
    (change : TaskId → Task → Task)
    (changed : ∀ k, desk'.tasks[k]? = (desk.tasks[k]?).map (change k))
    (alike : ∀ k t, desk.tasks[k]? = some t → (change k t).job = t.job ∧
      (change k t).result? = t.result? ∧
      ∀ file run, .settle file run ∈ (change k t).listeners ↔ .settle file run ∈ t.listeners) :
    Flight desk' := by
  have known : ∀ {k : TaskId} {u : Task}, desk'.tasks[k]? = some u → ∃ t, desk.tasks[k]? = some t ∧
      (∀ file, u.IsRunOf file ↔ t.IsRunOf file) ∧ u.result? = t.result? ∧
      ∀ file run, .settle file run ∈ u.listeners ↔ .settle file run ∈ t.listeners := by
    intro k u found
    rw [changed, Option.map_eq_some_iff] at found
    obtain ⟨t, found, rfl⟩ := found
    obtain ⟨job, result, listeners⟩ := alike k t found
    exact ⟨t, found, fun file => by simp [Task.IsRunOf, job], result, listeners⟩
  constructor
  · intro file run inFlight
    obtain ⟨t, found, isRun⟩ := flight.isRun (pending ▸ inFlight)
    obtain ⟨job, -, -⟩ := alike run t found
    exact ⟨change run t, by rw [changed, found]; rfl, by simpa [Task.IsRunOf, job] using isRun⟩
  · intro file run k u inFlight found isRun
    obtain ⟨t, found, same, -, -⟩ := known found
    exact flight.latest (pending ▸ inFlight) found ((same file).mp isRun)
  · intro file run u found isRun unfinished
    obtain ⟨t, found, same, result, -⟩ := known found
    rw [pending]
    exact flight.pending found ((same file).mp isRun) (result ▸ unfinished)
  · intro file run u found isRun unfinished
    obtain ⟨t, found, same, result, listeners⟩ := known found
    exact (listeners file run).mpr
      (flight.listens found ((same file).mp isRun) (result ▸ unfinished))
  · intro file run k u found listed
    obtain ⟨t, found, -, -, listeners⟩ := known found
    exact flight.own found ((listeners file run).mp listed)
  · intro file run u inFlight found ended
    obtain ⟨t, found, -, result, -⟩ := known found
    exact (queue file run).mpr (flight.queued (pending ▸ inFlight) found (result ▸ ended))
  · intro file run listed
    obtain ⟨t, found, ended⟩ := flight.ended ((queue file run).mp listed)
    obtain ⟨-, result, -⟩ := alike run t found
    exact ⟨change run t, by rw [changed, found]; rfl, result ▸ ended⟩

namespace Flight

variable {desk : Desk} (flight : Flight desk)
include flight

/-- A task may go on to a phase in which it has not ended. -/
theorem setPhase {task : TaskId} {t : Task} {old phase : Phase}
    (known : desk.tasks[task]? = some t) (at_ : t.phase = old) (unfinished : old.result? = none)
    (going : phase.result? = none) : Flight (desk.setPhase task phase) :=
  flight.touch rfl (fun _ _ => .rfl) _ (fun k => desk.tasks_setPhase task k phase)
    fun _ _ found => ⟨rfl, result?_setPhase known (at_ ▸ unfinished) going found, fun _ _ => .rfl⟩

/-- Work that settles nothing may be listened for. -/
theorem addListener (task : TaskId) {work : Work} (other : ∀ file run, work ≠ .settle file run) :
    Flight (desk.addListener task work) := by
  refine flight.touch rfl (fun _ _ => .rfl) _ (fun k => desk.tasks_addListener task k work)
    fun k t known => ⟨rfl, rfl, fun file run => ?_⟩
  dsimp only
  split
  · simp [(other file run).symm]
  · rfl

/-- Work that settles nothing may be queued. -/
theorem enqueue {work : Work} (other : ∀ file run, work ≠ .settle file run) :
    Flight (desk.enqueue work) := by
  refine flight.touch rfl (fun file run => ?_) (fun _ t => t) (fun k => by simp [Desk.enqueue])
    fun _ _ _ => ⟨rfl, rfl, fun _ _ => .rfl⟩
  simp [Desk.enqueue, (other file run).symm]

/-- A number in flight is that of a task. -/
theorem lt_length {file : String} {run : TaskId} (inFlight : desk.pending.get? file = some run) :
    run < desk.tasks.length := by
  obtain ⟨t, known, -⟩ := flight.isRun inFlight
  exact (List.getElem?_eq_some_iff.mp known).1

/-- A task other than a run may be created. -/
theorem spawn {job : Job} (other : ∀ file generation, job ≠ .run file generation) :
    Flight (desk.spawn job []) := by
  have kept : ∀ {k : TaskId} {t : Task}, desk.tasks[k]? = some t →
      (desk.spawn job []).tasks[k]? = some t :=
    fun found => desk.tasks_spawn_of_known job [] found
  have old : ∀ {file : String} {k : TaskId} {t : Task}, (desk.spawn job []).tasks[k]? = some t →
      t.IsRunOf file → desk.tasks[k]? = some t := by
    intro file k t found isRun
    rcases desk.of_tasks_spawn found with found | ⟨-, rfl⟩
    · exact found
    · obtain ⟨generation, run⟩ := isRun
      exact (other file generation run).elim
  have settles : ∀ {file : String} {run : TaskId},
      .settle file run ∈ (desk.spawn job []).queue → .settle file run ∈ desk.queue := by
    simp [Desk.spawn]
  constructor
  · intro file run inFlight
    obtain ⟨t, found, isRun⟩ := flight.isRun inFlight
    exact ⟨t, kept found, isRun⟩
  · intro file run k t inFlight found isRun
    exact flight.latest inFlight (old found isRun) isRun
  · intro file run t found isRun
    exact flight.pending (old found isRun) isRun
  · intro file run t found isRun
    exact flight.listens (old found isRun) isRun
  · intro file run k t found listed
    rcases desk.of_tasks_spawn found with found | ⟨-, rfl⟩
    · exact flight.own found listed
    · simp at listed
  · intro file run t inFlight found ended
    obtain ⟨u, found', isRun⟩ := flight.isRun inFlight
    obtain rfl : u = t := Option.some.inj ((kept found').symm.trans found)
    exact List.mem_append_left _ (flight.queued inFlight found' ended)
  · intro file run listed
    obtain ⟨t, found, ended⟩ := flight.ended (settles listed)
    exact ⟨t, kept found, ended⟩

/-- A run of a file that has none in flight may be started. -/
theorem start {file : String} (idle : desk.pending.get? file = none) :
    Flight (desk.start file) := by
  have kept : ∀ {k : TaskId} {t : Task}, desk.tasks[k]? = some t →
      (desk.start file).tasks[k]? = some t :=
    fun found => desk.tasks_spawn_of_known _ _ found
  have known : ∀ {k : TaskId} {t : Task}, (desk.start file).tasks[k]? = some t →
      desk.tasks[k]? = some t ∨ k = desk.tasks.length ∧ t =
        { job := .run file (some desk.next), listeners := [.settle file desk.tasks.length] } :=
    fun found => desk.of_tasks_spawn found
  have pending : ∀ other, (desk.start file).pending.get? other =
      if file = other then some desk.tasks.length else desk.pending.get? other :=
    fun other => Ledger.get?_put _ _ _ _
  have newest : (desk.start file).tasks[desk.tasks.length]? = some
      { job := .run file (some desk.next), listeners := [.settle file desk.tasks.length] } := by
    simp [Desk.start, Desk.spawn]
  constructor
  · intro other run inFlight
    rw [pending] at inFlight
    split at inFlight
    · rename_i same
      cases inFlight
      exact ⟨_, newest, some desk.next, by rw [same]⟩
    · obtain ⟨t, found, isRun⟩ := flight.isRun inFlight
      exact ⟨t, kept found, isRun⟩
  · intro other run k t inFlight found isRun
    rw [pending] at inFlight
    rcases known found with found | ⟨rfl, rfl⟩
    · have inside : k < desk.tasks.length := (List.getElem?_eq_some_iff.mp found).1
      split at inFlight
      · cases inFlight
        exact Nat.le_of_lt inside
      · exact flight.latest inFlight found isRun
    · obtain ⟨generation, job⟩ := isRun
      cases job
      simp at inFlight
      exact Nat.le_of_eq inFlight
  · intro other run t found isRun unfinished
    rw [pending]
    rcases known found with found | ⟨rfl, rfl⟩
    · have inFlight := flight.pending found isRun unfinished
      rw [if_neg]
      · exact inFlight
      · rintro rfl
        cases idle.symm.trans inFlight
    · obtain ⟨generation, job⟩ := isRun
      cases job
      simp
  · intro other run t found isRun unfinished
    rcases known found with found | ⟨rfl, rfl⟩
    · exact flight.listens found isRun unfinished
    · obtain ⟨generation, job⟩ := isRun
      cases job
      simp
  · intro other run k t found listed
    rcases known found with found | ⟨rfl, rfl⟩
    · exact flight.own found listed
    · simp at listed
      exact listed.2
  · intro other run t inFlight found ended
    rcases known found with found | ⟨rfl, rfl⟩
    · rw [pending] at inFlight
      split at inFlight
      · cases inFlight
        simp at found
      · exact List.mem_append_left _ (flight.queued inFlight found ended)
    · cases ended
  · intro other run listed
    have listed : .settle other run ∈ desk.queue := by
      simpa [Desk.start, Desk.spawn] using listed
    obtain ⟨t, found, ended⟩ := flight.ended listed
    exact ⟨t, kept found, ended⟩

/-- A task that has not ended may end. -/
theorem finish {task : TaskId} {t : Task} (found : desk.tasks[task]? = some t)
    (unfinished : t.result? = none) (result : Result) : Flight (desk.finish task result) := by
  have tasks : ∀ k, (desk.finish task result).tasks[k]? = (desk.tasks[k]?).map fun (u : Task) =>
      { u with phase := if task = k then .ended result else u.phase } :=
    fun k => desk.tasks_setPhase task k (.ended result)
  have queue : (desk.finish task result).queue = desk.queue ++ t.listeners := by
    simp [Desk.finish, found]
  have known : ∀ {k : TaskId} {u : Task}, (desk.finish task result).tasks[k]? = some u →
      ∃ v, desk.tasks[k]? = some v ∧ (∀ file, u.IsRunOf file ↔ v.IsRunOf file) ∧
        u.listeners = v.listeners ∧ (task = k ∨ u.result? = v.result?) := by
    intro k u listed
    rw [tasks, Option.map_eq_some_iff] at listed
    obtain ⟨v, listed, rfl⟩ := listed
    refine ⟨v, listed, fun file => .rfl, rfl, ?_⟩
    by_cases same : task = k
    · exact .inl same
    · exact .inr (by simp [same])
  have still : ∀ {k : TaskId} {v : Task}, desk.tasks[k]? = some v → (task = k ∨ v.result?.isSome) →
      ∃ u, (desk.finish task result).tasks[k]? = some u ∧ u.result?.isSome := by
    intro k v listed ended
    refine ⟨_, by rw [tasks, listed]; rfl, ?_⟩
    by_cases same : task = k
    · simp [same, Task.result?]
    · simpa [same] using ended.resolve_left same
  constructor
  · intro file run inFlight
    obtain ⟨v, listed, isRun⟩ := flight.isRun inFlight
    refine ⟨_, by rw [tasks, listed]; rfl, ?_⟩
    exact isRun
  · intro file run k u inFlight listed isRun
    obtain ⟨v, listed, same, -⟩ := known listed
    exact flight.latest inFlight listed ((same file).mp isRun)
  · intro file run u listed isRun going
    obtain ⟨v, listed', same, -, rfl | result⟩ := known listed
    · obtain ⟨w, ended, isSome⟩ := still listed' (.inl rfl)
      obtain rfl : w = u := Option.some.inj (ended.symm.trans listed)
      simp [going] at isSome
    · exact flight.pending listed' ((same file).mp isRun) (result ▸ going)
  · intro file run u listed isRun going
    obtain ⟨v, listed', same, listeners, rfl | result⟩ := known listed
    · obtain ⟨w, ended, isSome⟩ := still listed' (.inl rfl)
      obtain rfl : w = u := Option.some.inj (ended.symm.trans listed)
      simp [going] at isSome
    · rw [listeners]
      exact flight.listens listed' ((same file).mp isRun) (result ▸ going)
  · intro file run k u listed inside
    obtain ⟨v, listed, -, listeners, -⟩ := known listed
    exact flight.own listed (listeners ▸ inside)
  · intro file run u inFlight listed ended
    rw [queue, List.mem_append]
    obtain ⟨v, listed, same, -, rfl | result⟩ := known listed
    · obtain ⟨w, listed', isRun⟩ := flight.isRun inFlight
      obtain rfl : w = t := Option.some.inj (listed'.symm.trans found)
      exact .inr (flight.listens found isRun unfinished)
    · exact .inl (flight.queued inFlight listed (result ▸ ended))
  · intro file run inside
    rw [queue, List.mem_append] at inside
    rcases inside with inside | inside
    · obtain ⟨v, listed, ended⟩ := flight.ended inside
      exact still listed (.inr ended)
    · obtain rfl := flight.own found inside
      exact still found (.inl rfl)

/-- A run that is about to be settled may leave the runs in flight. -/
theorem settle {file : String} {run : TaskId} (queued : .settle file run ∈ desk.queue)
    (inFlight : desk.pending.get? file = some run) :
    Flight { desk with pending := desk.pending.remove file } := by
  have before : ∀ {other : String} {k : TaskId},
      (desk.pending.remove file).get? other = some k → desk.pending.get? other = some k := by
    intro other k listed
    rw [Ledger.get?_remove] at listed
    split at listed
    · cases listed
    · exact listed
  constructor
  · exact fun listed => flight.isRun (before listed)
  · exact fun listed => flight.latest (before listed)
  · intro other k t found isRun unfinished
    have listed := flight.pending found isRun unfinished
    show (desk.pending.remove file).get? other = some k
    rw [Ledger.get?_remove, if_neg]
    · exact listed
    · rintro rfl
      obtain rfl : run = k := Option.some.inj (inFlight.symm.trans listed)
      obtain ⟨u, found', ended⟩ := flight.ended queued
      obtain rfl : u = t := Option.some.inj (found'.symm.trans found)
      simp [unfinished] at ended
  · exact flight.listens
  · exact flight.own
  · exact fun listed => flight.queued (before listed)
  · exact flight.ended

/-- Work that is spent may be dropped. -/
theorem drop {work : Work} {rest : List Work} (first : desk.queue = work :: rest)
    (spent : desk.Spent work) : Flight { desk with queue := rest } := by
  constructor
  · exact flight.isRun
  · exact flight.latest
  · exact flight.pending
  · exact flight.listens
  · exact flight.own
  · intro file run t inFlight found ended
    have listed := flight.queued inFlight found ended
    rw [first, List.mem_cons] at listed
    rcases listed with rfl | listed
    · exact (spent inFlight).elim
    · exact listed
  · intro file run listed
    exact flight.ended (by rw [first]; exact List.mem_cons_of_mem _ listed)

omit flight in
/-- A signal settles nothing. -/
theorem ne_settle_of_isSignal {work : Work} (harmless : work.IsSignal) (file : String)
    (run : TaskId) : work ≠ .settle file run := by
  rintro rfl
  exact harmless

/-- A move keeps the runs in order. -/
theorem move {desk' : Desk} (moved : Move desk desk') : Flight desk' := by
  cases moved with
  | start file idle => exact flight.start idle
  | signal work harmless => exact flight.enqueue (ne_settle_of_isSignal harmless)
  | listen task work harmless => exact flight.addListener task (ne_settle_of_isSignal harmless)
  | join waiter run t file known fresh lookup unfinished =>
    obtain ⟨listeners, listening⟩ : ∃ listeners,
        (desk.addListener run (.relay run waiter)).tasks[waiter]? = some { t with listeners } :=
      ⟨_, by rw [Desk.tasks_addListener, known]; rfl⟩
    exact (flight.addListener run (by simp)).setPhase listening fresh rfl rfl
  | call task t phase known asks =>
    exact flight.setPhase known rfl asks.unfinished asks.going.unfinished
  | respond task t phase known hears =>
    exact (flight.setPhase known rfl hears.unfinished hears.going.unfinished).enqueue (by simp)
  | await task t runs left known fresh shutdown => exact flight.setPhase known fresh rfl rfl
  | drain task t runs left fewer cancelled known waiting =>
    exact flight.setPhase known waiting rfl rfl
  | drained task t runs left cancelled result known waiting =>
    exact (flight.setPhase known waiting rfl rfl).enqueue (by simp)
  | relay run waiter joined t u result queued known waiting inFlight ended =>
    exact (flight.setPhase known waiting rfl rfl).enqueue (by simp)
  | finish task t result known ready =>
    exact flight.finish known (Task.result?_of_mayEnd ready) result
  | record task t file generation known run unfinished => exact { flight with }
  | forget file => exact { flight with }
  | write file document => exact { flight with }
  | discard file => exact { flight with }
  | settle file run queued pending => exact flight.settle queued pending

/-- A turn keeps the runs in order. -/
theorem turn {desk' : Desk} (turned : Turn desk desk') : Flight desk' := by
  cases turned with
  | move moved => exact flight.move moved
  | ask job other => exact flight.spawn other
  | drop work rest first spent => exact flight.drop first spent

end Flight

end PredicateIndex.Pipeline
