import PredicateIndex.Proofs.Pipeline.Effect

/-!
# The last run of a file

A task keeps its job, and new tasks come after the old ones. So a run of a file is the last one for
as long as no other is started, and the run in flight of a file is always its last one. A shutdown
is a task that was asked for; where none was, no waiting request is dropped without an analysis.
-/
namespace PredicateIndex.Pipeline

/-- The jobs of all tasks. -/
def Desk.jobs (desk : Desk) : List Job := desk.tasks.map Task.job

/-- A move leaves the jobs of all tasks and adds runs at most. -/
theorem Move.jobs {desk desk' : Desk} (moved : Move desk desk') : ∃ new,
    desk'.jobs = desk.jobs ++ new ∧ ∀ job ∈ new, ∃ file generation, job = .run file generation := by
  have same : desk'.jobs = desk.jobs → ∃ new, desk'.jobs = desk.jobs ++ new ∧
      ∀ job ∈ new, ∃ file generation, job = .run file generation :=
    fun jobs => ⟨[], by simp [jobs], by simp⟩
  cases moved with
  | start file idle =>
    exact ⟨[.run file (some desk.next)], by simp [Desk.jobs, Desk.start, Desk.spawn], by simp⟩
  | signal | record | forget | settle | write | discard => exact same rfl
  | listen | call | respond | await | drain | drained | relay | finish =>
    exact same (State.jobs_modify _ _ fun _ => rfl)
  | join waiter run =>
    have joined : ((desk.addListener run (.relay run waiter)).setPhase waiter (.joined run)).jobs =
        (desk.addListener run (.relay run waiter)).jobs := State.jobs_modify _ _ fun _ => rfl
    exact same (joined.trans (State.jobs_modify _ _ fun _ => rfl))

/-- Moves leave the jobs of all tasks and add runs at most. -/
theorem Moves.jobs {desk desk' : Desk} (moves : Moves desk desk') : ∃ new,
    desk'.jobs = desk.jobs ++ new ∧ ∀ job ∈ new, ∃ file generation, job = .run file generation := by
  induction moves with
  | refl => exact ⟨[], by simp, by simp⟩
  | tail _ moved ih =>
    obtain ⟨new, jobs, runs⟩ := ih
    obtain ⟨more, jobs', runs'⟩ := moved.jobs
    refine ⟨new ++ more, by rw [jobs', jobs, List.append_assoc], fun job inside => ?_⟩
    rcases List.mem_append.mp inside with inside | inside
    · exact runs job inside
    · exact runs' job inside

namespace State

variable {state : State} {file : String}

/-- A scheduled action leaves the jobs of all tasks and adds runs, or what is asked for. -/
theorem jobs_act (state : State) {action : Action} (scheduled : action.Scheduled) : ∃ new,
    (state.act action).jobs = state.jobs ++ new ∧
      ∀ job ∈ new, (∃ file generation, job = .run file generation) ∨ action = .ask job := by
  have of_moves : ∀ {before after : Desk}, before.jobs = state.jobs → Moves before after →
      ∃ new, after.jobs = state.jobs ++ new ∧
        ∀ job ∈ new, (∃ file generation, job = .run file generation) ∨ action = .ask job := by
    intro before after same moves
    obtain ⟨new, jobs, runs⟩ := moves.jobs
    exact ⟨new, same ▸ jobs, fun job inside => .inl (runs job inside)⟩
  have unchanged : ∃ new, state.jobs = state.jobs ++ new ∧
      ∀ job ∈ new, (∃ file generation, job = .run file generation) ∨ action = .ask job :=
    ⟨[], by simp, by simp⟩
  cases action with
  | event event => exact of_moves rfl (moves_handle state [] event)
  | trigger file => exact of_moves rfl (moves_trigger state [] file)
  | ask job => exact ⟨[job], by simp [act, ask, spawn, State.jobs], by simp⟩
  | cancel task => exact scheduled.elim
  | tick analyzer =>
    simp only [act, tick]
    split
    · exact unchanged
    · rename_i work rest _
      exact of_moves rfl (moves_execute { state with queue := rest } analyzer work).1
  | clock time => exact unchanged
  | alarm file =>
    simp only [act]
    split
    · exact of_moves rfl (moves_fire state [] file)
    · exact unchanged
  | hold file => exact unchanged
  | release file => exact of_moves rfl (moves_release state [] file)
  | respond file task => exact of_moves rfl (moves_letGo state [] file task)
  | provide provider => exact unchanged
  | inform task answer => exact of_moves rfl (moves_inform state [] answer task)

/-- Where no shutdown was asked for, no task is one. -/
theorem shutdown_notMem_jobs_play {actions : List Action}
    (scheduled : ∀ action ∈ actions, action.Scheduled) (running : .ask .shutdown ∉ actions)
    (absent : .shutdown ∉ state.jobs) : .shutdown ∉ (state.play actions).jobs := by
  induction actions generalizing state with
  | nil => exact absent
  | cons action rest ih =>
    rw [List.mem_cons, not_or] at running
    refine ih (fun later inside => scheduled later (by simp [inside])) running.2 ?_
    obtain ⟨new, jobs, asked⟩ := jobs_act state (scheduled action (by simp))
    rw [jobs, List.mem_append, not_or]
    refine ⟨absent, fun inside => ?_⟩
    rcases asked _ inside with ⟨_, _, run⟩ | shutdown
    · cases run
    · exact running.1 shutdown.symm

/-- A task is the last run of a file. -/
structure IsLastRun (state : State) (file : String) (run : TaskId) : Prop where
  /-- It is a run of the file. -/
  isRun : ∃ generation, state.jobs[run]? = some (.run file generation)
  /-- No other run of the file comes after it. -/
  latest {k : TaskId} {generation : Option Int} :
    state.jobs[k]? = some (.run file generation) → k ≤ run

/-- The job of a task by its number. -/
theorem getElem?_jobs (state : State) (task : TaskId) :
    state.jobs[task]? = (state.task? task).map Task.job := List.getElem?_map

/-- The run in flight of a file is its last one. -/
theorem isLastRun_of_pending {hand : List Work} (flight : Flight (state.desk hand)) {run : TaskId}
    (inFlight : state.pending.get? file = some run) : state.IsLastRun file run := by
  obtain ⟨t, known, generation, job⟩ := flight.isRun inFlight
  have found : state.task? run = some t := known
  refine ⟨⟨generation, by rw [getElem?_jobs, found, Option.map_some, job]⟩, ?_⟩
  intro k other listed
  rw [getElem?_jobs, Option.map_eq_some_iff] at listed
  obtain ⟨u, known', job'⟩ := listed
  exact flight.latest inFlight known' ⟨other, job'⟩

/-- A file has one last run. -/
theorem IsLastRun.unique {run other : TaskId} (last : state.IsLastRun file run)
    (last' : state.IsLastRun file other) : run = other := by
  obtain ⟨generation, isRun⟩ := last.isRun
  obtain ⟨generation', isRun'⟩ := last'.isRun
  exact Nat.le_antisymm (last'.latest isRun) (last.latest isRun')

/-- The last run of a file is the last one until another is started. -/
theorem IsLastRun.act {run : TaskId} (last : state.IsLastRun file run) {action : Action}
    (scheduled : action.Scheduled)
    (same : ((state.act action).view file).runs = (state.view file).runs) :
    (state.act action).IsLastRun file run := by
  obtain ⟨new, jobs, -⟩ := jobs_act state scheduled
  have none : new.countP (Job.isRunOf file) = 0 := by
    simp only [view, jobs, List.countP_append] at same
    omega
  rw [List.countP_eq_zero] at none
  obtain ⟨generation, isRun⟩ := last.isRun
  refine ⟨⟨generation, ?_⟩, ?_⟩
  · rw [jobs, List.getElem?_append_left (List.getElem?_eq_some_iff.mp isRun).1]
    exact isRun
  · intro k other listed
    rw [jobs, List.getElem?_append] at listed
    split at listed
    · exact last.latest listed
    · have started := none _ (List.mem_of_getElem? listed)
      simp [Job.isRunOf] at started

end State

end PredicateIndex.Pipeline
