import PredicateIndex.Proofs.Pipeline.Requests
import PredicateIndex.Proofs.Pipeline.SingleFlight

/-!
# Tasks that are ready take their step

A task that can end in its next step has this step queued: it has not begun, or the provider or the
analyzer has an answer for it, or it was told to end. So every task comes to wait for something or
to its end if only the work is done. A run waits for nothing but the provider and the analyzer; it
is told to end only if it is cancelled. This holds whatever is done: runs may be started by hand and tasks may be cancelled.
-/
namespace PredicateIndex.Pipeline

/-- Every task that may end in its next step has the step queued. -/
def Prompt (desk : Desk) : Prop :=
  ∀ (k : TaskId) (t : Task) (result : Result), desk.tasks[k]? = some t → t.phase.MayEnd result →
    .step k ∈ desk.queue

/-- The phases of a run of a file that may be cancelled. -/
def Phase.OfCancellable (file : String) (phase : Phase) : Prop :=
  phase.OfRun file ∨ phase = .ending .cancelled

/-- Every run is in a phase of a run or was cancelled. -/
def RunsApart (desk : Desk) : Prop :=
  ∀ (k : TaskId) (t : Task) (file : String), desk.tasks[k]? = some t → t.IsRunOf file →
    t.phase.OfCancellable file

namespace Prompt

variable {desk desk' : Desk}

/-- Work may come up and tasks may change, as long as no task becomes ready without its step. -/
theorem touch (prompt : Prompt desk) (queue : ∀ work ∈ desk.queue, work ∈ desk'.queue)
    (tasks : ∀ (k : TaskId) (u : Task) (result : Result), desk'.tasks[k]? = some u →
      u.phase.MayEnd result → .step k ∈ desk'.queue ∨
        ∃ t, desk.tasks[k]? = some t ∧ t.phase.MayEnd result) : Prompt desk' := by
  intro k u result found ready
  rcases tasks k u result found ready with queued | ⟨t, known, before⟩
  · exact queued
  · exact queue _ (prompt k t result known before)

/-- A task may be moved to a phase if its step is queued where it may end. -/
theorem setPhase (prompt : Prompt desk) {task : TaskId} {phase : Phase}
    (tasks : desk'.tasks = (desk.setPhase task phase).tasks)
    (queue : ∀ work ∈ desk.queue, work ∈ desk'.queue)
    (queued : ∀ result, phase.MayEnd result → .step task ∈ desk'.queue) : Prompt desk' := by
  refine prompt.touch queue fun k u result found ready => ?_
  rw [tasks, Desk.tasks_setPhase, Option.map_eq_some_iff] at found
  obtain ⟨t, known, rfl⟩ := found
  by_cases same : task = k
  · subst same
    rw [if_pos rfl] at ready
    exact .inl (queued result ready)
  · rw [if_neg same] at ready
    exact .inr ⟨t, known, ready⟩

/-- Listening makes no task ready. -/
theorem addListener (prompt : Prompt desk) (task : TaskId) (work : Work) :
    Prompt (desk.addListener task work) := by
  refine prompt.touch (fun _ => id) fun k u result found ready => .inr ?_
  rw [Desk.tasks_addListener, Option.map_eq_some_iff] at found
  obtain ⟨t, known, rfl⟩ := found
  exact ⟨t, known, ready⟩

/-- A task that is created has its first step queued. -/
theorem spawn (prompt : Prompt desk) (job : Job) (listeners : List Work) :
    Prompt (desk.spawn job listeners) := by
  refine prompt.touch (fun _ => List.mem_append_left _) fun k u result found ready => ?_
  rcases desk.of_tasks_spawn found with known | ⟨rfl, -⟩
  · exact .inr ⟨u, known, ready⟩
  · exact .inl (List.mem_append_right _ List.mem_cons_self)

/-- A turn leaves no task that is ready without its step. -/
theorem turn (prompt : Prompt desk) (turned : Turn desk desk') : Prompt desk' := by
  cases turned with
  | ask job other => exact prompt.spawn job []
  | drop work rest first spent =>
    intro k t result known ready
    have queued := prompt k t result known ready
    rw [first, List.mem_cons] at queued
    rcases queued with rfl | queued
    · exact (spent t result known ready).elim
    · exact queued
  | move moved =>
    have grows : ∀ work ∈ desk.queue, work ∈ desk'.queue := fun work => (moved.queue.subset ·)
    cases moved with
    | start file idle =>
      exact prompt.spawn (.run file (some desk.next)) [.settle file desk.tasks.length]
    | signal | record | forget | settle | write | discard =>
      exact prompt.touch grows fun k u result found ready => .inr ⟨u, found, ready⟩
    | listen task work harmless => exact prompt.addListener task work
    | join waiter run t file known fresh lookup unfinished =>
      exact (prompt.addListener run (.relay run waiter)).setPhase rfl (fun _ => id) fun _ => nofun
    | call task t phase known asks =>
      exact prompt.setPhase rfl grows fun result ready => (asks.waits result ready).elim
    | await | drain => exact prompt.setPhase rfl grows fun _ => nofun
    | respond | drained | relay =>
      exact prompt.setPhase rfl grows fun _ _ => List.mem_append_right _ List.mem_cons_self
    | finish => exact prompt.setPhase rfl grows fun _ => nofun

end Prompt

namespace RunsApart

variable {desk desk' : Desk}

/-- A turn keeps the runs in their phases. -/
theorem turn (apart : RunsApart desk) (turned : Turn desk desk') : RunsApart desk' := by
  intro k u file found isRun
  rcases turned.origin found with ⟨t, known, advance⟩ | ⟨fresh, -⟩
  · obtain ⟨generation, job⟩ := isRun
    have before : t.job = .run file generation := advance.job.symm.trans job
    have step := advance.phase
    rw [before] at step
    rcases apart k t file known ⟨generation, before⟩ with course | cancelled
    · exact .inl (step.ofRun course)
    · rw [cancelled] at step
      generalize u.phase = after at step
      cases step with
      | stay => exact .inr rfl
      | call _ _ asks => cases asks
      | respond _ _ hears => cases hears
      | finish => exact .inl trivial
  · rw [fresh]
    exact .inl trivial

/-- A task that is created has not begun. -/
theorem spawn (apart : RunsApart desk) (job : Job) : RunsApart (desk.spawn job []) := by
  intro k u file found isRun
  rcases desk.of_tasks_spawn found with known | ⟨-, rfl⟩
  · exact apart k u file known isRun
  · exact .inl trivial

/-- A task may be moved to a phase that a run may have, if it is one. -/
theorem setPhase (apart : RunsApart desk) {task : TaskId} {phase : Phase}
    (goes : ∀ (t : Task) (file : String), desk.tasks[task]? = some t → t.IsRunOf file →
      phase.OfCancellable file) : RunsApart (desk.setPhase task phase) := by
  intro k u file found isRun
  rw [Desk.tasks_setPhase, Option.map_eq_some_iff] at found
  obtain ⟨t, known, rfl⟩ := found
  by_cases same : task = k
  · subst same
    rw [if_pos rfl]
    exact goes t file known isRun
  · rw [if_neg same]
    exact apart k t file known isRun

end RunsApart

namespace State

variable {state : State}

/-- Cancelling a task by itself keeps every task prompt and every run in its phases. -/
theorem prompt_cancelStep (prompt : Prompt (state.desk [])) (apart : RunsApart (state.desk []))
    (task : TaskId) :
    Prompt ((state.cancelStep task).desk []) ∧ RunsApart ((state.cancelStep task).desk []) := by
  have runs : RunsApart ((state.setPhase task (.ending .cancelled)).desk []) :=
    apart.setPhase fun _ _ _ _ => .inr rfl
  have woken : Prompt
      (((state.setPhase task (.ending .cancelled)).enqueue (.step task)).desk []) := by
    rw [desk_ending]
    exact prompt.setPhase rfl (fun _ => List.mem_append_left _)
      fun _ _ => List.mem_append_right _ List.mem_cons_self
  have ready : ∀ {before : Phase} (result : Result),
      (state.task? task).map Task.phase = some before → before.MayEnd result →
      Prompt ((state.setPhase task (.ending .cancelled)).desk []) := by
    intro before result at_ ready
    obtain ⟨t, known, rfl⟩ := Option.map_eq_some_iff.mp at_
    exact prompt.setPhase rfl (fun _ => id) fun _ _ => prompt task t result known ready
  rw [cancelStep]
  split
  · exact ⟨woken, runs⟩
  · exact ⟨woken, runs⟩
  · exact ⟨woken, runs⟩
  · rename_i fresh
    exact ⟨ready .cancelled fresh trivial, runs⟩
  · rename_i informed
    exact ⟨ready .cancelled informed trivial, runs⟩
  · rename_i call answered
    exact ⟨ready .cancelled answered trivial, runs⟩
  · rename_i result ending
    exact ⟨ready result ending rfl, runs⟩
  · exact ⟨prompt, apart⟩

/-- A cancellation keeps every task prompt and every run in its phases. -/
theorem prompt_cancel (prompt : Prompt (state.desk [])) (apart : RunsApart (state.desk []))
    (task : TaskId) :
    Prompt ((state.cancel task).2.desk []) ∧ RunsApart ((state.cancel task).2.desk []) := by
  rw [cancel]
  split
  · exact ⟨prompt, apart⟩
  · exact ⟨prompt, apart⟩
  · rename_i runs left cancelled waiting
    obtain ⟨t, known, at_⟩ := Option.map_eq_some_iff.mp waiting
    refine List.foldlRecOn
      (motive := fun s : State => Prompt (s.desk []) ∧ RunsApart (s.desk [])) runs cancelStep
      ⟨prompt.setPhase rfl (fun _ => id) fun _ => False.elim,
        apart.setPhase fun u file found isRun => ?_⟩
      fun s kept run _ => prompt_cancelStep kept.1 kept.2 run
    -- a run waits for no runs
    obtain rfl : t = u := Option.some.inj (known.symm.trans found)
    have phase := apart task t file known isRun
    rw [at_] at phase
    rcases phase with course | ending
    · exact course.elim
    · cases ending
  · exact prompt_cancelStep prompt apart task

/-- Every action keeps every task prompt and every run in its phases. -/
theorem prompt_act (prompt : Prompt (state.desk [])) (apart : RunsApart (state.desk []))
    (action : Action) :
    Prompt ((state.act action).desk []) ∧ RunsApart ((state.act action).desk []) := by
  by_cases scheduled : action.Scheduled
  · exact Turns.keep (fun desk => Prompt desk ∧ RunsApart desk)
      (fun kept turned => ⟨kept.1.turn turned, kept.2.turn turned⟩) (turns_act state scheduled)
      ⟨prompt, apart⟩
  · cases action with
    | ask job => exact ⟨prompt.spawn job [], apart.spawn job⟩
    | cancel task => exact prompt_cancel prompt apart task
    | _ => exact (scheduled trivial).elim

/-- Every interleaving leaves every task prompt and every run in its phases. -/
theorem prompt_play (provider : SettingsProvider) (delay : Nat) (actions : List Action) :
    Prompt (((initial provider delay).play actions).desk []) ∧
      RunsApart (((initial provider delay).play actions).desk []) := by
  refine List.foldlRecOn (motive := fun s : State => Prompt (s.desk []) ∧ RunsApart (s.desk []))
    actions act ⟨?_, ?_⟩ fun s kept action _ => prompt_act kept.1 kept.2 action
  · intro k t result known
    simp [initial, desk] at known
  · intro k t file known
    simp [initial, desk] at known

/-- Every task comes to a phase in which it waits or has ended, if only the work is done. -/
theorem exists_not_mayEnd (prompt : Prompt (state.desk [])) (analyzer : Analyzer) (k : TaskId) :
    ∃ n, ∀ t result, (ticks analyzer n state).task? k = some t → ¬t.phase.MayEnd result := by
  by_cases queued : .step k ∈ state.queue
  · exact exists_spent queued analyzer
  · exact ⟨0, fun t result known ready => queued (prompt k t result known ready)⟩

end State

end PredicateIndex.Pipeline
