import PredicateIndex.Proofs.Pipeline.Requests

/-!
# Runs that come in time

The index of a run comes too late if a newer generation is recorded for its file. Generations are
given out in order, so a file whose runs were all given theirs by the pipeline has no such run,
whatever else is done: other files may have runs under any generation, runs without one may be
started by hand, and tasks may be cancelled.
-/
namespace PredicateIndex.Pipeline

/-- Whether an action starts a run of a file by hand and under a generation of its own. -/
def Action.Dates (file : String) : Action → Prop
  | .ask (.run asked (some _)) => asked = file
  | _ => False

/-- How the generations of the runs of a file and the one recorded for it stand to each other. -/
structure Punctual (file : String) (desk : Desk) : Prop where
  /-- The generation of a run was given out. -/
  given {k : TaskId} {t : Task} {number : Int} : desk.tasks[k]? = some t →
    t.job = .run file (some number) → number < desk.next
  /-- The recorded generation was given out. -/
  recorded {number : Int} : desk.generations.get? file = some number → number < desk.next
  /-- A run with a generation is in flight until it ends. -/
  inFlight {k : TaskId} {t : Task} {number : Int} : desk.tasks[k]? = some t →
    t.job = .run file (some number) → t.result? = none → desk.pending.get? file = some k
  /-- Nothing newer than a run that has not ended is recorded. -/
  newest {k : TaskId} {t : Task} {number older : Int} : desk.tasks[k]? = some t →
    t.job = .run file (some number) → t.result? = none →
    desk.generations.get? file = some older → older ≤ number

namespace Punctual

variable {file : String} {desk desk' : Desk}

/-- Where no generation is given out, the order is kept if it is among the recorded ones and if the
runs that have not ended stay in flight. -/
theorem touch (punctual : Punctual file desk) (next : desk'.next = desk.next)
    (known : ∀ {k : TaskId} {u : Task} {number : Int}, desk'.tasks[k]? = some u →
      u.job = .run file (some number) → ∃ t : Task, desk.tasks[k]? = some t ∧
        t.job = .run file (some number) ∧ (u.result? = none → t.result? = none))
    (recorded : ∀ {number : Int}, desk'.generations.get? file = some number →
      desk.generations.get? file = some number ∨ number < desk.next ∧
        ∀ (k : TaskId) (t : Task) (own : Int), desk.tasks[k]? = some t →
          t.job = .run file (some own) → t.result? = none → number ≤ own)
    (pending : ∀ {k : TaskId} {t : Task}, desk.tasks[k]? = some t → t.result? = none →
      desk.pending.get? file = some k → desk'.pending.get? file = some k) :
    Punctual file desk' := by
  constructor
  · intro k u number found job
    obtain ⟨t, found, job, -⟩ := known found job
    rw [next]
    exact punctual.given found job
  · intro number listed
    rw [next]
    rcases recorded listed with before | ⟨given, -⟩
    · exact punctual.recorded before
    · exact given
  · intro k u number found job unfinished
    obtain ⟨t, found, job, before⟩ := known found job
    exact pending found (before unfinished) (punctual.inFlight found job (before unfinished))
  · intro k u number older found job unfinished listed
    obtain ⟨t, found, job, before⟩ := known found job
    rcases recorded listed with listed | ⟨-, bound⟩
    · exact punctual.newest found job (before unfinished) listed
    · exact bound k t number found job (before unfinished)

/-- A run that is started is in flight under the newest generation. -/
theorem start (punctual : Punctual file desk) {started : String}
    (idle : desk.pending.get? started = none) : Punctual file (desk.start started) := by
  have known : ∀ {k : TaskId} {u : Task} {number : Int},
      (desk.start started).tasks[k]? = some u → u.job = .run file (some number) →
      desk.tasks[k]? = some u ∨ started = file ∧ k = desk.tasks.length ∧ number = desk.next := by
    intro k u number found job
    rcases desk.of_tasks_spawn found with known | ⟨rfl, rfl⟩
    · exact .inl known
    · cases job
      exact .inr ⟨rfl, rfl, rfl⟩
  have pending : (desk.start started).pending.get? file =
      if started = file then some desk.tasks.length else desk.pending.get? file :=
    Ledger.get?_put _ _ _ _
  have next : (desk.start started).next = desk.next + 1 := rfl
  constructor
  · intro k u number found job
    rcases known found job with found | ⟨-, -, rfl⟩
    · have bound := punctual.given found job
      omega
    · omega
  · intro number listed
    have bound := punctual.recorded listed
    omega
  · intro k u number found job unfinished
    rw [pending]
    rcases known found job with found | ⟨same, rfl, -⟩
    · have before := punctual.inFlight found job unfinished
      rw [if_neg]
      · exact before
      · rintro rfl
        cases idle.symm.trans before
    · rw [if_pos same]
  · intro k u number older found job unfinished listed
    rcases known found job with found | ⟨-, -, rfl⟩
    · exact punctual.newest found job unfinished listed
    · have bound := punctual.recorded listed
      omega

/-- A turn keeps the runs of a file in time. -/
theorem turn (punctual : Punctual file desk) (moored : Moored desk) (turned : Turn desk desk') :
    Punctual file desk' := by
  have quiet : desk'.next = desk.next →
      (∀ {number : Int}, desk'.generations.get? file = some number →
        desk.generations.get? file = some number ∨ number < desk.next ∧
          ∀ (k : TaskId) (t : Task) (own : Int), desk.tasks[k]? = some t →
            t.job = .run file (some own) → t.result? = none → number ≤ own) →
      (∀ {k : TaskId} {t : Task}, desk.tasks[k]? = some t → t.result? = none →
        desk.pending.get? file = some k → desk'.pending.get? file = some k) →
      Punctual file desk' := by
    intro next recorded pending
    refine punctual.touch next (fun {k u number} found job => ?_) recorded pending
    rcases turned.origin found with ⟨t, known, advance⟩ | ⟨-, created⟩
    · exact ⟨t, known, advance.job.symm.trans job, advance.unfinished⟩
    · have given := (created file _ job).2
      omega
  cases turned with
  | ask | drop => exact quiet rfl .inl fun _ _ => id
  | move moved =>
    cases moved with
    | start started idle => exact punctual.start idle
    | settle settled run queued pending =>
      refine quiet rfl .inl fun {k t} known unfinished inFlight => ?_
      rw [Ledger.get?_remove_ne]
      · exact inFlight
      · rintro rfl
        obtain rfl : run = k := Option.some.inj (pending.symm.trans inFlight)
        obtain ⟨u, found, ended⟩ := moored.ended queued
        obtain rfl : t = u := Option.some.inj (known.symm.trans found)
        simp [unfinished] at ended
    | record task t analyzed generation known run unfinished =>
      refine quiet rfl (fun {number} listed => ?_) fun _ _ => id
      by_cases same : analyzed = file
      · subst same
        obtain rfl : generation = number := by simpa using listed
        refine .inr ⟨punctual.given known run, fun k u own found job going => ?_⟩
        -- the run that records is the one run with a generation that has not ended
        have one := punctual.inFlight known run unfinished
        have two := punctual.inFlight found job going
        obtain rfl : task = k := Option.some.inj (one.symm.trans two)
        obtain rfl : t = u := Option.some.inj (known.symm.trans found)
        cases run.symm.trans job
        exact Int.le_refl _
      · rw [Ledger.get?_put_ne _ same] at listed
        exact .inl listed
    | forget dropped =>
      refine quiet rfl (fun {number} listed => ?_) fun _ _ => id
      rw [Ledger.get?_remove] at listed
      split at listed
      · cases listed
      · exact .inl listed
    | _ => exact quiet rfl .inl fun _ _ => id

/-- A task that has not ended may be moved to any phase. -/
theorem setPhase (punctual : Punctual file desk) {task : TaskId} {t : Task} {phase : Phase}
    (known : desk.tasks[task]? = some t) (unfinished : t.result? = none) :
    Punctual file (desk.setPhase task phase) := by
  refine punctual.touch rfl (fun {k u number} found job => ?_) .inl fun _ _ => id
  rw [Desk.tasks_setPhase, Option.map_eq_some_iff] at found
  obtain ⟨v, found, rfl⟩ := found
  refine ⟨v, found, job, fun going => ?_⟩
  by_cases same : task = k
  · subst same
    obtain rfl : t = v := Option.some.inj (known.symm.trans found)
    exact unfinished
  · simpa [Task.result?, same] using going

/-- A step may be queued. -/
theorem enqueue_step (punctual : Punctual file desk) (task : TaskId) :
    Punctual file (desk.enqueue (.step task)) :=
  ⟨punctual.given, punctual.recorded, punctual.inFlight, punctual.newest⟩

/-- A task may be created that is no run of the file with a generation. -/
theorem ask (punctual : Punctual file desk) {job : Job}
    (undated : ∀ number, job ≠ .run file (some number)) : Punctual file (desk.spawn job []) := by
  refine punctual.touch rfl (fun {k u number} found run => ?_) .inl fun _ _ => id
  rcases desk.of_tasks_spawn found with known | ⟨-, rfl⟩
  · exact ⟨u, known, run, id⟩
  · exact (undated number run).elim

/-- A run that has not ended installs its index in time. -/
theorem timely {state : State} (punctual : Punctual file (state.desk [])) {task : TaskId} {t : Task}
    {generation : Option Int} (known : state.task? task = some t)
    (job : t.job = .run file generation) (unfinished : t.result? = none) :
    state.cache.isStale file generation = false := by
  unfold Cache.isStale
  split
  · rename_i offered recorded _ listed
    have bound := punctual.newest known job unfinished listed
    rw [decide_eq_false_iff_not]
    omega
  · rfl

end Punctual

namespace State

variable {state : State} {file : String}

/-- A cancellation keeps the runs of a file in time. -/
theorem punctual_cancel (punctual : Punctual file (state.desk [])) (task : TaskId) :
    Punctual file ((state.cancel task).2.desk []) :=
  keep_cancel state (Punctual file)
    (fun punctual known unfinished _ => punctual.setPhase known unfinished)
    (fun id punctual => punctual.enqueue_step id) punctual task

/-- Every action that gives the file no generation keeps its runs in time. -/
theorem punctual_act (punctual : Punctual file (state.desk [])) (moored : Moored (state.desk []))
    {action : Action} (undated : ¬action.Dates file) :
    Punctual file ((state.act action).desk []) := by
  by_cases scheduled : action.Scheduled
  · exact (Turns.keep (fun desk => Punctual file desk ∧ Moored desk)
      (fun kept turned => ⟨kept.1.turn kept.2 turned, kept.2.turn turned⟩)
      (turns_act state scheduled) ⟨punctual, moored⟩).1
  · cases action with
    | ask job =>
      refine punctual.ask fun number dated => undated ?_
      subst dated
      rfl
    | cancel task => exact punctual_cancel punctual task
    | _ => exact (scheduled trivial).elim

/-- A pipeline with nothing open has its runs in time. -/
theorem punctual_initial (provider : SettingsProvider) (delay : Nat) :
    Punctual file ((initial provider delay).desk []) := by
  constructor <;> simp [initial, desk, Cache.empty]

end State

end PredicateIndex.Pipeline
