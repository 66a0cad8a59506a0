import PredicateIndex.Proofs.Pipeline.Advance
import PredicateIndex.Proofs.Pipeline.Flight
import PredicateIndex.Proofs.Pipeline.Moves

/-!
# The course of a run

A run asks for the settings of its own file, calls the analyzer with it, waits for the answers and
ends; it joins nothing and waits for no other run. It has a generation of its own that is newer than
what is recorded for its file until it records it, so its index never comes too late.
-/
namespace PredicateIndex.Pipeline

/-- The phases that a run of a file goes through. -/
def Phase.OfRun (file : String) : Phase → Prop
  | .fresh | .ended _ => True
  | .asking analyzed .. | .informed analyzed .. => analyzed = file
  | .calling call | .answered call => call.file = file
  | _ => False

/-- Every run is in a phase of a run. -/
def RunsInPhase (desk : Desk) : Prop :=
  ∀ (k : TaskId) (t : Task) (file : String), desk.tasks[k]? = some t → t.IsRunOf file →
    t.phase.OfRun file

/-- The step of a run leads to a phase of a run. -/
theorem Onward.ofRun {desk : Desk} {k : TaskId} {file : String} {generation : Option Int}
    {before after : Phase} (step : Onward desk k (.run file generation) before after)
    (course : before.OfRun file) : after.OfRun file := by
  cases step with
  | stay => exact course
  | call _ _ asks =>
    cases asks with
    | provider _ _ _ own | analyzer _ own =>
      obtain ⟨_, same⟩ | same := own
      · cases same
        rfl
      · cases same
    | informed _ _ _ _ _ same => exact same.trans course
  | respond _ _ hears => cases hears <;> exact course
  | join _ _ lookup => cases lookup
  | await _ _ shutdown => cases shutdown
  | drain | drained | relay => exact course.elim
  | finish => trivial

/-- A turn keeps every run in a phase of a run. -/
theorem RunsInPhase.turn {desk desk' : Desk} (course : RunsInPhase desk)
    (turned : Turn desk desk') : RunsInPhase desk' := by
  intro k u file found isRun
  rcases turned.origin found with ⟨t, known, advance⟩ | ⟨fresh, -⟩
  · obtain ⟨generation, job⟩ := isRun
    have before : t.job = .run file generation := advance.job.symm.trans job
    have step := advance.phase
    rw [before] at step
    exact step.ofRun (course k t file known ⟨generation, before⟩)
  · rw [fresh]
    trivial

/-- A task that has asked for settings is about the file that it has asked about. -/
def Phase.OfAsker (job : Job) : Phase → Prop
  | .asking file .. | .informed file .. => job.IsAbout file
  | _ => True

/-- Every task has asked about its own file. -/
def AsksApart (desk : Desk) : Prop :=
  ∀ (k : TaskId) (t : Task), desk.tasks[k]? = some t → t.phase.OfAsker t.job

/-- The step of a task asks about its own file. -/
theorem Onward.ofAsker {desk : Desk} {k : TaskId} {job : Job} {before after : Phase}
    (step : Onward desk k job before after) (apart : before.OfAsker job) : after.OfAsker job := by
  cases step with
  | stay => exact apart
  | call _ _ asks =>
    cases asks with
    | provider _ _ _ own => exact own
    | analyzer | informed => trivial
  | respond _ _ hears =>
    cases hears with
    | settings => exact apart
    | reply => trivial
  | join | await | drain | drained | relay | finish => trivial

/-- A turn leaves every task to ask about its own file. -/
theorem AsksApart.turn {desk desk' : Desk} (apart : AsksApart desk) (turned : Turn desk desk') :
    AsksApart desk' := by
  intro k u found
  rcases turned.origin found with ⟨t, known, advance⟩ | ⟨fresh, -⟩
  · rw [advance.job]
    exact advance.phase.ofAsker (apart k t known)
  · rw [fresh]
    trivial

/-- How the generations of runs and the recorded ones stand to each other. -/
structure Dated (desk : Desk) : Prop where
  /-- A run has a generation that was given out. -/
  given {k : TaskId} {t : Task} {file : String} {generation : Option Int} :
    desk.tasks[k]? = some t → t.job = .run file generation →
    ∃ number, generation = some number ∧ number < desk.next
  /-- A recorded generation was given out. -/
  recorded {file : String} {number : Int} : desk.generations.get? file = some number →
    number < desk.next
  /-- Nothing newer than a run that has not ended is recorded for its file. -/
  newest {k : TaskId} {t : Task} {file : String} {number recorded : Int} :
    desk.tasks[k]? = some t → t.job = .run file (some number) → t.result? = none →
    desk.generations.get? file = some recorded → recorded ≤ number

/-- A turn that gives out no generation keeps the order if it keeps it among the recorded ones. -/
theorem Dated.of_same_next {desk desk' : Desk} (dated : Dated desk) (turned : Turn desk desk')
    (next : desk'.next = desk.next)
    (recorded : ∀ {file : String} {number : Int}, desk'.generations.get? file = some number →
      number < desk.next)
    (newest : ∀ {k : TaskId} {t : Task} {file : String} {number recorded : Int},
      desk.tasks[k]? = some t → t.job = .run file (some number) → t.result? = none →
      desk'.generations.get? file = some recorded → recorded ≤ number) : Dated desk' := by
  have known : ∀ {k : TaskId} {u : Task} {file : String} {generation : Option Int},
      desk'.tasks[k]? = some u → u.job = .run file generation →
      ∃ t, desk.tasks[k]? = some t ∧ t.job = .run file generation ∧
        (u.result? = none → t.result? = none) := by
    intro k u file generation found job
    rcases turned.origin found with ⟨t, known, advance⟩ | ⟨-, created⟩
    · exact ⟨t, known, advance.job.symm.trans job, advance.unfinished⟩
    · have given := (created file generation job).2
      omega
  constructor
  · intro k u file generation found job
    obtain ⟨t, found, job, -⟩ := known found job
    rw [next]
    exact dated.given found job
  · intro file number listed
    rw [next]
    exact recorded listed
  · intro k u file number older found job unfinished listed
    obtain ⟨t, found, job, before⟩ := known found job
    exact newest found job (before unfinished) listed

/-- A turn keeps the generations in order. -/
theorem Dated.turn {desk desk' : Desk} (dated : Dated desk) (flight : Flight desk)
    (turned : Turn desk desk') : Dated desk' := by
  have quiet : desk'.next = desk.next → desk'.generations = desk.generations → Dated desk' := by
    intro next generations
    exact dated.of_same_next turned next (generations ▸ dated.recorded) (generations ▸ dated.newest)
  have step := turned
  cases turned with
  | drop | ask => exact quiet rfl rfl
  | move moved =>
    cases moved with
    | start file idle =>
      have known : ∀ {k : TaskId} {u : Task} {other : String} {generation : Option Int},
          (desk.start file).tasks[k]? = some u → u.job = .run other generation →
          (desk.tasks[k]? = some u ∨ generation = some desk.next) := by
        intro k u other generation found job
        rcases desk.of_tasks_spawn found with known | ⟨-, rfl⟩
        · exact .inl known
        · cases job
          exact .inr rfl
      have next : (desk.start file).next = desk.next + 1 := rfl
      constructor
      · intro k u other generation found job
        rcases known found job with found | rfl
        · obtain ⟨number, given, bound⟩ := dated.given found job
          exact ⟨number, given, by omega⟩
        · exact ⟨desk.next, rfl, by omega⟩
      · intro other number listed
        have bound := dated.recorded listed
        omega
      · intro k u other number older found job unfinished listed
        rcases known found job with found | given
        · exact dated.newest found job unfinished listed
        · have bound := dated.recorded listed
          cases given
          omega
    | record task t file generation known run unfinished =>
      have recorded : ∀ other, (desk.generations.put file generation).get? other =
          if file = other then some generation else desk.generations.get? other :=
        fun other => Ledger.get?_put _ _ _ _
      refine dated.of_same_next step rfl ?_ ?_
      · intro other number listed
        rw [recorded] at listed
        split at listed
        · cases listed
          obtain ⟨number, given, bound⟩ := dated.given known run
          cases given
          exact bound
        · exact dated.recorded listed
      · intro k u other number older found job going listed
        rw [recorded] at listed
        split at listed
        · rename_i same
          subst same
          -- the run that records is the one run of the file that has not ended
          have one := flight.pending known ⟨_, run⟩ unfinished
          have two := flight.pending found ⟨_, job⟩ going
          obtain rfl : task = k := Option.some.inj (one.symm.trans two)
          obtain rfl : t = u := Option.some.inj (known.symm.trans found)
          cases listed
          cases run.symm.trans job
          exact Int.le_refl _
        · exact dated.newest found job going listed
    | forget file =>
      have before : ∀ {other : String} {number : Int},
          (desk.generations.remove file).get? other = some number →
          desk.generations.get? other = some number := by
        intro other number listed
        rw [Ledger.get?_remove] at listed
        split at listed
        · cases listed
        · exact listed
      exact dated.of_same_next step rfl (fun listed => dated.recorded (before listed))
        fun found job going listed => dated.newest found job going (before listed)
    | _ => exact quiet rfl rfl

/-- A turn keeps one document for each file. -/
theorem Turn.nodup_documents {desk desk' : Desk} (turned : Turn desk desk')
    (distinct : desk.documents.keys.Nodup) : desk'.documents.keys.Nodup := by
  cases turned with
  | drop | ask => exact distinct
  | move moved =>
    cases moved with
    | write file document => exact Ledger.nodup_keys_put distinct file document
    | discard file => exact Ledger.nodup_keys_remove distinct file
    | _ => exact distinct

/-- What is known of a desk that was reached by turns. -/
structure Orderly (desk : Desk) : Prop where
  /-- A file has one document. -/
  documents : desk.documents.keys.Nodup
  /-- The run in flight of a file is its one run that has not ended. -/
  flight : Flight desk
  /-- Every run is in a phase of a run. -/
  course : RunsInPhase desk
  /-- Every task has asked about its own file. -/
  apart : AsksApart desk
  /-- The generations are in order. -/
  dated : Dated desk

/-- A turn keeps a desk orderly. -/
theorem Orderly.turn {desk desk' : Desk} (orderly : Orderly desk) (turned : Turn desk desk') :
    Orderly desk' :=
  ⟨turned.nodup_documents orderly.documents, orderly.flight.turn turned,
    orderly.course.turn turned, orderly.apart.turn turned,
    orderly.dated.turn orderly.flight turned⟩

/-- Turns keep a desk orderly. -/
theorem Orderly.turns {desk desk' : Desk} (orderly : Orderly desk) (turns : Turns desk desk') :
    Orderly desk' :=
  Turns.keep Orderly (fun orderly turned => orderly.turn turned) turns orderly

namespace State

/-- The pipeline with nothing open is orderly. -/
theorem orderly_initial (provider : SettingsProvider) (delay : Nat) :
    Orderly ((initial provider delay).desk []) := by
  refine ⟨by simp [initial, desk, Ledger.keys], ?_, ?_, ?_, ?_⟩
  · constructor <;> simp [initial, desk]
  · intro k t file found
    simp [initial, desk] at found
  · intro k t found
    simp [initial, desk] at found
  · constructor <;> simp [initial, desk, Cache.empty]

/-- Every interleaving of scheduled actions leaves the pipeline orderly. -/
theorem orderly_play {state : State} (orderly : Orderly (state.desk [])) {actions : List Action}
    (scheduled : ∀ action ∈ actions, action.Scheduled) :
    Orderly ((state.play actions).desk []) :=
  orderly.turns (turns_play state scheduled)

end State

end PredicateIndex.Pipeline
