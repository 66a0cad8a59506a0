import PredicateIndex.Proofs.Pipeline.Desk

/-!
# How one task goes on

A turn moves at most one task on, from one phase to the next. `Onward` lists the steps that a task
can take and when; `Advance` adds what happens to its work: listeners stay until the task ends and
are queued when it does, and a task that is told to end has its step queued. Work stays in the queue
until it is spent.
-/
namespace PredicateIndex.Pipeline

/-- The steps that a task can take from one phase to the next. -/
inductive Onward (desk : Desk) (task : TaskId) (job : Job) : Phase → Phase → Prop where
  /-- It stays where it is. -/
  | stay (phase : Phase) : Onward desk task job phase phase
  /-- A lookup joins a run. -/
  | join (file : String) (run : TaskId) (lookup : job = .lookup file) :
    Onward desk task job .fresh (.joined run)
  /-- It begins to wait for the provider or the analyzer. -/
  | call (before after : Phase) (asks : before.Asks job after) :
    Onward desk task job before after
  /-- The provider or the analyzer has an answer. -/
  | respond (before after : Phase) (hears : before.Hears after) :
    Onward desk task job before after
  /-- A shutdown waits for runs. -/
  | await (runs : List TaskId) (left : Nat) (shutdown : job = .shutdown) :
    Onward desk task job .fresh (.draining runs left false)
  /-- There are fewer runs to wait for. -/
  | drain (runs : List TaskId) (left fewer : Nat) (cancelled : Bool) :
    Onward desk task job (.draining runs left cancelled) (.draining runs fewer cancelled)
  /-- All runs have been waited for. -/
  | drained (runs : List TaskId) (left : Nat) (cancelled : Bool) (result : Result) :
    Onward desk task job (.draining runs left cancelled) (.ending result)
  /-- The result of a run is passed on. -/
  | relay (run joined : TaskId) (u : Task) (result : Result) (queued : .relay run task ∈ desk.queue)
    (inFlight : desk.tasks[run]? = some u) (ended : u.result? = some result) :
    Onward desk task job (.joined joined) (.ending result)
  /-- It ends. -/
  | finish (phase : Phase) (result : Result) (ready : phase.MayEnd result) :
    Onward desk task job phase (.ended result)

/-- What becomes of a task in a turn. -/
structure Advance (desk desk' : Desk) (task : TaskId) (t u : Task) : Prop where
  /-- The task is still there. -/
  known : desk'.tasks[task]? = some u
  /-- It has the same job. -/
  job : u.job = t.job
  /-- It stays in its phase or takes a step. -/
  phase : Onward desk task t.job t.phase u.phase
  /-- Nothing that is listened for is forgotten. -/
  listeners : ∀ work ∈ t.listeners, work ∈ u.listeners
  /-- If it is told to end, its step is queued. -/
  told : ∀ result, u.phase = .ending result → t.phase = .ending result ∨ .step task ∈ desk'.queue
  /-- If it ends, its listeners are queued. -/
  ends : ∀ result, u.phase = .ended result → t.phase = .ended result ∨
    ∀ work ∈ t.listeners, work ∈ desk'.queue

namespace Advance

variable {desk desk' : Desk} {task k : TaskId} {t : Task}

/-- A task that is still there as it was has gone on in no way. -/
theorem stay (known : desk'.tasks[k]? = some t) : Advance desk desk' k t t where
  known
  job := rfl
  phase := .stay t.phase
  listeners := fun _ => id
  told := fun _ => .inl
  ends := fun _ => .inl

/-- A task that is moved to a phase takes a step, and every other task stays. -/
theorem of_setPhase {v : Task} {old phase : Phase} (known : desk.tasks[k]? = some t)
    (listed : desk.tasks[task]? = some v) (before : v.phase = old)
    (step : Onward desk task v.job old phase)
    (tasks : desk'.tasks = (desk.setPhase task phase).tasks)
    (told : ∀ result, phase = .ending result → .step task ∈ desk'.queue)
    (ends : ∀ result, phase = .ended result → ∀ work ∈ v.listeners, work ∈ desk'.queue) :
    ∃ u, Advance desk desk' k t u := by
  have found : desk'.tasks[k]? = some { t with phase := if task = k then phase else t.phase } := by
    rw [tasks, Desk.tasks_setPhase, known]
    rfl
  by_cases same : task = k
  · subst same
    obtain rfl : v = t := Option.some.inj (listed.symm.trans known)
    subst before
    rw [if_pos rfl] at found
    exact ⟨_, found, rfl, step, fun _ => id, fun result ending => .inr (told result ending),
      fun result ended => .inr (ends result ended)⟩
  · rw [if_neg same] at found
    exact ⟨t, stay found⟩

/-- More listeners are no step. -/
theorem of_addListener (known : desk.tasks[k]? = some t) (work : Work) :
    ∃ listeners, (desk.addListener task work).tasks[k]? = some { t with listeners } ∧
      ∀ listed ∈ t.listeners, listed ∈ listeners := by
  refine ⟨_, by rw [Desk.tasks_addListener, known]; rfl, fun listed inside => ?_⟩
  split
  · exact List.mem_append_left _ inside
  · exact inside

end Advance

/-- What becomes of a task in a move. -/
theorem Move.advance {desk desk' : Desk} (moved : Move desk desk') {k : TaskId} {t : Task}
    (known : desk.tasks[k]? = some t) : ∃ u, Advance desk desk' k t u := by
  cases moved with
  | start file idle => exact ⟨t, .stay (desk.tasks_spawn_of_known _ _ known)⟩
  | signal work harmless => exact ⟨t, .stay known⟩
  | listen task work harmless =>
    obtain ⟨listeners, found, kept⟩ := Advance.of_addListener known work
    exact ⟨_, found, rfl, .stay _, kept, fun _ => .inl, fun _ => .inl⟩
  | join waiter run v file listed fresh lookup unfinished =>
    obtain ⟨listeners, found, kept⟩ := Advance.of_addListener known (.relay run waiter)
    have joined := (desk.addListener run (.relay run waiter)).tasks_setPhase waiter k (.joined run)
    rw [found, Option.map_some] at joined
    by_cases same : waiter = k
    · subst same
      obtain rfl : v = t := Option.some.inj (listed.symm.trans known)
      rw [if_pos rfl] at joined
      exact ⟨_, joined, rfl, fresh ▸ .join file run lookup, kept, by simp, by simp⟩
    · rw [if_neg same] at joined
      exact ⟨_, joined, rfl, .stay _, kept, fun _ => .inl, fun _ => .inl⟩
  | call task v phase listed asks =>
    have going := asks.going
    exact Advance.of_setPhase known listed rfl (.call _ _ asks) rfl
      (fun _ ending => (going.not_told _ ending).elim) fun _ ended => (going.not_ended _ ended).elim
  | respond task v phase listed hears =>
    have going := hears.going
    exact Advance.of_setPhase known listed rfl (.respond _ _ hears) rfl
      (fun _ ending => (going.not_told _ ending).elim) fun _ ended => (going.not_ended _ ended).elim
  | await task v runs left listed fresh shutdown =>
    exact Advance.of_setPhase known listed fresh (.await runs left shutdown) rfl (by simp) (by simp)
  | drain task v runs left fewer cancelled listed waiting =>
    exact Advance.of_setPhase known listed waiting (.drain runs left fewer cancelled) rfl (by simp)
      (by simp)
  | drained task v runs left cancelled result listed waiting =>
    exact Advance.of_setPhase known listed waiting (.drained runs left cancelled result) rfl
      (by simp [Desk.enqueue]) (by simp)
  | relay run waiter joined v u result queued listed waiting inFlight ended =>
    exact Advance.of_setPhase known listed waiting
      (.relay run joined u result queued inFlight ended) rfl (by simp [Desk.enqueue]) (by simp)
  | finish task v result listed ready =>
    exact Advance.of_setPhase known listed rfl (.finish _ result ready) rfl (by simp)
      fun _ _ work inside => by simp [Desk.finish, listed, inside]
  | record task v file generation listed run unfinished => exact ⟨t, .stay known⟩
  | forget file => exact ⟨t, .stay known⟩
  | write file document => exact ⟨t, .stay known⟩
  | discard file => exact ⟨t, .stay known⟩
  | settle file run queued pending => exact ⟨t, .stay known⟩

/-- What becomes of a task in a turn. -/
theorem Turn.advance {desk desk' : Desk} (turned : Turn desk desk') {k : TaskId} {t : Task}
    (known : desk.tasks[k]? = some t) : ∃ u, Advance desk desk' k t u := by
  cases turned with
  | move moved => exact moved.advance known
  | ask job other => exact ⟨t, .stay (desk.tasks_spawn_of_known _ _ known)⟩
  | drop work rest first spent => exact ⟨t, .stay known⟩

/-- A move only adds to the queue. -/
theorem Move.queue {desk desk' : Desk} (moved : Move desk desk') : desk.queue <+: desk'.queue := by
  cases moved with
  | listen | call | await | drain | record | forget | settle | join | write | discard =>
    exact List.prefix_refl _
  | start | signal | respond | drained | relay | finish => exact List.prefix_append _ _

/-- Moves only add to the queue. -/
theorem Moves.queue {desk desk' : Desk} (moves : Moves desk desk') :
    desk.queue <+: desk'.queue := by
  induction moves with
  | refl => exact List.prefix_refl _
  | tail _ moved ih => exact ih.trans moved.queue

/-- Work stays in the queue until it is spent. -/
theorem Turn.queue {desk desk' : Desk} (turned : Turn desk desk') {work : Work}
    (queued : work ∈ desk.queue) : work ∈ desk'.queue ∨ desk'.Spent work := by
  cases turned with
  | move moved => exact .inl (moved.queue.subset queued)
  | ask job other => exact .inl (List.mem_append_left _ queued)
  | drop first rest split spent =>
    rw [split, List.mem_cons] at queued
    rcases queued with rfl | queued
    · cases work <;> exact .inr spent
    · exact .inl queued

/-- A task that has ended keeps its result. -/
theorem Turn.result? {desk desk' : Desk} (turned : Turn desk desk') {k : TaskId} {t : Task}
    {result : Result} (known : desk.tasks[k]? = some t) (ended : t.phase = .ended result) :
    ∃ u, desk'.tasks[k]? = some u ∧ u.job = t.job ∧ u.phase = .ended result := by
  obtain ⟨u, known, job, phase, -, -, -⟩ := turned.advance known
  refine ⟨u, known, job, ?_⟩
  rw [ended] at phase
  generalize at_ : u.phase = after at phase
  cases phase with
  | stay => rfl
  | call _ _ asks => cases asks
  | respond _ _ hears => cases hears
  | finish _ other ready => exact ready.elim

/-- A task that has not ended had not ended before. -/
theorem Advance.unfinished {desk desk' : Desk} {k : TaskId} {t u : Task}
    (advance : Advance desk desk' k t u) (going : u.result? = none) : t.result? = none := by
  have phase := advance.phase
  rw [Task.result?_eq] at going ⊢
  generalize t.phase = before at phase ⊢
  generalize u.phase = after at phase going
  cases phase with
  | stay => exact going
  | finish => cases going
  | call _ _ asks => exact asks.unfinished
  | respond _ _ hears => exact hears.unfinished
  | join | await | drain | drained | relay => rfl

/-- A task was there before, or was just created; a run is created under the next generation. -/
theorem Turn.origin {desk desk' : Desk} (turned : Turn desk desk') {k : TaskId} {u : Task}
    (found : desk'.tasks[k]? = some u) : (∃ t, desk.tasks[k]? = some t ∧ Advance desk desk' k t u) ∨
      u.phase = .fresh ∧ ∀ file generation, u.job = .run file generation →
        generation = some desk.next ∧ desk'.next = desk.next + 1 := by
  cases before : desk.tasks[k]? with
  | some t =>
    obtain ⟨v, advance⟩ := turned.advance before
    obtain rfl : v = u := Option.some.inj (advance.known.symm.trans found)
    exact .inl ⟨t, rfl, advance⟩
  | none =>
    right
    cases turned with
    | drop => simp [before] at found
    | ask job other =>
      rcases desk.of_tasks_spawn found with known | ⟨-, rfl⟩
      · cases before.symm.trans known
      · exact ⟨rfl, fun file generation run => (other file generation run).elim⟩
    | move moved =>
      cases moved with
      | start file idle =>
        rcases desk.of_tasks_spawn found with known | ⟨-, rfl⟩
        · cases before.symm.trans known
        · refine ⟨rfl, fun other generation job => ?_⟩
          cases job
          exact ⟨rfl, rfl⟩
      | signal | record | forget | settle | write | discard =>
        simp [Desk.enqueue, before] at found
      | listen => simp [Desk.tasks_addListener, before] at found
      | join => simp [Desk.tasks_setPhase, Desk.tasks_addListener, before] at found
      | respond | drained | relay =>
        simp [Desk.enqueue, Desk.tasks_setPhase, before] at found
      | call | await | drain => simp [Desk.tasks_setPhase, before] at found
      | finish => simp [Desk.finish, Desk.tasks_setPhase, before] at found

end PredicateIndex.Pipeline
