import PredicateIndex.Proofs.Pipeline.Advance

/-!
# Joining a run

A lookup that joins a run listens for its end with a relay. Every relay is for a task that joined
the run of the relay, so the task cannot be told the result of another one. From the moment it
joined, a task waits, is told the result of its run, or has ended with it, and every turn keeps it
on this way.
-/
namespace PredicateIndex.Pipeline

/-- A task has begun, and if it waits for a run, it is one that it may wait for. -/
def Desk.Begun (desk : Desk) (waiter : TaskId) (joinable : TaskId → Prop) : Prop :=
  ∃ t, desk.tasks[waiter]? = some t ∧ t.phase ≠ .fresh ∧
    ∀ joined, t.phase = .joined joined → joinable joined

/-- Every relay is for a task that joined the run of the relay. -/
structure Relays (desk : Desk) : Prop where
  /-- The relays in the queue. -/
  queued {run waiter : TaskId} : .relay run waiter ∈ desk.queue → desk.Begun waiter (· = run)
  /-- The relays that are listened for. -/
  listed {run waiter k : TaskId} {t : Task} : desk.tasks[k]? = some t →
    .relay run waiter ∈ t.listeners → desk.Begun waiter (· = run)

/-- A task that has begun never joins another run. -/
theorem Desk.Begun.turn {desk desk' : Desk} {waiter : TaskId} {joinable : TaskId → Prop}
    (begun : desk.Begun waiter joinable) (turned : Turn desk desk') :
    desk'.Begun waiter joinable := by
  obtain ⟨t, known, begun, waits⟩ := begun
  obtain ⟨u, found, -, phase, -, -, -⟩ := turned.advance known
  refine ⟨u, found, ?_⟩
  generalize t.phase = before at phase begun waits
  generalize u.phase = after at phase ⊢
  cases phase with
  | stay => exact ⟨begun, waits⟩
  | join | await => exact (begun rfl).elim
  | call _ _ asks =>
    exact ⟨asks.going.begun, fun joined waits => (asks.going.not_joined joined waits).elim⟩
  | respond _ _ hears =>
    exact ⟨hears.going.begun, fun joined waits => (hears.going.not_joined joined waits).elim⟩
  | drain | drained | relay | finish => exact ⟨by simp, by simp⟩

/-- A relay in the queue was there before, or was listened for. -/
theorem Move.relay_of_queue {desk desk' : Desk} (moved : Move desk desk') {run waiter : TaskId}
    (queued : .relay run waiter ∈ desk'.queue) : .relay run waiter ∈ desk.queue ∨
      ∃ (k : TaskId) (t : Task), desk.tasks[k]? = some t ∧ .relay run waiter ∈ t.listeners := by
  cases moved with
  | listen | call | await | drain | record | forget | settle | join | write | discard =>
    exact .inl queued
  | start | respond | drained | relay =>
    exact .inl (by simpa [Desk.start, Desk.spawn, Desk.enqueue, Desk.setPhase] using queued)
  | signal work harmless =>
    rcases List.mem_append.mp queued with queued | last
    · exact .inl queued
    · obtain rfl := List.mem_singleton.mp last
      exact harmless.elim
  | finish task t result known ready =>
    simp only [Desk.finish, known, Option.map_some, Option.getD_some, List.mem_append] at queued
    exact queued.imp_right fun listed => ⟨task, t, known, listed⟩

/-- A relay that is listened for was so before, or its task has just joined the run. -/
theorem Move.relay_of_listed {desk desk' : Desk} (moved : Move desk desk') {run waiter k : TaskId}
    {u : Task} (found : desk'.tasks[k]? = some u) (listed : .relay run waiter ∈ u.listeners) :
    (∃ t, desk.tasks[k]? = some t ∧ .relay run waiter ∈ t.listeners) ∨
      desk'.Begun waiter (· = run) := by
  have setPhase : ∀ {task : TaskId} {phase : Phase},
      (desk.setPhase task phase).tasks[k]? = some u →
      ∃ t, desk.tasks[k]? = some t ∧ .relay run waiter ∈ t.listeners := by
    intro task phase found
    rw [Desk.tasks_setPhase, Option.map_eq_some_iff] at found
    obtain ⟨t, known, rfl⟩ := found
    exact ⟨t, known, listed⟩
  have addListener : ∀ {task : TaskId} {work : Work} {v : Task},
      (desk.addListener task work).tasks[k]? = some v → .relay run waiter ∈ v.listeners →
      (∃ t, desk.tasks[k]? = some t ∧ .relay run waiter ∈ t.listeners) ∨
        work = .relay run waiter := by
    intro task work v found listed
    rw [Desk.tasks_addListener, Option.map_eq_some_iff] at found
    obtain ⟨t, known, rfl⟩ := found
    dsimp only at listed
    split at listed
    · rcases List.mem_append.mp listed with listed | last
      · exact .inl ⟨t, known, listed⟩
      · exact .inr (List.mem_singleton.mp last).symm
    · exact .inl ⟨t, known, listed⟩
  cases moved with
  | start file idle =>
    rcases desk.of_tasks_spawn found with known | ⟨-, rfl⟩
    · exact .inl ⟨u, known, listed⟩
    · simp at listed
  | signal | record | forget | settle | write | discard => exact .inl ⟨u, found, listed⟩
  | call | respond | await | drain | drained | relay | finish => exact .inl (setPhase found)
  | listen task work harmless =>
    rcases addListener found listed with before | rfl
    · exact .inl before
    · exact harmless.elim
  | join joining joined v file known fresh lookup unfinished =>
    rw [Desk.tasks_setPhase, Option.map_eq_some_iff] at found
    obtain ⟨w, found, rfl⟩ := found
    rcases addListener found listed with before | same
    · exact .inl before
    · obtain ⟨rfl, rfl⟩ := Work.relay.inj same
      obtain ⟨listeners, found, -⟩ := Advance.of_addListener known (.relay joined joining)
      refine .inr ⟨_, by rw [Desk.tasks_setPhase, found]; rfl, by simp, by simp⟩

/-- A turn keeps the relays in order. -/
theorem Relays.turn {desk desk' : Desk} (relays : Relays desk) (turned : Turn desk desk') :
    Relays desk' := by
  have stays : ∀ {run waiter : TaskId}, desk.Begun waiter (· = run) →
      desk'.Begun waiter (· = run) := fun begun => begun.turn turned
  cases turned with
  | drop work rest first spent =>
    exact ⟨fun queued => relays.queued (by rw [first]; exact List.mem_cons_of_mem _ queued),
      relays.listed⟩
  | ask job other =>
    constructor
    · intro run waiter queued
      exact stays (relays.queued (by simpa [Desk.spawn] using queued))
    · intro run waiter k u found listed
      rcases desk.of_tasks_spawn found with known | ⟨-, rfl⟩
      · exact stays (relays.listed known listed)
      · simp at listed
  | move moved =>
    constructor
    · intro run waiter queued
      rcases moved.relay_of_queue queued with queued | ⟨k, t, known, listed⟩
      · exact stays (relays.queued queued)
      · exact stays (relays.listed known listed)
    · intro run waiter k u found listed
      rcases moved.relay_of_listed found listed with ⟨t, known, listed⟩ | begun
      · exact stays (relays.listed known listed)
      · exact begun

/-- A task that joined a run waits for its result, is told it, or has it. -/
inductive Following (desk : Desk) (waiter run : TaskId) : Prop where
  /-- The run has not ended, and the task is to be told when it does. -/
  | waiting (t u : Task) (known : desk.tasks[waiter]? = some t) (joined : t.phase = .joined run)
    (inFlight : desk.tasks[run]? = some u) (unfinished : u.result? = none)
    (listed : .relay run waiter ∈ u.listeners)
  /-- The run has ended, and the task is about to be told. -/
  | told (t u : Task) (result : Result) (known : desk.tasks[waiter]? = some t)
    (joined : t.phase = .joined run) (inFlight : desk.tasks[run]? = some u)
    (finished : u.phase = .ended result) (queued : .relay run waiter ∈ desk.queue)
  /-- The task has been told the result of the run, and is about to end with it. -/
  | ending (t u : Task) (result : Result) (known : desk.tasks[waiter]? = some t)
    (ending : t.phase = .ending result) (inFlight : desk.tasks[run]? = some u)
    (finished : u.phase = .ended result) (queued : .step waiter ∈ desk.queue)
  /-- The task has ended with the result of the run. -/
  | ended (t u : Task) (result : Result) (known : desk.tasks[waiter]? = some t)
    (ended : t.phase = .ended result) (inFlight : desk.tasks[run]? = some u)
    (finished : u.phase = .ended result)

/-- A task that has a result is in the phase of having ended with it. -/
theorem Task.phase_of_result? {t : Task} {result : Result} (ended : t.result? = some result) :
    t.phase = .ended result := by
  unfold Task.result? at ended
  split at ended
  · rename_i found
    rw [found, Option.some.inj ended]
  · cases ended

/-- A turn keeps a task on the way to the result of the run that it joined. -/
theorem Following.turn {desk desk' : Desk} {waiter run : TaskId}
    (following : Following desk waiter run) (relays : Relays desk) (turned : Turn desk desk') :
    Following desk' waiter run := by
  cases following with
  | waiting t u known joined inFlight unfinished listed =>
    obtain ⟨t', known', -, phase, -, -, -⟩ := turned.advance known
    obtain ⟨u', inFlight', -, -, listeners, -, ends⟩ := turned.advance inFlight
    -- the task can only have been told by a relay of this run, which has not ended
    have joined' : t'.phase = .joined run := by
      rw [joined] at phase
      generalize t'.phase = after at phase ⊢
      cases phase with
      | stay => rfl
      | call _ _ asks => cases asks
      | respond _ _ hears => cases hears
      | relay other _ v result queued found ended =>
        obtain ⟨w, listed, -, same⟩ := relays.queued queued
        obtain rfl : w = t := Option.some.inj (listed.symm.trans known)
        obtain rfl : run = other := same run joined
        obtain rfl : v = u := Option.some.inj (found.symm.trans inFlight)
        rw [unfinished] at ended
        cases ended
      | finish _ result ready => exact ready.elim
    cases finished : u'.result? with
    | none =>
      exact .waiting t' u' known' joined' inFlight' finished (listeners _ listed)
    | some result =>
      have ended := Task.phase_of_result? finished
      refine .told t' u' result known' joined' inFlight' ended ?_
      rcases ends result ended with before | queued
      · simp [Task.result?, before] at unfinished
      · exact queued _ listed
  | told t u result known joined inFlight finished queued =>
    obtain ⟨t', known', -, phase, -, told, -⟩ := turned.advance known
    obtain ⟨u', inFlight', -, finished'⟩ := turned.result? inFlight finished
    rw [joined] at phase told
    generalize after : t'.phase = next at phase told
    cases phase with
    | stay =>
      refine .told t' u' result known' after inFlight' finished' ?_
      rcases turned.queue queued with still | spent
      · exact still
      · have unfinished := spent t' run known' after u' inFlight'
        simp [Task.result?, finished'] at unfinished
    | call _ _ asks => cases asks
    | respond _ _ hears => cases hears
    | relay other _ v passed queued found ended =>
      obtain ⟨w, listed, -, same⟩ := relays.queued queued
      obtain rfl : w = t := Option.some.inj (listed.symm.trans known)
      obtain rfl : run = other := same run joined
      obtain rfl : v = u := Option.some.inj (found.symm.trans inFlight)
      obtain rfl : result = passed := by simpa [Task.result?, finished] using ended
      have queued := (told result rfl).resolve_left (by simp)
      exact .ending t' u' result known' after inFlight' finished' queued
    | finish _ result ready => exact ready.elim
  | ending t u result known ending inFlight finished queued =>
    obtain ⟨t', known', -, phase, -, -, -⟩ := turned.advance known
    obtain ⟨u', inFlight', -, finished'⟩ := turned.result? inFlight finished
    rw [ending] at phase
    generalize after : t'.phase = next at phase
    cases phase with
    | stay =>
      refine .ending t' u' result known' after inFlight' finished' ?_
      rcases turned.queue queued with still | spent
      · exact still
      · have stuck := spent t' result known'
        simp [after, Phase.MayEnd] at stuck
    | call _ _ asks => cases asks
    | respond _ _ hears => cases hears
    | finish _ passed ready =>
      obtain rfl : result = passed := ready
      exact .ended t' u' result known' after inFlight' finished'
  | ended t u result known ended inFlight finished =>
    obtain ⟨t', known', -, ended'⟩ := turned.result? known ended
    obtain ⟨u', inFlight', -, finished'⟩ := turned.result? inFlight finished
    exact .ended t' u' result known' ended' inFlight' finished'

end PredicateIndex.Pipeline
