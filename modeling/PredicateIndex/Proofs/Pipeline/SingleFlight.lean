import PredicateIndex.Proofs.Pipeline.Calls
import PredicateIndex.Proofs.Pipeline.Joining
import PredicateIndex.Proofs.Pipeline.Runs

/-!
# Single flight

In every interleaving of scheduled actions a file has at most one run that has not ended, and it is
the one in flight. A run in flight that has ended is about to be settled, so it does not block its
file. A lookup that finds a run in flight joins it: it starts no run and makes no call, and it ends
with the result of the run that it joined.
-/
namespace PredicateIndex.Pipeline

/-- The work of one task: its steps and what it is told. -/
def Work.Of (task : TaskId) : Work → Prop
  | .step own => own = task
  | .relay _ own => own = task
  | _ => False

namespace State

/-- The next piece of work is the first step of a lookup that finds no index and a run in flight. -/
structure Joins (state : State) (file : String) (waiter run : TaskId) : Prop where
  /-- The task takes its step next. -/
  next : state.queue.head? = some (.step waiter)
  /-- It is a lookup of the file that has not begun. -/
  lookup : ∃ t, state.task? waiter = some t ∧ t.phase = .fresh ∧ t.job = .lookup file
  /-- The file has no index. -/
  uncached : state.cache.get? file = none
  /-- The file has a run in flight. -/
  inFlight : state.pending.get? file = some run

variable {state : State} {file : String} {waiter run : TaskId}

/-- The step of a lookup that joins a run does nothing else. -/
theorem Joins.tick_eq (joins : state.Joins file waiter run) (analyzer : Analyzer) :
    tick analyzer state = { state with queue := state.queue.tail }.join waiter run := by
  obtain ⟨next, ⟨t, known, fresh, lookup⟩, uncached, inFlight⟩ := joins
  obtain ⟨rest, queue⟩ := List.head?_eq_some_iff.mp next
  have found : ({ state with queue := rest } : State).task? waiter = some t := known
  simp only [tick, queue, execute, found, stepTask, fresh, lookup, begin, beginLookup, uncached,
    inFlight, List.tail_cons]

/-- Joining a run creates no task. -/
theorem length_tasks_join (task run : TaskId) :
    (state.join task run).tasks.length = state.tasks.length := by
  simp only [join]
  split
  · simp [finish, log, setPhase]
  · simp only [listen]
    split <;> simp [setPhase, enqueue]

/-- A task that joins a run follows it. -/
theorem following_join {t u : Task} (known : state.task? waiter = some t)
    (inFlight : state.task? run = some u) (other : waiter ≠ run) :
    Following ((state.join waiter run).desk []) waiter run := by
  have found : (state.task? run).bind Task.result? = u.result? := by simp [inFlight]
  rw [join, found]
  cases ended : u.result? with
  | some result =>
    have tasks : ∀ k, ((state.finish waiter result).desk []).tasks[k]? = (state.tasks[k]?).map
        fun (t : Task) => { t with phase := if waiter = k then .ended result else t.phase } :=
      fun k => (state.desk []).tasks_setPhase waiter k (.ended result)
    refine .ended { t with phase := .ended result } u result ?_ rfl ?_ (Task.phase_of_result? ended)
    · rw [tasks, show state.tasks[waiter]? = some t from known]
      simp
    · rw [tasks, show state.tasks[run]? = some u from inFlight]
      simp [other]
  | none =>
    have listening : (state.listen run (.relay run waiter)).desk [] =
        (state.desk []).addListener run (.relay run waiter) := by
      simp [listen, found, ended, desk, Desk.addListener]
    have tasks : ∀ k, (((state.listen run (.relay run waiter)).setPhase waiter
          (.joined run)).desk []).tasks[k]? = (state.tasks[k]?).map fun (t : Task) =>
        { t with
          phase := if waiter = k then .joined run else t.phase
          listeners :=
            if run = k then t.listeners ++ [Work.relay run waiter] else t.listeners } := by
      intro k
      have moved := ((state.listen run (.relay run waiter)).desk []).tasks_setPhase waiter k
        (.joined run)
      rw [listening, Desk.tasks_addListener, Option.map_map, ← listening] at moved
      exact moved
    refine .waiting { t with phase := .joined run }
      { u with listeners := u.listeners ++ [.relay run waiter] } ?_ rfl ?_ ended (by simp)
    · rw [tasks, show state.tasks[waiter]? = some t from known]
      simp [other.symm]
    · rw [tasks, show state.tasks[run]? = some u from inFlight]
      simp [other]

/-- Doing one piece of work after another makes turns. -/
theorem turns_ticks (state : State) (analyzer : Analyzer) (n : Nat) :
    Turns (state.desk []) ((ticks analyzer n state).desk []) := by
  induction n generalizing state with
  | zero => exact .refl
  | succ n ih =>
    rw [ticks]
    split
    · exact .refl
    · exact (turns_tick state analyzer).trans (ih (tick analyzer state))

/-- The first piece of work leaves the queue, and new work comes after the rest. -/
theorem queue_tick {work : Work} {rest : List Work} (queue : state.queue = work :: rest)
    (analyzer : Analyzer) : rest <+: (tick analyzer state).queue := by
  simp only [tick, queue]
  have moves := (moves_execute { state with queue := rest } analyzer work).1.queue
  exact (List.cons_prefix_cons.mp moves).2

/-- A piece of work that was done is spent. -/
theorem spent_tick {work : Work} {rest : List Work} (queue : state.queue = work :: rest)
    (analyzer : Analyzer) : ((tick analyzer state).desk []).Spent work := by
  simp only [tick, queue]
  have spent := (moves_execute { state with queue := rest } analyzer work).2
  cases work <;> exact spent

/-- The turn of every piece of work comes. -/
theorem exists_spent {work : Work} (queued : work ∈ state.queue) (analyzer : Analyzer) :
    ∃ n, ((ticks analyzer n state).desk []).Spent work := by
  obtain ⟨before, after, queue⟩ := List.append_of_mem queued
  induction before generalizing state after with
  | nil =>
    refine ⟨1, ?_⟩
    simp only [ticks, queue]
    exact spent_tick queue analyzer
  | cons first before ih =>
    obtain ⟨new, moved⟩ := queue_tick queue analyzer
    have later : (tick analyzer state).queue = before ++ work :: (after ++ new) := by
      simp [← moved]
    obtain ⟨n, spent⟩ := ih (by simp [later]) (after ++ new) later
    refine ⟨n + 1, ?_⟩
    rw [ticks, if_neg (by simp [queue])]
    exact spent

/-- Doing some work and then some more is doing more work. -/
theorem ticks_ticks (analyzer : Analyzer) (m n : Nat) (state : State) :
    ∃ k, ticks analyzer n (ticks analyzer m state) = ticks analyzer k state := by
  induction m generalizing state with
  | zero => exact ⟨n, rfl⟩
  | succ m ih =>
    by_cases idle : state.queue.isEmpty
    · exact ⟨n, by rw [ticks, if_pos idle]⟩
    · obtain ⟨k, equal⟩ := ih (tick analyzer state)
      exact ⟨k + 1, by rw [ticks, if_neg idle, ticks, if_neg idle, equal]⟩

/-- A task that follows a run which has ended, and has been told, comes to end with its result. -/
theorem exists_ended_of_begun (relays : Relays (state.desk []))
    (following : Following (state.desk []) waiter run)
    (told : (state.desk []).Begun waiter fun _ => False) (analyzer : Analyzer) :
    ∃ n t u result, (ticks analyzer n state).task? waiter = some t ∧ t.phase = .ended result ∧
      (ticks analyzer n state).task? run = some u ∧ u.phase = .ended result := by
  cases following with
  | waiting t u known joined | told t u result known joined =>
    obtain ⟨v, found, -, free⟩ := told
    obtain rfl : v = t := Option.some.inj (found.symm.trans known)
    exact (free run joined).elim
  | ended t u result known ended inFlight finished =>
    exact ⟨0, t, u, result, known, ended, inFlight, finished⟩
  | ending t u result known ending inFlight finished queued =>
    obtain ⟨n, spent⟩ := exists_spent queued analyzer
    have kept := Turns.keep (fun d => Relays d ∧ Following d waiter run ∧
      d.Begun waiter fun _ => False) ?_ (turns_ticks state analyzer n)
      ⟨relays, .ending t u result known ending inFlight finished queued, told⟩
    · obtain ⟨-, following, v, found, -, free⟩ := kept
      cases following with
      | waiting t u known joined | told t u result known joined =>
        obtain rfl : v = t := Option.some.inj (found.symm.trans known)
        exact (free run joined).elim
      | ending t u result known ending =>
        have stuck := spent t result known
        simp [ending, Phase.MayEnd] at stuck
      | ended t u result known ended inFlight finished =>
        exact ⟨n, t, u, result, known, ended, inFlight, finished⟩
    · rintro d d' ⟨relays, following, begun⟩ turned
      exact ⟨relays.turn turned, following.turn relays turned, begun.turn turned⟩

/-- A task that follows a run which has ended comes to end with its result. -/
theorem exists_ended (relays : Relays (state.desk []))
    (following : Following (state.desk []) waiter run) {u : Task}
    (known : state.task? run = some u) (finished : u.result?.isSome) (analyzer : Analyzer) :
    ∃ n t u result, (ticks analyzer n state).task? waiter = some t ∧ t.phase = .ended result ∧
      (ticks analyzer n state).task? run = some u ∧ u.phase = .ended result := by
  cases following with
  | waiting t v _ _ inFlight unfinished =>
    obtain rfl : v = u := Option.some.inj (inFlight.symm.trans known)
    simp [unfinished] at finished
  | ended t u result known ended inFlight finished =>
    exact ⟨0, t, u, result, known, ended, inFlight, finished⟩
  | ending t u result known ending inFlight finished queued =>
    exact exists_ended_of_begun relays
      (.ending t u result known ending inFlight finished queued)
      ⟨t, known, by simp [ending], by simp [ending]⟩ analyzer
  | told t u result known joined inFlight finished queued =>
    obtain ⟨m, spent⟩ := exists_spent queued analyzer
    have kept := Turns.keep (fun d => Relays d ∧ Following d waiter run ∧
      ∃ u, d.tasks[run]? = some u ∧ u.phase = .ended result) ?_ (turns_ticks state analyzer m)
      ⟨relays, .told t u result known joined inFlight finished queued, u, inFlight, finished⟩
    · obtain ⟨relays, following, v, ended, finished⟩ := kept
      have begun : ((ticks analyzer m state).desk []).Begun waiter fun _ => False := by
        cases following with
        | waiting t u known joined inFlight unfinished =>
          obtain rfl : v = u := Option.some.inj (ended.symm.trans inFlight)
          simp [Task.result?, finished] at unfinished
        | told t u result known joined =>
          have unfinished := spent t run known joined v ended
          simp [Task.result?, finished] at unfinished
        | ending t u result known ending => exact ⟨t, known, by simp [ending], by simp [ending]⟩
        | ended t u result known ended => exact ⟨t, known, by simp [ended], by simp [ended]⟩
      obtain ⟨n, reached⟩ := exists_ended_of_begun relays following begun analyzer
      obtain ⟨k, equal⟩ := ticks_ticks analyzer m n state
      exact ⟨k, equal ▸ reached⟩
    · rintro d d' ⟨relays, following, u, known, finished⟩ turned
      obtain ⟨u', known', -, finished'⟩ := turned.result? known finished
      exact ⟨relays.turn turned, following.turn relays turned, u', known', finished'⟩

/-- A task that has ended keeps its result. -/
theorem result?_turns {desk desk' : Desk} (turns : Turns desk desk') {task : TaskId} {t : Task}
    {result : Result} (known : desk.tasks[task]? = some t) (ended : t.result? = some result) :
    ∃ u, desk'.tasks[task]? = some u ∧ u.result? = some result := by
  refine Turns.keep (fun d => ∃ u, d.tasks[task]? = some u ∧ u.result? = some result) ?_ turns
    ⟨t, known, ended⟩
  rintro d d' ⟨u, known, ended⟩ turned
  obtain ⟨v, found, -, finished⟩ := turned.result? known (Task.phase_of_result? ended)
  exact ⟨v, found, by rw [Task.result?_eq, finished]; rfl⟩

/-- A task that follows a run makes no calls. -/
theorem calls_tick_of_following (following : Following (state.desk []) waiter run) {work : Work}
    (next : state.queue.head? = some work) (own : work.Of waiter) (analyzer : Analyzer) :
    (tick analyzer state).calls = state.calls := by
  have none : state.made? (.tick analyzer) = none := by
    cases work with
    | step task =>
      obtain rfl : task = waiter := own
      obtain ⟨t, known, silent⟩ : ∃ t, state.task? task = some t ∧ state.call? t = .none := by
        cases following with
        | waiting t u known joined | told t u result known joined =>
          exact ⟨t, known, state.call?_eq_none (by simp [joined]) (by simp [joined])⟩
        | ending t u result known ending =>
          exact ⟨t, known, state.call?_eq_none (by simp [ending]) (by simp [ending])⟩
        | ended t u result known ended =>
          exact ⟨t, known, state.call?_eq_none (by simp [ended]) (by simp [ended])⟩
      rw [state.made?_of_step next known, silent]
    | relay other task =>
      obtain ⟨rest, queue⟩ := List.head?_eq_some_iff.mp next
      simp only [made?, queue]
    | _ => exact own.elim
  rw [state.calls_tick, none, Option.toList_none, List.append_nil]

/-- What is in flight: for every file at most one run that has not ended, and no run for longer than
it takes to settle it. -/
structure SingleFlight (state : State) : Prop where
  /-- At most one run of a file has not ended. -/
  unique {file : String} {run other : TaskId} {t u : Task} : state.task? run = some t →
    state.task? other = some u → t.IsRunOf file → u.IsRunOf file → t.result? = none →
    u.result? = none → run = other
  /-- A run that has not ended is the one in flight. -/
  inFlight {file : String} {run : TaskId} {t : Task} : state.task? run = some t →
    t.IsRunOf file → t.result? = none → state.pending.get? file = some run
  /-- What is in flight for a file is a run of it that has not ended, or that is about to be settled
  and is then no longer in flight. -/
  settles {file : String} {run : TaskId} : state.pending.get? file = some run →
    ∃ t, state.task? run = some t ∧ t.IsRunOf file ∧ (t.result? = none ∨
      .settle file run ∈ state.queue ∧
        ∀ analyzer, ∃ n, (ticks analyzer n state).pending.get? file ≠ some run)

/-- What a task has of a run that it joined. -/
structure Receives (state : State) (waiter run : TaskId) : Prop where
  /-- It ends with no other result than that of the run. -/
  result {t : Task} {result : Result} : state.task? waiter = some t → t.result? = some result →
    ∃ u, state.task? run = some u ∧ u.result? = some result
  /-- When the run has ended, it comes to end with the result of the run. -/
  arrives {u : Task} {result : Result} : state.task? run = some u → u.result? = some result →
    ∀ analyzer, ∃ n t, (ticks analyzer n state).task? waiter = some t ∧ t.result? = some result
  /-- Its own work calls the analyzer no more. -/
  silent {work : Work} : state.queue.head? = some work → work.Of waiter →
    ∀ analyzer, (tick analyzer state).calls = state.calls

/-- The runs of an orderly desk are single flights. -/
theorem singleFlight_of_flight (flight : Flight (state.desk [])) : state.SingleFlight := by
  constructor
  · intro file run other t u known known' isRun isRun' unfinished unfinished'
    have one := flight.pending known isRun unfinished
    have two := flight.pending known' isRun' unfinished'
    exact Option.some.inj (one.symm.trans two)
  · exact flight.pending
  · intro file run inFlight
    obtain ⟨t, known, isRun⟩ := flight.isRun inFlight
    refine ⟨t, known, isRun, ?_⟩
    cases ended : t.result? with
    | none => exact .inl rfl
    | some result =>
      have queued := flight.queued inFlight known (by simp [ended])
      exact .inr ⟨queued, fun analyzer => exists_spent queued analyzer⟩

/-- A task that follows a run receives its result. -/
theorem receives_of_following (relays : Relays (state.desk []))
    (following : Following (state.desk []) waiter run) : state.Receives waiter run := by
  constructor
  · intro t result known ended
    have phase := Task.phase_of_result? ended
    cases following with
    | waiting v u found joined | told v u other found joined =>
      obtain rfl : v = t := Option.some.inj (found.symm.trans known)
      rw [joined] at phase
      cases phase
    | ending v u other found ending =>
      obtain rfl : v = t := Option.some.inj (found.symm.trans known)
      rw [ending] at phase
      cases phase
    | ended v u other found settled inFlight finished =>
      obtain rfl : v = t := Option.some.inj (found.symm.trans known)
      obtain rfl : other = result := Phase.ended.inj (settled.symm.trans phase)
      exact ⟨u, inFlight, by rw [Task.result?_eq, finished]; rfl⟩
  · intro u result known ended analyzer
    obtain ⟨n, t, v, other, found, phase, known', finished⟩ :=
      exists_ended relays following known (by simp [ended]) analyzer
    obtain ⟨w, listed, kept⟩ := result?_turns (turns_ticks state analyzer n) known ended
    obtain rfl : w = v := Option.some.inj (listed.symm.trans known')
    obtain rfl : result = other :=
      Phase.ended.inj ((Task.phase_of_result? kept).symm.trans finished)
    exact ⟨n, t, found, by rw [Task.result?_eq, phase]; rfl⟩
  · exact fun next own analyzer => calls_tick_of_following following next own analyzer

/-- The pipeline with nothing open has no relays. -/
theorem relays_initial (provider : SettingsProvider) (delay : Nat) :
    Relays ((initial provider delay).desk []) := by
  constructor <;> simp [initial, desk]

/-- A lookup that joins a run follows it from its first step on. -/
theorem Joins.following (joins : state.Joins file waiter run) (flight : Flight (state.desk []))
    (analyzer : Analyzer) : Following ((tick analyzer state).desk []) waiter run := by
  rw [joins.tick_eq analyzer]
  obtain ⟨-, ⟨t, known, -, lookup⟩, -, inFlight⟩ := joins
  obtain ⟨u, found, generation, job⟩ := flight.isRun inFlight
  have known' : ({ state with queue := state.queue.tail } : State).task? waiter = some t := known
  refine following_join known' found ?_
  rintro rfl
  obtain rfl : t = u := Option.some.inj (known.symm.trans found)
  cases lookup.symm.trans job

/-- For every file there is at most one run that has not ended, it is the one in flight, and what is
in flight has not ended or is about to be settled; and a lookup that joins a run starts no other,
receives the result of that run and calls the analyzer no more. -/
theorem single_flight (provider : SettingsProvider) (delay : Nat) (actions : List Action)
    (scheduled : ∀ action ∈ actions, action.Scheduled) :
    ((initial provider delay).play actions).SingleFlight ∧
      ∀ before analyzer rest file waiter run,
        Occurs (initial provider delay) actions before (.tick analyzer) rest →
        before.Joins file waiter run →
        (tick analyzer before).calls = before.calls ∧
        (tick analyzer before).tasks.length = before.tasks.length ∧
        ((initial provider delay).play actions).Receives waiter run := by
  have flight : ∀ {actions : List Action}, (∀ action ∈ actions, action.Scheduled) →
      Flight (((initial provider delay).play actions).desk []) :=
    fun scheduled => (orderly_play (orderly_initial provider delay) scheduled).flight
  refine ⟨singleFlight_of_flight (flight scheduled), ?_⟩
  rintro before analyzer rest file waiter run ⟨past, rfl, rfl⟩ joins
  have earlier : ∀ action ∈ past, action.Scheduled :=
    fun action inside => scheduled action (List.mem_append_left _ inside)
  have later : ∀ action ∈ rest, action.Scheduled :=
    fun action inside => scheduled action (by simp [inside])
  have relays : Relays ((tick analyzer ((initial provider delay).play past)).desk []) :=
    Turns.keep Relays (fun relays turned => relays.turn turned)
      ((turns_play _ earlier).trans (turns_tick _ analyzer)) (relays_initial provider delay)
  refine ⟨?_, ?_, ?_⟩
  · rw [joins.tick_eq analyzer, calls_join]
    rfl
  · rw [joins.tick_eq analyzer, length_tasks_join]
  · rw [play_append, play_cons]
    have kept := Turns.keep (fun d => Relays d ∧ Following d waiter run)
      (fun follows turned => ⟨follows.1.turn turned, follows.2.turn follows.1 turned⟩)
      (turns_play _ later) ⟨relays, joins.following (flight earlier) analyzer⟩
    exact receives_of_following kept.1 kept.2

/-- A document is opened while the analyzer is held back, and a lookup is asked for. -/
def opening : List Action :=
  [.hold "a.pl", .event (.opened "a.pl" "p." 0), .tick fun _ => { result := .ok {} },
    .ask (.lookup "a.pl")]

/-- A lookup of a document whose first run waits for the analyzer joins that run. -/
theorem single_flight_opening :
    (∀ action ∈ opening ++ [.tick fun _ => { result := .ok {} }], action.Scheduled) ∧
      ((initial (.fixed {}) 500).play opening).Joins "a.pl" 1 0 ∧
      ((initial (.fixed {}) 500).play
        (opening ++ [.tick fun _ => { result := .ok {} }])).Receives 1 0 := by
  have scheduled : ∀ action ∈ opening ++ [.tick fun _ => { result := .ok {} }],
      action.Scheduled := by
    simp [opening, Action.Scheduled]
  have joins : ((initial (.fixed {}) 500).play opening).Joins "a.pl" 1 0 :=
    ⟨rfl, ⟨_, rfl, rfl, rfl⟩, rfl, rfl⟩
  exact ⟨scheduled, joins, ((single_flight (.fixed {}) 500 _ scheduled).2 _ _ [] "a.pl" 1 0
    ⟨opening, rfl, rfl⟩ joins).2.2⟩

end State

end PredicateIndex.Pipeline
