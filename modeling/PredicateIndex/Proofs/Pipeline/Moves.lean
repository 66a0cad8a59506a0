import PredicateIndex.Proofs.Pipeline.Desk

/-!
# The moves of the pipeline

Every function of the pipeline, from a trigger to a step of a task, changes the desk by moves. The
lemmas follow the functions: each says which moves one of them makes, from the moves of those it
calls. A piece of work also leaves the desk in a state in which it has nothing more to do, so a
scheduled action makes turns, and what every turn keeps is kept by every interleaving.
-/
namespace PredicateIndex.Pipeline

namespace State

variable (state : State) (hand : List Work)

/-- Steps that each make moves make moves one after another. -/
theorem moves_foldl {α : Type} {step : State → α → State}
    (moves : ∀ s a, Moves (s.desk hand) ((step s a).desk hand)) (items : List α) :
    Moves (state.desk hand) ((items.foldl step state).desk hand) := by
  induction items generalizing state with
  | nil => exact .refl
  | cons item rest ih => exact (moves state item).trans (ih (step state item))

/-- Starting a run is a move if the file has none in flight. -/
theorem moves_start (file : String) (idle : state.pending.get? file = none) :
    Moves (state.desk hand) ((state.start file).2.desk hand) := by
  have moved : (state.start file).2.desk hand = (state.desk hand).start file := by
    simp [start, spawn, report, log, desk, Desk.start, Desk.spawn]
  rw [moved]
  exact .single (.start _ file idle)

/-- A trigger starts a run or leaves the desk. -/
theorem moves_trigger (file : String) :
    Moves (state.desk hand) ((state.trigger file).2.desk hand) := by
  rw [trigger]
  split
  · exact .refl
  · split
    · rename_i absent _
      exact moves_start state hand file (by simpa [Ledger.has] using absent)
    · exact .refl

/-- A request that fires triggers an analysis. -/
theorem moves_fire (file : String) : Moves (state.desk hand) ((state.fire file).desk hand) :=
  moves_trigger (state.cancelRequest file) hand file

/-- Triggering all open documents makes moves. -/
theorem moves_reanalyze : Moves (state.desk hand) (state.reanalyze.desk hand) :=
  moves_foldl state hand (fun s file => moves_fire s hand file) state.documents.keys

/-- Queueing a signal is a move. -/
theorem moves_enqueue (work : Work) (harmless : work.IsSignal) :
    Moves (state.desk hand) ((state.enqueue work).desk hand) := by
  have moved : (state.enqueue work).desk hand = (state.desk hand).enqueue work := by
    simp [enqueue, desk, Desk.enqueue]
  rw [moved]
  exact .single (.signal _ work harmless)

/-- Holding a request back queues at most a signal. -/
theorem moves_holdBack (file : String) :
    Moves (state.desk hand) ((state.holdBack file).desk hand) := by
  rw [holdBack]
  split
  · exact moves_enqueue { state with debouncer := _ } hand _ trivial
  · exact .refl

/-- Setting a document is a move. -/
theorem moves_setDocument (file : String) (document : Document) :
    Moves (state.desk hand) ((state.setDocument file document).desk hand) :=
  .single (.write (state.desk hand) file document)

/-- Closing a document drops it and its generation. -/
theorem moves_close (file : String) : Moves (state.desk hand) ((state.close file).desk hand) :=
  .tail (.single (.discard (state.desk hand) file)) (.forget _ file)

/-- An event of a document makes moves. -/
theorem moves_handle (event : Event) :
    Moves (state.desk hand) ((state.handle event).desk hand) := by
  cases event with
  | opened file text version =>
    exact (moves_setDocument ((state.report _).putAway file) hand file _).trans
      (moves_trigger (((state.report _).putAway file).setDocument file _) hand file)
  | changed file text version =>
    exact (moves_setDocument state hand file _).trans
      (moves_holdBack (state.setDocument file _) hand file)
  | saved file text =>
    cases text with
    | none => exact moves_fire state hand file
    | some text =>
      exact (moves_setDocument state hand file _).trans
        (moves_fire (state.setDocument file _) hand file)
  | closed file => exact moves_close state hand file
  | configured settings =>
    cases settings with
    | none => exact moves_reanalyze state hand
    | some given => exact moves_reanalyze { state with provider := .fixed given } hand
  | reanalyzed => exact moves_reanalyze state hand

/-- Asking for a task other than a run is a turn. -/
theorem turns_ask (job : Job) (other : ∀ file generation, job ≠ .run file generation) :
    Turns (state.desk hand) ((state.ask job).2.desk hand) := by
  have moved : (state.ask job).2.desk hand = (state.desk hand).spawn job [] := by
    simp [ask, spawn, desk, Desk.spawn]
  rw [moved]
  exact .single (.ask _ job other)

/-- Letting the call of a task go on is a move if it waits for the analyzer. -/
theorem moves_letGo (file : String) (task : TaskId) :
    Moves (state.desk hand) ((letGo file state task).desk hand) := by
  rw [letGo]
  split
  · rename_i call waiting
    obtain ⟨t, known, calling⟩ := Option.map_eq_some_iff.mp waiting
    split
    · have moved : ((state.setPhase task (.answered call)).enqueue (.step task)).desk hand =
          ((state.desk hand).setPhase task (.answered call)).enqueue (.step task) := by
        simp [enqueue, setPhase, desk, Desk.enqueue, Desk.setPhase]
      rw [moved]
      exact .single (.respond _ task t _ known (calling ▸ .reply call))
    · exact .refl
  · exact .refl

/-- Answering a task that waits for its settings is a move. -/
theorem moves_inform (answer : SettingsAnswer) (task : TaskId) :
    Moves (state.desk hand) ((state.inform answer task).desk hand) := by
  rw [inform]
  split
  · rename_i file text away waiting
    obtain ⟨t, known, asking⟩ := Option.map_eq_some_iff.mp waiting
    have moved : ((state.setPhase task (.informed file text away answer)).enqueue
        (.step task)).desk hand =
          ((state.desk hand).setPhase task (.informed file text away answer)).enqueue
            (.step task) := by
      simp [enqueue, setPhase, desk, Desk.enqueue, Desk.setPhase]
    rw [moved]
    exact .single (.respond _ task t _ known (asking ▸ .settings file text away answer))
  · exact .refl

/-- Letting the calls of a file go on makes moves. -/
theorem moves_release (file : String) :
    Moves (state.desk hand) ((state.release file).desk hand) :=
  moves_foldl { state with held := state.held.filter (· != file) } hand
    (fun s task => moves_letGo s hand file task) (List.range state.tasks.length)

/-- Reports of a run only add to the journal. -/
theorem foldl_reportInRun {α : Type} (notice : α → Notice) (notices : List α) :
    notices.foldl (fun s n => s.reportInRun (notice n)) state =
      { state with
        journal := state.journal ++ notices.map fun n => .reported true (notice n) } := by
  induction notices generalizing state with
  | nil => simp
  | cons first rest ih =>
    rw [List.foldl_cons, ih]
    simp [reportInRun, log]

/-- Installing an index records at most the generation of the run. -/
theorem moves_install {task : TaskId} {t : Task} {file : String} {generation : Option Int}
    (known : state.task? task = some t) (run : t.job = .run file generation)
    (unfinished : t.result? = none) (index : FileIndex) :
    Moves (state.desk hand) ((state.install file generation index).2.desk hand) := by
  rw [install, Cache.install]
  split
  · exact .refl
  · rename_i cache installed
    split at installed
    · cases installed
    · cases installed
      cases generation with
      | none => exact .refl
      | some number => exact .single (.record _ task t file number known run unfinished)

/-- Breaking a run off drops the generation of its file. -/
theorem moves_concludeCrash (file : String) (crash : Crash) :
    Moves (state.desk hand) ((state.concludeCrash file crash).desk hand) := by
  have evicted : ((state.reportInRun (.internalError file)).evict file).desk hand =
      { state.desk hand with generations := (state.desk hand).generations.remove file } := by
    rw [evict]
    split <;> rfl
  have published : (state.concludeCrash file crash).desk hand =
      ((state.reportInRun (.internalError file)).evict file).desk hand := by
    rw [concludeCrash]
    split <;> rfl
  rw [published, evicted]
  exact .single (.forget _ file)

/-- The end of a run with an outcome records at most the generation of the run. -/
theorem moves_concludeOutcome {task : TaskId} {t : Task} {file : String} {generation : Option Int}
    (known : state.task? task = some t) (run : t.job = .run file generation)
    (unfinished : t.result? = none) (outcome : Outcome) :
    Moves (state.desk hand) ((state.concludeOutcome file generation outcome).2.desk hand) := by
  rw [concludeOutcome]
  split
  · cases outcome.tree with
    | none => exact .refl
    | some tree =>
      simp only [foldl_reportInRun]
      generalize state.journal ++ _ = journal
      exact moves_install { state with journal } hand known run unfinished _
  · exact .refl

/-- The end of a run leaves the desk but for the recorded generation of its file. -/
theorem moves_conclude {task : TaskId} {t : Task} {file : String} {generation : Option Int}
    (known : state.task? task = some t) (run : t.job = .run file generation)
    (unfinished : t.result? = none) (reply : Reply) :
    Moves (state.desk hand) ((state.conclude file generation reply).2.desk hand) := by
  rw [conclude, foldl_reportInRun]
  generalize state.journal ++ _ = journal
  cases reply.result with
  | error crash => exact moves_concludeCrash { state with journal } hand file crash
  | ok outcome =>
    exact moves_concludeOutcome { state with journal } hand known run unfinished outcome

/-- The end of a run touches the cache, the published diagnostics and the journal only. -/
theorem conclude_frame (file : String) (generation : Option Int) (reply : Reply) :
    ∃ cache published journal, (state.conclude file generation reply).2 =
      { state with cache, published, journal } := by
  rw [conclude, foldl_reportInRun]
  cases reply.result with
  | error crash =>
    simp only [concludeCrash, evict]
    split <;> split <;> exact ⟨_, _, _, rfl⟩
  | ok outcome =>
    simp only [concludeOutcome, foldl_reportInRun]
    split
    · cases outcome.tree with
      | none => exact ⟨_, _, _, rfl⟩
      | some tree =>
        simp only [install]
        split <;> exact ⟨_, _, _, rfl⟩
    · exact ⟨_, _, _, rfl⟩

/-- A task that was moved to a phase in which it cannot end has nothing more to do. -/
theorem spent_setPhase (desk : Desk) (task : TaskId) {phase : Phase}
    (rests : ∀ result, ¬phase.MayEnd result) : (desk.setPhase task phase).Spent (.step task) := by
  intro t result known
  simp only [Desk.setPhase, List.getElem?_modify_eq, Option.map_eq_map,
    Option.map_eq_some_iff] at known
  obtain ⟨old, -, rfl⟩ := known
  exact rests result

/-- Ending a task is a move, after which it has nothing more to do. -/
theorem moves_finish {task : TaskId} {t : Task} {result : Result}
    (known : state.task? task = some t) (ready : t.phase.MayEnd result) :
    Moves (state.desk hand) ((state.finish task result).desk hand) ∧
      ((state.finish task result).desk hand).Spent (.step task) := by
  have moved : (state.finish task result).desk hand = (state.desk hand).finish task result := by
    simp [finish, setPhase, log, task?, desk, Desk.finish, Desk.setPhase]
  rw [moved]
  exact ⟨.single (.finish _ task t result known ready),
    spent_setPhase (state.desk hand) task fun _ => id⟩

/-- A task whose call has been answered ends. -/
theorem moves_answer (analyzer : Analyzer) {task : TaskId} {t : Task}
    (known : state.task? task = some t) (ready : ∀ result, t.phase.MayEnd result)
    (call : AnalyzerCall) :
    Moves (state.desk hand) ((state.answer analyzer task t.job call).desk hand) ∧
      ((state.answer analyzer task t.job call).desk hand).Spent (.step task) := by
  cases job : t.job with
  | run file generation =>
    obtain ⟨cache, published, journal, concluded⟩ :=
      conclude_frame state file generation (analyzer call)
    have moves := moves_conclude state hand known job (Task.result?_of_mayEnd (ready .cancelled))
      (analyzer call)
    simp only [answer, concluded] at moves ⊢
    have ends := moves_finish { state with cache, published, journal } hand known
      (ready (.index (state.conclude file generation (analyzer call)).1))
    exact ⟨moves.trans ends.1, ends.2⟩
  | _ =>
    simp only [answer]
    split <;> exact moves_finish state hand known (ready _)

/-- A task that calls the analyzer waits for it or ends. -/
theorem moves_call (analyzer : Analyzer) {task : TaskId} {t : Task}
    (known : state.task? task = some t) (ready : ∀ result, t.phase.MayEnd result)
    (file text : String) (answer : SettingsAnswer)
    (asks : ∀ call : AnalyzerCall, call.file = file → t.phase.Asks t.job (.calling call)) :
    Moves (state.desk hand) ((state.call analyzer task t.job file text answer).desk hand) ∧
      ((state.call analyzer task t.job file text answer).desk hand).Spent (.step task) := by
  rw [call]
  split
  · exact ⟨.single (.call (state.desk hand) task t _ known (asks _ rfl)),
      spent_setPhase (state.desk hand) task fun _ => id⟩
  · exact moves_answer ((state.heed t.job file answer).log _) hand analyzer known ready _

/-- A task that asks for its settings waits for them, or goes on to call the analyzer. -/
theorem moves_consult (analyzer : Analyzer) {task : TaskId} {t : Task}
    (known : state.task? task = some t) (fresh : t.phase = .fresh) (file text : String)
    (own : t.job.IsAbout file) :
    Moves (state.desk hand) ((state.consult analyzer task t.job file text).desk hand) ∧
      ((state.consult analyzer task t.job file text).desk hand).Spent (.step task) := by
  rw [consult]
  split
  · refine moves_call state hand analyzer known (by simp [fresh, Phase.MayEnd]) file text _ ?_
    rintro call rfl
    exact fresh ▸ .analyzer call own
  · exact ⟨.single (.call (state.desk hand) task t _ known (fresh ▸ .provider file text _ own)),
      spent_setPhase (state.desk hand) task fun _ => id⟩

/-- A lookup that joins a run waits for it, or ends if the run has ended. -/
theorem moves_join {task : TaskId} {t : Task} {file : String} (known : state.task? task = some t)
    (fresh : t.phase = .fresh) (lookup : t.job = .lookup file) (run : TaskId) :
    Moves (state.desk hand) ((state.join task run).desk hand) ∧
      ((state.join task run).desk hand).Spent (.step task) := by
  rw [join]
  split
  · exact moves_finish state hand known (by simp [fresh, Phase.MayEnd])
  · rename_i unfinished
    have listening : state.listen run (.relay run task) = { state with
        tasks := state.tasks.modify run
          fun t => { t with listeners := t.listeners ++ [.relay run task] } } := by
      simp [listen, unfinished]
    rw [listening]
    refine ⟨.single (.join (state.desk hand) task run t file known fresh lookup ?_),
      spent_setPhase ((state.desk hand).addListener run (.relay run task)) task fun _ => id⟩
    intro u inFlight
    have found : state.task? run = some u := inFlight
    simpa [found] using unfinished

/-- Starting a run leaves the other tasks. -/
theorem task?_start {task : TaskId} {t : Task} (known : state.task? task = some t)
    (file : String) : (state.start file).2.task? task = some t :=
  (List.getElem?_append_left (List.getElem?_eq_some_iff.mp known).1).trans known

/-- The first step of a lookup. -/
theorem moves_beginLookup {task : TaskId} {t : Task} {file : String}
    (known : state.task? task = some t) (fresh : t.phase = .fresh) (lookup : t.job = .lookup file) :
    Moves (state.desk hand) ((state.beginLookup task file).desk hand) ∧
      ((state.beginLookup task file).desk hand).Spent (.step task) := by
  have ready : ∀ result, t.phase.MayEnd result := by simp [fresh, Phase.MayEnd]
  rw [beginLookup]
  split
  · exact moves_finish state hand known (ready _)
  · split
    · exact moves_join state hand known fresh lookup _
    · split
      · rename_i idle _
        have joined := moves_join (state.start file).2 hand (task?_start state known file) fresh
          lookup (state.start file).1
        exact ⟨(moves_start state hand file idle).trans joined.1, joined.2⟩
      · exact moves_finish state hand known (ready _)

/-- Listening to a task with a signal is a move. -/
theorem moves_listen (task : TaskId) (work : Work) (harmless : work.IsSignal) :
    Moves (state.desk hand) ((state.listen task work).desk hand) := by
  rw [listen]
  split
  · exact moves_enqueue state hand work harmless
  · exact .single (.listen (state.desk hand) task work harmless)

/-- Listening changes neither the job nor the phase of a task. -/
theorem task?_listen {task : TaskId} {t : Task} (known : state.task? task = some t)
    (heard : TaskId) (work : Work) : ∃ u, (state.listen heard work).task? task = some u ∧
      u.job = t.job ∧ u.phase = t.phase := by
  rw [listen]
  split
  · exact ⟨t, known, rfl, rfl⟩
  · have listed : state.tasks[task]? = some t := known
    rw [task?, List.getElem?_modify, listed]
    refine ⟨_, rfl, ?_⟩
    dsimp only
    split <;> exact ⟨rfl, rfl⟩

/-- Listening to several tasks changes neither the job nor the phase of a task. -/
theorem task?_foldl_listen {task : TaskId} {t : Task} (known : state.task? task = some t)
    (work : Work) (runs : List TaskId) :
    ∃ u, (runs.foldl (fun s run => s.listen run work) state).task? task = some u ∧
      u.job = t.job ∧ u.phase = t.phase := by
  induction runs generalizing state t with
  | nil => exact ⟨t, known, rfl, rfl⟩
  | cons run rest ih =>
    obtain ⟨u, listed, job, phase⟩ := task?_listen state known run work
    obtain ⟨v, found, job', phase'⟩ := ih (state.listen run work) listed
    exact ⟨v, found, job'.trans job, phase'.trans phase⟩

/-- The first step of a shutdown. -/
theorem moves_beginShutdown {task : TaskId} {t : Task} (known : state.task? task = some t)
    (fresh : t.phase = .fresh) (shutdown : t.job = .shutdown) :
    Moves (state.desk hand) ((state.beginShutdown task).desk hand) ∧
      ((state.beginShutdown task).desk hand).Spent (.step task) := by
  rw [beginShutdown]
  generalize state.debouncer.cancelAll = debouncer
  simp only
  split
  · exact moves_finish ({ state with debouncer }.report (.stopped 0)) hand known
      (by simp [fresh, Phase.MayEnd])
  · generalize state.pending.map Prod.snd = runs
    obtain ⟨u, found, job, phase⟩ :=
      task?_foldl_listen { state with debouncer } known (.drained task) runs
    have listening := moves_foldl { state with debouncer } hand
      (fun s run => moves_listen s hand run (.drained task) trivial) runs
    generalize runs.foldl (fun s run => s.listen run (.drained task)) { state with debouncer } = s
      at found listening ⊢
    exact ⟨listening.trans (.single (.await _ task u runs runs.length found (phase.trans fresh)
      (job.trans shutdown))), spent_setPhase (s.desk hand) task fun _ => id⟩

/-- The first step of a task. -/
theorem moves_begin (analyzer : Analyzer) {task : TaskId} {t : Task}
    (known : state.task? task = some t) (fresh : t.phase = .fresh) :
    Moves (state.desk hand) ((state.begin analyzer task t.job).desk hand) ∧
      ((state.begin analyzer task t.job).desk hand).Spent (.step task) := by
  have ready : ∀ result, t.phase.MayEnd result := by simp [fresh, Phase.MayEnd]
  cases job : t.job with
  | run file generation =>
    rw [begin]
    split
    · exact moves_finish state hand known (ready _)
    · rename_i document _
      have calls := moves_consult (state.reportInRun (.runStarted file generation)) hand analyzer
        known fresh file document.text (.inl ⟨generation, job⟩)
      rwa [job] at calls
  | lookup file => exact moves_beginLookup state hand known fresh job
  | tree file =>
    rw [begin]
    split
    · exact moves_finish state hand known (ready _)
    · rename_i document _
      have calls :=
        moves_consult state hand analyzer known fresh file document.text (.inr job)
      rwa [job] at calls
  | shutdown => exact moves_beginShutdown state hand known fresh job

/-- The step of a task: it waits afterwards, or has ended. -/
theorem moves_stepTask (analyzer : Analyzer) {task : TaskId} {t : Task}
    (known : state.task? task = some t) :
    Moves (state.desk hand) ((stepTask analyzer state task t).desk hand) ∧
      ((stepTask analyzer state task t).desk hand).Spent (.step task) := by
  rw [stepTask]
  split
  · rename_i fresh
    exact moves_begin state hand analyzer known fresh
  · rename_i file text away answer informed
    refine moves_call state hand analyzer known (by simp [informed, Phase.MayEnd]) file _ answer ?_
    intro call same
    exact informed ▸ .informed file text away answer call same
  · rename_i call answered
    exact moves_answer state hand analyzer known (by simp [answered, Phase.MayEnd]) call
  · rename_i runs ending
    exact moves_finish (state.report (.stopped runs)) hand known (by simp [ending, Phase.MayEnd])
  · rename_i result _ ending
    exact moves_finish state hand known (by simp [ending, Phase.MayEnd])
  · rename_i fresh informed answered drained ending
    refine ⟨.refl, fun u result listed ready => ?_⟩
    obtain rfl : t = u := Option.some.inj (known.symm.trans listed)
    unfold Phase.MayEnd at ready
    split at ready
    · exact fresh ‹_›
    · exact informed _ _ _ _ ‹_›
    · exact answered _ ‹_›
    · exact ending _ ‹_›
    · exact ready

/-- A task that is told to end has its step queued. -/
theorem desk_ending (task : TaskId) (result : Result) :
    ((state.setPhase task (.ending result)).enqueue (.step task)).desk hand =
      ((state.desk hand).setPhase task (.ending result)).enqueue (.step task) := by
  simp [enqueue, setPhase, desk, Desk.enqueue, Desk.setPhase]

/-- A relay in hand passes the result of a run on, or has nothing to pass on. -/
theorem moves_relay (run waiter : TaskId) (inHand : .relay run waiter ∈ hand) :
    Moves (state.desk hand) ((state.relay run waiter).desk hand) ∧
      ((state.relay run waiter).desk hand).Spent (.relay run waiter) := by
  rw [relay]
  split
  · rename_i joined result waiting ended
    obtain ⟨t, known, phase⟩ := Option.map_eq_some_iff.mp waiting
    obtain ⟨u, inFlight, ended⟩ := Option.bind_eq_some_iff.mp ended
    rw [desk_ending]
    refine ⟨.single (.relay _ run waiter joined t u result (List.mem_append_left _ inHand) known
      phase inFlight ended), ?_⟩
    intro v other listed joined'
    simp only [Desk.enqueue, Desk.setPhase, List.getElem?_modify_eq, Option.map_eq_map,
      Option.map_eq_some_iff] at listed
    obtain ⟨old, -, rfl⟩ := listed
    cases joined'
  · rename_i nothing
    refine ⟨.refl, fun t joined known phase u inFlight => ?_⟩
    cases ended : u.result? with
    | none => rfl
    | some result =>
      have waiting : (state.task? waiter).map Task.phase = some (.joined joined) :=
        Option.map_eq_some_iff.mpr ⟨t, known, phase⟩
      have found : (state.task? run).bind Task.result? = some result :=
        Option.bind_eq_some_iff.mpr ⟨u, inFlight, ended⟩
      exact absurd found (nothing _ _ waiting)

/-- A task that waits for runs hears of an end. -/
theorem moves_drain (waiter : TaskId) :
    Moves (state.desk hand) ((state.drain waiter).desk hand) := by
  rw [drain]
  split
  · rename_i runs left cancelled waiting
    obtain ⟨t, known, phase⟩ := Option.map_eq_some_iff.mp waiting
    split
    · simp only [desk_ending]
      exact .single (.drained _ waiter t runs left cancelled _ known phase)
    · exact .single (.drain (state.desk hand) waiter t runs left _ cancelled known phase)
  · exact .refl

/-- A piece of work in hand makes its moves and is spent. -/
theorem moves_execute (analyzer : Analyzer) (work : Work) :
    Moves (state.desk [work]) ((execute analyzer state work).desk [work]) ∧
      ((execute analyzer state work).desk [work]).Spent work := by
  cases work with
  | step task =>
    simp only [execute]
    split
    · rename_i t known
      exact moves_stepTask state _ analyzer known
    · rename_i unknown
      refine ⟨.refl, fun t result known => ?_⟩
      cases unknown.symm.trans known
  | settle file run =>
    simp only [execute]
    split
    · rename_i pending
      have removed : (state.pending.remove file).get? file ≠ some run := by simp
      exact ⟨.single (.settle (state.desk _) file run (by simp [desk]) (beq_iff_eq.mp pending)),
        removed⟩
    · rename_i other
      exact ⟨.refl, fun pending => other (beq_iff_eq.mpr pending)⟩
  | relay run waiter => exact moves_relay state _ run waiter (by simp)
  | drained waiter => exact ⟨moves_drain state _ waiter, trivial⟩
  | alarm file serial turns =>
    cases turns with
    | zero =>
      simp only [execute]
      split
      · exact ⟨moves_fire state _ file, trivial⟩
      · exact ⟨.refl, trivial⟩
    | succ turns => exact ⟨moves_enqueue state _ _ trivial, trivial⟩

/-- Doing the first piece of work makes its moves and drops it. -/
theorem turns_tick (analyzer : Analyzer) :
    Turns (state.desk []) ((tick analyzer state).desk []) := by
  rw [tick]
  split
  · exact .refl
  · rename_i work rest first
    obtain ⟨moves, spent⟩ := moves_execute { state with queue := rest } analyzer work
    have inHand : state.desk [] = { state with queue := rest }.desk [work] := by
      simp [desk, first]
    rw [inHand]
    exact moves.turns.tail (.drop _ work _ rfl spent)

/-- A scheduled action makes turns. -/
theorem turns_act {action : Action} (scheduled : action.Scheduled) :
    Turns (state.desk []) ((state.act action).desk []) := by
  cases action with
  | event event => exact (moves_handle state [] event).turns
  | trigger file => exact (moves_trigger state [] file).turns
  | ask job =>
    refine turns_ask state [] job fun file generation run => ?_
    rw [run] at scheduled
    exact scheduled
  | cancel task => exact scheduled.elim
  | tick analyzer => exact turns_tick state analyzer
  | clock time => exact .refl
  | alarm file =>
    simp only [act]
    split
    · exact (moves_fire state [] file).turns
    · exact .refl
  | hold file => exact .refl
  | release file => exact (moves_release state [] file).turns
  | respond file task => exact (moves_letGo state [] file task).turns
  | provide provider => exact .refl
  | inform task answer => exact (moves_inform state [] answer task).turns

/-- Cancelling a task moves tasks that have not ended to other such phases and queues their steps, so
what is kept by these is kept by a cancellation. -/
theorem keep_cancel (kept : Desk → Prop)
    (phases : ∀ {desk : Desk} {task : TaskId} {t : Task} {phase : Phase}, kept desk →
      desk.tasks[task]? = some t → t.result? = none → phase.result? = none →
      kept (desk.setPhase task phase))
    (steps : ∀ {desk : Desk} (task : TaskId), kept desk → kept (desk.enqueue (.step task)))
    (start : kept (state.desk [])) (task : TaskId) : kept ((state.cancel task).2.desk []) := by
  have moved : ∀ {s : State} {id : TaskId} {before after : Phase}, kept (s.desk []) →
      (s.task? id).map Task.phase = some before → before.result? = none → after.result? = none →
      kept ((s.setPhase id after).desk []) := by
    intro s id before after held at_ unfinished going
    obtain ⟨t, known, rfl⟩ := Option.map_eq_some_iff.mp at_
    exact phases held known unfinished going
  have step : ∀ {s : State} (id : TaskId), kept (s.desk []) → kept ((s.cancelStep id).desk []) := by
    intro s id held
    rw [cancelStep]
    split
    · exact steps id (moved held ‹_› rfl rfl)
    · exact steps id (moved held ‹_› rfl rfl)
    · exact steps id (moved held ‹_› rfl rfl)
    · exact moved held ‹_› rfl rfl
    · exact moved held ‹_› rfl rfl
    · exact moved held ‹_› rfl rfl
    · exact moved held ‹_› rfl rfl
    · exact held
  rw [cancel]
  split
  · exact start
  · exact start
  · rename_i runs left cancelled waiting
    exact List.foldlRecOn (motive := fun s : State => kept (s.desk [])) runs cancelStep
      (moved start waiting rfl rfl) fun s held run _ => step run held
  · exact step task start

/-- What turns, questions and cancellations keep is kept by every action. -/
theorem keep_act (kept : Desk → Prop)
    (turn : ∀ {desk desk' : Desk}, kept desk → Turn desk desk' → kept desk')
    (ask : ∀ {desk : Desk} (job : Job), kept desk → kept (desk.spawn job []))
    (phases : ∀ {desk : Desk} {task : TaskId} {t : Task} {phase : Phase}, kept desk →
      desk.tasks[task]? = some t → t.result? = none → phase.result? = none →
      kept (desk.setPhase task phase))
    (steps : ∀ {desk : Desk} (task : TaskId), kept desk → kept (desk.enqueue (.step task)))
    (start : kept (state.desk [])) (action : Action) : kept ((state.act action).desk []) := by
  by_cases scheduled : action.Scheduled
  · exact Turns.keep kept turn (turns_act state scheduled) start
  · cases action with
    | ask job => exact ask job start
    | cancel task => exact keep_cancel state kept phases steps start task
    | _ => exact (scheduled trivial).elim

/-- Scheduled actions make turns one after another. -/
theorem turns_play {actions : List Action} (scheduled : ∀ action ∈ actions, action.Scheduled) :
    Turns (state.desk []) ((state.play actions).desk []) := by
  induction actions generalizing state with
  | nil => exact .refl
  | cons action rest ih =>
    exact (turns_act state (scheduled action (by simp))).trans
      (ih (state.act action) fun later inside => scheduled later (by simp [inside]))

end State

end PredicateIndex.Pipeline
