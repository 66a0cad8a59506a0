import PredicateIndex.Proofs.Cache.Slot
import PredicateIndex.Proofs.Pipeline.Lane
import PredicateIndex.Proofs.Pipeline.Shelf
import PredicateIndex.Proofs.Pipeline.Standing

/-!
# What writes to the cache

The cache is written in two places only: a document that is closed is dropped from it, and a run
that takes in a reply of the analyzer installs an index, or evicts one if it was broken off. The
run ends in the same step. What the reply does to the shelf is one function of the shelf, the
generation of the run and the reply; everything else that is done leaves the cache as it is,
whatever runs are started by hand and whatever is cancelled.
-/
namespace PredicateIndex.Pipeline

/-- The shelf after a run under a generation has taken a reply in. -/
def Shelf.conclude (shelf : Shelf) (file : String) (generation : Option Int) (reply : Reply) :
    Shelf :=
  match reply.result with
  | .ok outcome =>
    if (shelf.documents.get? file).isSome then
      match outcome.tree with
      | none => shelf.publish file (forEditor outcome.diagnostics)
      | some tree =>
        if shelf.cache.isStale file generation then shelf
        else
          let index := installedIndex file tree outcome
          { shelf with cache := shelf.cache.write file index generation }.publish file
            (forEditor index.diagnostics)
    else shelf
  | .error crash =>
    let evicted := { shelf with cache := shelf.cache.evict file }
    if (shelf.documents.get? file).isSome then evicted.publish file [internalDiagnostic crash]
    else evicted

/-- A task with a job has ended. -/
def Desk.HasEnded (desk : Desk) (task : TaskId) (job : Job) : Prop :=
  ∃ t, desk.tasks[task]? = some t ∧ t.job = job ∧ t.result?.isSome

namespace State

variable {state : State} {run : TaskId} {file : String} {generation : Option Int} {reply : Reply}

/-! ## Tasks that have ended -/

/-- A task with a job has ended. -/
def HasEnded (state : State) (task : TaskId) (job : Job) : Prop :=
  (state.desk []).HasEnded task job

/-- A task that has ended stays so, whatever is done. -/
theorem HasEnded.act {task : TaskId} {job : Job} (ended : state.HasEnded task job)
    (action : Action) : (state.act action).HasEnded task job := by
  refine keep_act state (fun desk => desk.HasEnded task job) ?_ ?_ ?_ (fun _ held => held) ended
    action
  · rintro d d' ⟨t, known, ofJob, finished⟩ turned
    obtain ⟨u, found, same, still⟩ := Moored.kept_turn turned task t known
    exact ⟨u, found, same.trans ofJob, still finished⟩
  · rintro desk asked ⟨t, known, rest⟩
    exact ⟨t, desk.tasks_spawn_of_known asked [] known, rest⟩
  · rintro desk other t phase ⟨u, found, ofJob, finished⟩ known unfinished -
    -- what is moved by a cancellation has not ended, so it is another task
    have apart : other ≠ task := by
      rintro rfl
      obtain rfl : t = u := Option.some.inj (known.symm.trans found)
      simp [unfinished] at finished
    refine ⟨u, ?_, ofJob, finished⟩
    simp [Desk.tasks_setPhase, found, apart]

/-- A task that has ended stays so. -/
theorem HasEnded.play {task : TaskId} {job : Job} (ended : state.HasEnded task job)
    (actions : List Action) : (state.play actions).HasEnded task job :=
  List.foldlRecOn (motive := fun s : State => s.HasEnded task job) actions State.act ended
    fun _ held action _ => held.act action

/-! ## The end of a run -/

/-- The end of a run with an outcome is seen on the shelf. -/
theorem shelf_concludeOutcome (state : State) (file : String) (generation : Option Int)
    {outcome : Outcome} (replied : reply.result = .ok outcome) :
    (state.concludeOutcome file generation outcome).2.shelf =
      state.shelf.conclude file generation reply := by
  have opened : (state.shelf.documents.get? file).isSome = state.isOpen file := rfl
  simp only [concludeOutcome, Shelf.conclude, replied, opened]
  split
  · cases outcome.tree with
    | none =>
      simp only
      rw [shelf_reportInRun, shelf_publish]
    | some tree =>
      have reported := shelf_reports state .indexing tree.notices
      simp only
      generalize tree.notices.foldl (fun s notice => s.reportInRun (.indexing notice)) state =
        other at reported
      have same : state.shelf.cache.isStale file generation =
        other.cache.isStale file generation :=
          congrArg (fun shelf => shelf.cache.isStale file generation) reported.symm
      rw [same]
      split
      · rename_i stale
        rw [install_of_stale stale, reported]
      · rename_i timely
        rw [shelf_install (Bool.eq_false_iff.mpr timely), reported]
        exact congrArg (fun shelf : Shelf => Shelf.publish { state.shelf with
          cache := shelf.cache.write file (installedIndex file tree outcome) generation } file _)
          reported
  · rfl

/-- The end of a run that was broken off is seen on the shelf. -/
theorem shelf_concludeCrash (state : State) (file : String) (generation : Option Int)
    {crash : Crash} (replied : reply.result = .error crash) :
    (state.concludeCrash file crash).shelf = state.shelf.conclude file generation reply := by
  have evicted : ((state.reportInRun (.internalError file)).evict file).shelf =
      { state.shelf with cache := state.shelf.cache.evict file } := by
    rw [shelf_evict, shelf_reportInRun]
    rfl
  have opened : ((state.reportInRun (.internalError file)).evict file).isOpen file =
      (state.shelf.documents.get? file).isSome :=
    congrArg (fun shelf => (shelf.documents.get? file).isSome) evicted
  simp only [concludeCrash, Shelf.conclude, replied, opened]
  split
  · rw [shelf_publish, evicted]
  · exact evicted

/-- The end of a run is seen on the shelf. -/
theorem shelf_conclude (state : State) (file : String) (generation : Option Int) (reply : Reply) :
    (state.conclude file generation reply).2.shelf =
      state.shelf.conclude file generation reply := by
  have reported := shelf_reports state .analyzer reply.notices
  rw [conclude, ← reported]
  cases replied : reply.result with
  | ok outcome => exact shelf_concludeOutcome _ file generation replied
  | error crash => exact shelf_concludeCrash _ file generation replied

/-- The next piece of work is the step of a run in which it takes a reply in. -/
structure Takes (state : State) (analyzer : Analyzer) (run : TaskId) (file : String)
    (generation : Option Int) (reply : Reply) : Prop where
  /-- The run takes its step next. -/
  next : state.queue.head? = some (.step run)
  /-- It is a run of the file under the generation, and the reply is for it. -/
  replied : ∃ t, state.task? run = some t ∧ t.job = .run file generation ∧
    reply? analyzer state file t.phase = some reply

/-- A run that takes a reply in has not ended before. -/
theorem Takes.unfinished {analyzer : Analyzer}
    (takes : state.Takes analyzer run file generation reply) :
    ∃ t, state.task? run = some t ∧ t.job = .run file generation ∧ t.result? = none := by
  obtain ⟨t, known, job, replied⟩ := takes.replied
  refine ⟨t, known, job, ?_⟩
  rw [Task.result?_eq]
  obtain fresh | ⟨asked, text, away, answer, informed⟩ | ⟨call, answered⟩ := phase_of_reply? replied
  · rw [fresh]
    rfl
  · rw [informed]
    rfl
  · rw [answered]
    rfl

/-- A run that calls the analyzer has only written to the journal before. -/
theorem stepTask_of_runCall? (analyzer : Analyzer) {t : Task} {call : AnalyzerCall}
    (job : t.job = .run file generation) (makes : state.runCall? file t.phase = some call)
    (run : TaskId) :
    ∃ (before : State) (answer : SettingsAnswer), before.shelf = state.shelf ∧
      before.tasks = state.tasks ∧ before.held = state.held ∧ call.settings = answer.settings ∧
      stepTask analyzer state run t =
        before.call analyzer run (.run file generation) call.file call.text answer := by
  unfold runCall? at makes
  split at makes
  · rename_i fresh
    split at makes
    · rename_i document answer opened provided
      cases makes
      have asked : (state.reportInRun (.runStarted file generation)).provider file = some answer :=
        provided
      refine ⟨state.reportInRun (.runStarted file generation), answer, shelf_reportInRun state _,
        rfl, rfl, rfl, ?_⟩
      simp only [stepTask, fresh, begin, job, opened, consult, asked]
    · cases makes
  · rename_i asked text away answer informed
    cases makes
    refine ⟨state, answer, rfl, rfl, rfl, rfl, ?_⟩
    simp only [stepTask, informed, job, textFor]
  · cases makes

/-- A run that takes a reply in comes to its end with it, and has only written to the journal
before. -/
theorem stepTask_of_reply (analyzer : Analyzer) {t : Task} (job : t.job = .run file generation)
    (replied : reply? analyzer state file t.phase = some reply) (run : TaskId) :
    ∃ taken : State, taken.shelf = state.shelf ∧ taken.tasks = state.tasks ∧
      stepTask analyzer state run t = (taken.conclude file generation reply).2.finish run
        (.index (taken.conclude file generation reply).1) := by
  obtain ⟨call, rfl, answered | ⟨makes, free⟩⟩ := exists_call_of_reply? replied
  · refine ⟨state, rfl, rfl, ?_⟩
    simp only [stepTask, answered, answer, job]
  · obtain ⟨before, given, shelf, tasks, held, settings, step⟩ :=
      stepTask_of_runCall? analyzer job makes run
    have goes : ¬before.held.contains call.file := held ▸ free
    refine ⟨(before.heed (.run file generation) call.file given).log (.called call),
      (shelf_called before _ _ _ _).trans shelf, tasks, ?_⟩
    rw [step, State.call, if_neg goes, ← settings]
    rfl

/-- A run that takes a reply in ends with it. -/
theorem Takes.tick_eq {analyzer : Analyzer}
    (takes : state.Takes analyzer run file generation reply) :
    ∃ taken : State, taken.shelf = state.shelf ∧ taken.tasks = state.tasks ∧
      tick analyzer state = (taken.conclude file generation reply).2.finish run
        (.index (taken.conclude file generation reply).1) := by
  obtain ⟨next, t, known, job, replied⟩ := takes
  obtain ⟨rest, queue⟩ := List.head?_eq_some_iff.mp next
  have found : ({ state with queue := rest } : State).task? run = some t := known
  have given : reply? analyzer { state with queue := rest } file t.phase = some reply := replied
  obtain ⟨taken, shelf, tasks, step⟩ := stepTask_of_reply analyzer job given run
  refine ⟨taken, shelf, tasks, ?_⟩
  simp only [tick, queue, execute, found]
  exact step

/-- What a run does with a reply is seen on the shelf. -/
theorem Takes.shelf_tick {analyzer : Analyzer}
    (takes : state.Takes analyzer run file generation reply) :
    (tick analyzer state).shelf = state.shelf.conclude file generation reply := by
  obtain ⟨taken, shelf, -, ticked⟩ := takes.tick_eq
  rw [ticked, shelf_finish, shelf_conclude, shelf]

/-- A run has ended when it has taken a reply in. -/
theorem Takes.hasEnded {analyzer : Analyzer}
    (takes : state.Takes analyzer run file generation reply) :
    (tick analyzer state).HasEnded run (.run file generation) := by
  obtain ⟨taken, -, tasks, ticked⟩ := takes.tick_eq
  obtain ⟨t, known, job, -⟩ := takes.replied
  obtain ⟨cache, published, journal, frame⟩ := conclude_frame taken file generation reply
  have listed : taken.tasks[run]? = some t := by
    rw [tasks]
    exact known
  rw [ticked, frame]
  generalize (taken.conclude file generation reply).1 = index
  exact ⟨{ t with phase := .ended (.index index) }, by simp [desk, finish, setPhase, log, listed],
    job, rfl⟩

/-- The next piece of work is the step of a run in which it offers the index of an open document to
the cache. -/
def Offers (state : State) (analyzer : Analyzer) (run : TaskId) (file : String)
    (generation : Option Int) (index : FileIndex) : Prop :=
  ∃ reply outcome tree, state.Takes analyzer run file generation reply ∧ state.isOpen file ∧
    reply.result = .ok outcome ∧ outcome.tree = some tree ∧
    index = { tree.index (some file) with
      diagnostics := (tree.index (some file)).diagnostics ++ outcome.diagnostics }

/-- An index that is offered is installed unless it comes too late. -/
theorem Offers.cache_tick {analyzer : Analyzer} {index : FileIndex}
    (offers : state.Offers analyzer run file generation index) :
    (tick analyzer state).cache = (state.cache.install file index generation).2 := by
  obtain ⟨reply, outcome, tree, takes, opened, replied, parsed, rfl⟩ := offers
  have shown : (state.shelf.documents.get? file).isSome := opened
  refine (congrArg Shelf.cache takes.shelf_tick).trans ?_
  simp only [Shelf.conclude, replied, shown, if_true, parsed, Cache.install]
  have same : state.shelf.cache = state.cache := rfl
  rw [same]
  split <;> rfl

/-- An index that is offered in time is found afterwards, with its generation. -/
theorem Offers.slot_tick {analyzer : Analyzer} {index : FileIndex}
    (offers : state.Offers analyzer run file generation index)
    (timely : state.cache.isStale file generation = false) :
    (tick analyzer state).cache.slot file =
      { index := some index, generation := generation.or (state.cache.generation? file) } := by
  rw [offers.cache_tick, Cache.install_of_timely _ _ _ _ timely]
  exact (Cache.slot_write _ _ _ _ _).trans (if_pos rfl)

/-- An action drops the entry of a file: it closes its document, or a run of it that was broken off
ends. -/
inductive Evicts (state : State) (file : String) : Action → Prop where
  /-- The document is closed. -/
  | closed : Evicts state file (.event (.closed file))
  /-- A run takes in that the analyzer was broken off. -/
  | brokenOff (analyzer : Analyzer) (run : TaskId) (generation : Option Int) (reply : Reply)
    (crash : Crash) (takes : state.Takes analyzer run file generation reply)
    (replied : reply.result = .error crash) : Evicts state file (.tick analyzer)

/-! ## Everything else -/

/-- A request that fires leaves the cache. -/
theorem cache_fire (state : State) (file : String) : (state.fire file).cache = state.cache :=
  congrArg Shelf.cache (shelf_trigger (state.cancelRequest file) file)

/-- Analyzing all open documents again leaves the cache. -/
theorem cache_reanalyze (state : State) : state.reanalyze.cache = state.cache :=
  List.foldlRecOn (motive := fun s : State => s.cache = state.cache) _ fire rfl
    fun s same file _ => (cache_fire s file).trans same

/-- An event other than a closing leaves the cache. -/
theorem cache_handle (state : State) {event : Event} (other : ∀ file, event ≠ .closed file) :
    (state.handle event).cache = state.cache := by
  cases event with
  | opened file text version => exact congrArg Shelf.cache (shelf_trigger _ file)
  | changed file text version =>
    rw [handle, holdBack]
    split <;> rfl
  | saved file text =>
    cases text with
    | none => exact cache_fire state file
    | some text => exact cache_fire (state.setDocument file _) file
  | closed file => exact (other file rfl).elim
  | configured settings =>
    cases settings with
    | none => exact cache_reanalyze state
    | some given => exact cache_reanalyze { state with provider := .fixed given }
  | reanalyzed => exact cache_reanalyze state

/-- The answer to a task that is no run leaves the shelf. -/
theorem shelf_answer_of_ne_run (analyzer : Analyzer) (task : TaskId) {job : Job}
    (other : ∀ file generation, job ≠ .run file generation) (call : AnalyzerCall) :
    (state.answer analyzer task job call).shelf = state.shelf := by
  cases job with
  | run file generation => exact (other file generation rfl).elim
  | _ =>
    simp only [answer]
    split <;> exact shelf_finish state task _

/-- A call of a task that is no run leaves the shelf. -/
theorem shelf_call_of_ne_run (analyzer : Analyzer) (task : TaskId) {job : Job}
    (other : ∀ file generation, job ≠ .run file generation) (file text : String)
    (answer : SettingsAnswer) :
    (state.call analyzer task job file text answer).shelf = state.shelf := by
  have called := shelf_called state job file answer { file, text, settings := answer.settings }
  rw [State.call]
  split
  · exact called
  · exact (shelf_answer_of_ne_run analyzer task other _).trans called

/-- The first step of a task that is no run drops requests at most. -/
theorem shelf_begin_of_ne_run (analyzer : Analyzer) (task : TaskId) {job : Job}
    (other : ∀ file generation, job ≠ .run file generation) :
    ∃ debouncer, (state.begin analyzer task job).shelf = { state.shelf with debouncer } := by
  cases job with
  | run file generation => exact (other file generation rfl).elim
  | lookup file => exact ⟨_, shelf_beginLookup state task file⟩
  | tree file =>
    refine ⟨state.debouncer, ?_⟩
    rw [begin]
    split
    · exact shelf_finish state task _
    · rw [consult]
      split
      · exact shelf_call_of_ne_run analyzer task other file _ _
      · rfl
  | shutdown =>
    refine ⟨state.debouncer.cancelAll, ?_⟩
    rw [begin, beginShutdown]
    split
    · exact shelf_stop { state with debouncer := state.debouncer.cancelAll } task 0
    · exact shelf_foldl { state with debouncer := state.debouncer.cancelAll }
        (fun s run => shelf_listen s run (.drained task)) _

/-- The step of a run that takes no reply in leaves the shelf. -/
theorem shelf_step_run (analyzer : Analyzer) (task : TaskId) {t : Task}
    (job : t.job = .run file generation) (silent : reply? analyzer state file t.phase = none) :
    (stepTask analyzer state task t).shelf = state.shelf := by
  cases makes : state.runCall? file t.phase with
  | some call =>
    obtain ⟨before, given, shelf, -, held, -, step⟩ := stepTask_of_runCall? analyzer job makes task
    have waits : before.held.contains call.file := by
      rw [reply?_of_runCall? makes] at silent
      simpa [held] using silent
    rw [step, State.call, if_pos waits]
    exact (shelf_called before _ _ _ _).trans shelf
  | none =>
    rw [stepTask]
    cases phase : t.phase with
    | fresh =>
      simp only [job, begin]
      cases found : state.documents.get? file with
      | none => exact shelf_finish state task _
      | some document =>
        have unprovided : (state.reportInRun (.runStarted file generation)).provider file = none := by
          cases provided : state.provider file with
          | none => exact provided
          | some answer => simp [phase, runCall?, found, provided] at makes
        simp only [consult, unprovided]
        exact shelf_reportInRun state _
    | informed asked text away answer => simp [phase, runCall?] at makes
    | answered call => simp [reply?, phase] at silent
    | ending result =>
      cases result with
      | drained runs => exact shelf_stop state task runs
      | _ => exact shelf_finish state task _
    | _ => rfl

/-- The step of a task that takes no reply in drops requests at most. -/
theorem shelf_stepTask (analyzer : Analyzer) (task : TaskId) {t : Task}
    (without : ∀ file generation, t.job = .run file generation →
      reply? analyzer state file t.phase = none) :
    ∃ debouncer, (stepTask analyzer state task t).shelf = { state.shelf with debouncer } := by
  by_cases isRun : ∃ file generation, t.job = .run file generation
  · obtain ⟨file, generation, job⟩ := isRun
    exact ⟨state.debouncer, shelf_step_run analyzer task job (without file generation job)⟩
  · push Not at isRun
    rw [stepTask]
    split
    · exact shelf_begin_of_ne_run analyzer task isRun
    · exact ⟨_, shelf_call_of_ne_run analyzer task isRun _ _ _⟩
    · exact ⟨_, shelf_answer_of_ne_run analyzer task isRun _⟩
    · exact ⟨_, shelf_stop state task _⟩
    · exact ⟨_, shelf_finish state task _⟩
    · exact ⟨_, rfl⟩

/-- Work drops requests at most, unless a run takes a reply in. -/
theorem shelf_tick (state : State) (analyzer : Analyzer) :
    (∃ debouncer, (tick analyzer state).shelf = { state.shelf with debouncer }) ∨
      ∃ run file generation reply, state.Takes analyzer run file generation reply := by
  cases queue : state.queue with
  | nil => exact .inl ⟨state.debouncer, by rw [tick, queue]; rfl⟩
  | cons work rest =>
    simp only [tick, queue]
    cases work with
    | step task =>
      simp only [execute]
      cases known : ({ state with queue := rest } : State).task? task with
      | none => exact .inl ⟨state.debouncer, rfl⟩
      | some t =>
        by_cases taking : ∃ file generation reply, t.job = .run file generation ∧
          reply? analyzer state file t.phase = some reply
        · obtain ⟨file, generation, reply, job, replied⟩ := taking
          exact .inr ⟨task, file, generation, reply, by rw [queue]; rfl, t, known, job, replied⟩
        · refine .inl (shelf_stepTask analyzer task fun file generation job => ?_)
          rw [Option.eq_none_iff_forall_ne_some]
          exact fun reply replied => taking ⟨file, generation, reply, job, replied⟩
    | settle file run =>
      simp only [execute]
      split <;> exact .inl ⟨state.debouncer, rfl⟩
    | relay run waiter =>
      simp only [execute, relay]
      split <;> exact .inl ⟨state.debouncer, rfl⟩
    | drained waiter =>
      simp only [execute, drain]
      split
      · split <;> exact .inl ⟨state.debouncer, rfl⟩
      · exact .inl ⟨state.debouncer, rfl⟩
    | alarm file serial turns =>
      cases turns with
      | succ turns => exact .inl ⟨state.debouncer, rfl⟩
      | zero =>
        simp only [execute]
        split
        · exact .inl ⟨_, shelf_trigger (cancelRequest { state with queue := rest } file) file⟩
        · exact .inl ⟨state.debouncer, rfl⟩

/-- A reply that a run takes in leaves the cache, drops the entry of the file, or offers an index of
it. -/
theorem Takes.cache_tick {analyzer : Analyzer}
    (takes : state.Takes analyzer run file generation reply) :
    (tick analyzer state).cache = state.cache ∨
      state.Evicts file (.tick analyzer) ∧ (tick analyzer state).cache = state.cache.evict file ∨
      ∃ index, state.Offers analyzer run file generation index := by
  have cache := congrArg Shelf.cache takes.shelf_tick
  rw [Shelf.conclude] at cache
  cases replied : reply.result with
  | error crash =>
    refine .inr (.inl ⟨.brokenOff analyzer run generation reply crash takes replied, ?_⟩)
    simp only [replied] at cache
    split at cache <;> exact cache
  | ok outcome =>
    by_cases opened : state.isOpen file
    · cases parsed : outcome.tree with
      | some tree =>
        exact .inr (.inr ⟨_, reply, outcome, tree, takes, opened, replied, parsed, rfl⟩)
      | none =>
        simp only [replied, parsed] at cache
        split at cache <;> exact .inl cache
    · have hidden : ¬(state.shelf.documents.get? file).isSome := opened
      simp only [replied, if_neg hidden] at cache
      exact .inl cache

/-- An action leaves the cache, drops the entry of a file, or offers it an index. -/
theorem cache_act (state : State) (action : Action) :
    (state.act action).cache = state.cache ∨
      (∃ file, state.Evicts file action ∧ (state.act action).cache = state.cache.evict file) ∨
      ∃ analyzer run file generation index, action = .tick analyzer ∧
        state.Offers analyzer run file generation index := by
  cases action with
  | event event =>
    by_cases closing : ∃ file, event = .closed file
    · obtain ⟨file, rfl⟩ := closing
      exact .inr (.inl ⟨file, .closed, rfl⟩)
    · exact .inl (cache_handle state fun file same => closing ⟨file, same⟩)
  | trigger file => exact .inl (congrArg Shelf.cache (shelf_trigger state file))
  | ask job => exact .inl rfl
  | cancel task => exact .inl (congrArg Shelf.cache (shelf_cancel state task))
  | tick analyzer =>
    rcases shelf_tick state analyzer with ⟨_, same⟩ | ⟨run, file, generation, reply, takes⟩
    · exact .inl (congrArg Shelf.cache same)
    · rcases takes.cache_tick with same | dropped | ⟨index, offers⟩
      · exact .inl same
      · exact .inr (.inl ⟨file, dropped⟩)
      · exact .inr (.inr ⟨analyzer, run, file, generation, index, rfl, offers⟩)
  | clock time => exact .inl rfl
  | alarm file =>
    simp only [act]
    split
    · exact .inl (cache_fire state file)
    · exact .inl rfl
  | hold file => exact .inl rfl
  | release file =>
    exact .inl (congrArg Shelf.cache (shelf_foldl { state with
      held := state.held.filter (· != file) } (fun s task => shelf_letGo s file task) _))
  | respond file task => exact .inl (congrArg Shelf.cache (shelf_letGo state file task))
  | provide provider => exact .inl rfl
  | inform task answer => exact .inl (congrArg Shelf.cache (shelf_inform state answer task))

end State

end PredicateIndex.Pipeline
