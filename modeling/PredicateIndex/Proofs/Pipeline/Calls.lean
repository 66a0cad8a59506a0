import PredicateIndex.Proofs.Pipeline.View

/-!
# Calls of the analyzer

The calls of the analyzer are written into the journal. A run, or a question for a tree, makes one
in its first step if the document is open and the provider answers at once, or else in the step
after the provider has answered, and nothing else calls the analyzer. So the call of an action is
told from the state before it, and an action makes that call and no other.
-/
namespace PredicateIndex.Pipeline

namespace State

/-- The calls of the analyzer so far, in order. -/
def calls (state : State) : List AnalyzerCall :=
  state.journal.filterMap fun
    | .called call => some call
    | _ => none

variable (state : State)

/-- The call that a task makes in its next step. -/
def call? (t : Task) : Option AnalyzerCall :=
  match t.job, t.phase with
  | .run file _, .fresh | .tree file, .fresh => state.runCall? file .fresh
  | job, .informed file text away answer =>
    some { file, text := state.textFor job file text away, settings := answer.settings }
  | _, _ => none

/-- The call that an action makes. -/
def made? : Action → Option AnalyzerCall
  | .tick _ =>
    match state.queue with
    | .step task :: _ => (state.task? task).bind state.call?
    | _ => none
  | _ => none

/-- The call of a run is told from its phase. -/
theorem call?_of_isRunOf {t : Task} {file : String} (isRun : t.IsRunOf file) :
    state.call? t = state.runCall? file t.phase := by
  obtain ⟨job, phase, listeners⟩ := t
  obtain ⟨generation, rfl⟩ := isRun
  cases phase <;> rfl

/-- A task that has begun and was not given its settings makes no call. -/
theorem call?_eq_none {t : Task} (begun : t.phase ≠ .fresh)
    (uninformed : ∀ file text away answer, t.phase ≠ .informed file text away answer) :
    state.call? t = none := by
  unfold call?
  split
  · rename_i fresh
    exact (begun fresh).elim
  · rename_i fresh
    exact (begun fresh).elim
  · rename_i informed
    exact (uninformed _ _ _ _ informed).elim
  · rfl

/-- Doing work makes the call of the task that takes its step. -/
theorem made?_of_step {task : TaskId} {t : Task} (next : state.queue.head? = some (.step task))
    (known : state.task? task = some t) (analyzer : Analyzer) :
    state.made? (.tick analyzer) = state.call? t := by
  obtain ⟨rest, queue⟩ := List.head?_eq_some_iff.mp next
  simp only [made?, queue, known, Option.bind_some]

/-! ## Operations -/

/-- Only calls are counted. -/
theorem calls_log {entry : Entry} (other : ∀ call, entry ≠ .called call) :
    (state.log entry).calls = state.calls := by
  cases entry with
  | called call => exact (other call rfl).elim
  | _ => simp [calls, log]

/-- Ending a task calls nothing. -/
theorem calls_finish (task : TaskId) (result : Result) :
    (state.finish task result).calls = state.calls := by
  simp [finish, log, setPhase, calls]

/-- Joining a run calls nothing. -/
theorem calls_join (task run : TaskId) : (state.join task run).calls = state.calls := by
  simp only [join]
  split
  · exact calls_finish state task _
  · simp only [listen]
    split <;> simp [setPhase, enqueue, calls]

/-- A report is no call. -/
theorem calls_reportInRun (notice : Notice) :
    (state.reportInRun notice).calls = state.calls := by
  simp [calls, reportInRun, log]

/-- Publishing is no call. -/
theorem calls_publish (file : String) (diagnostics : List EditorDiagnostic) :
    (state.publish file diagnostics).calls = state.calls := by
  simp [calls, publish, log]

/-- Reports are no calls. -/
theorem calls_reports {α : Type} (notice : α → Notice) (notices : List α) :
    (notices.foldl (fun s n => s.reportInRun (notice n)) state).calls = state.calls := by
  induction notices generalizing state with
  | nil => rfl
  | cons first rest ih =>
    exact (ih (state.reportInRun (notice first))).trans (calls_reportInRun _ _)

/-- Installing an index is no call. -/
theorem calls_install (file : String) (generation : Option Int) (index : FileIndex) :
    (state.install file generation index).2.calls = state.calls := by
  rw [install]
  split
  · rfl
  · rw [calls_reportInRun, calls_publish, calls_reportInRun]
    rfl

/-- The end of a run is no call. -/
theorem calls_conclude (file : String) (generation : Option Int) (reply : Reply) :
    (state.conclude file generation reply).2.calls = state.calls := by
  rw [conclude]
  cases reply.result with
  | ok outcome =>
    simp only [concludeOutcome]
    split
    · cases outcome.tree with
      | none =>
        simp only
        rw [calls_reportInRun, calls_publish, calls_reports]
      | some tree =>
        simp only
        rw [calls_install, calls_reports, calls_reports]
    · exact calls_reports _ _ _
  | error crash =>
    have evicted : ∀ other : State, (other.evict file).calls = other.calls := by
      intro other
      rw [evict]
      split
      · exact calls_reportInRun _ _
      · rfl
    simp only [concludeCrash]
    split
    · rw [calls_publish, evicted, calls_reportInRun, calls_reports]
    · rw [evicted, calls_reportInRun, calls_reports]

/-- What is reported about settings is no call. -/
theorem calls_heed (job : Job) (file : String) (answer : SettingsAnswer) :
    (state.heed job file answer).calls = state.calls := by
  cases answer <;> simp [calls, heed, SettingsAnswer.notices]

/-- The answer to a call is no call. -/
theorem calls_answer (analyzer : Analyzer) (task : TaskId) (job : Job) (call : AnalyzerCall) :
    (state.answer analyzer task job call).calls = state.calls := by
  cases job with
  | run file generation =>
    simp only [answer]
    rw [calls_finish, calls_conclude]
  | _ =>
    simp only [answer]
    split <;> exact calls_finish _ _ _

/-- Starting a run is no call. -/
theorem calls_start (file : String) : (state.start file).2.calls = state.calls :=
  state.calls_log (by simp)

/-- A trigger is no call. -/
theorem calls_trigger (file : String) : (state.trigger file).2.calls = state.calls := by
  rw [trigger]
  split
  · exact state.calls_log (by simp)
  · split
    · exact state.calls_start file
    · rfl

/-- Listening is no call. -/
theorem calls_listen (task : TaskId) (work : Work) :
    (state.listen task work).calls = state.calls := by
  rw [listen]
  split <;> rfl

/-- The first step of a lookup is no call. -/
theorem calls_beginLookup (task : TaskId) (file : String) :
    (state.beginLookup task file).calls = state.calls := by
  rw [beginLookup]
  split
  · exact calls_finish _ _ _
  · split
    · exact state.calls_join task _
    · split
      · exact (calls_join _ task _).trans (state.calls_start file)
      · exact calls_finish _ _ _

/-- The end of a shutdown is no call. -/
theorem calls_stop (task : TaskId) (runs : Nat) : (state.stop task runs).calls = state.calls :=
  (calls_finish _ _ _).trans (state.calls_log (by simp))

/-- The first step of a shutdown is no call. -/
theorem calls_beginShutdown (task : TaskId) : (state.beginShutdown task).calls = state.calls := by
  rw [beginShutdown]
  split
  · exact calls_stop _ task 0
  · exact List.foldlRecOn (motive := fun s : State => s.calls = state.calls) _ _ rfl
      fun s same run _ => (s.calls_listen run _).trans same

/-- A task that calls the analyzer does so once. -/
theorem calls_call (analyzer : Analyzer) (task : TaskId) (job : Job) (file text : String)
    (answer : SettingsAnswer) :
    (state.call analyzer task job file text answer).calls =
      state.calls ++ [{ file, text, settings := answer.settings }] := by
  have called : ∀ (other : State) (call : AnalyzerCall),
      (other.log (.called call)).calls = other.calls ++ [call] := by
    intro other call
    simp [calls, log]
  rw [State.call]
  split
  · exact (called _ _).trans (by rw [calls_heed])
  · rw [calls_answer, called, calls_heed]

/-- Asking for settings is a call if the provider answers at once. -/
theorem calls_consult (analyzer : Analyzer) (task : TaskId) (job : Job) (file text : String) :
    (state.consult analyzer task job file text).calls = state.calls ++
      ((state.provider file).map fun answer =>
        { file, text, settings := answer.settings : AnalyzerCall }).toList := by
  rw [consult]
  cases state.provider file with
  | none => exact (List.append_nil _).symm
  | some answer => exact calls_call state analyzer task job file text answer

/-! ## Actions -/

/-- A task that reads an open document is to call the analyzer if the provider answers at once. -/
theorem runCall?_eq {state : State} {file : String} {document : Document}
    (opened : state.documents.get? file = some document) : state.runCall? file .fresh =
      (state.provider file).map fun answer =>
        { file, text := document.text, settings := answer.settings } := by
  rw [runCall?, opened]
  cases state.provider file <;> rfl

/-- The step of a task makes its call and no other. -/
theorem calls_stepTask (analyzer : Analyzer) (task : TaskId) (t : Task) :
    (stepTask analyzer state task t).calls = state.calls ++ (state.call? t).toList := by
  obtain ⟨job, phase, listeners⟩ := t
  cases phase with
  | fresh =>
    simp only [stepTask, begin, call?]
    cases job with
    | run file generation =>
      cases found : state.documents.get? file with
      | none => simp [found, runCall?, calls_finish]
      | some document =>
        simp only [found]
        refine (calls_consult _ analyzer task _ file document.text).trans ?_
        rw [calls_reportInRun, runCall?_eq found]
        rfl
    | lookup file => simpa using state.calls_beginLookup task file
    | tree file =>
      cases found : state.documents.get? file with
      | none => simp [found, runCall?, calls_finish]
      | some document =>
        simp only [found]
        refine (calls_consult _ analyzer task _ file document.text).trans ?_
        rw [runCall?_eq found]
    | shutdown => simpa using state.calls_beginShutdown task
  | informed file text away answer =>
    simp only [stepTask]
    rw [calls_call]
    cases job <;> rfl
  | answered call => simpa [stepTask, call?] using state.calls_answer analyzer task job call
  | ending result =>
    cases result with
    | drained runs => simpa [stepTask, call?] using state.calls_stop task runs
    | _ => simpa [stepTask, call?] using calls_finish state task _
  | asking | calling | joined | draining | ended => simp [stepTask, call?]

/-- Doing work makes the call of the first piece of it. -/
theorem calls_tick (analyzer : Analyzer) :
    (tick analyzer state).calls = state.calls ++ (state.made? (.tick analyzer)).toList := by
  cases queue : state.queue with
  | nil => simp [tick, made?, queue]
  | cons work rest =>
    simp only [tick, made?, queue]
    cases work with
    | step task =>
      simp only [execute]
      have same : ({ state with queue := rest } : State).task? task = state.task? task := rfl
      rw [same]
      cases known : state.task? task with
      | none => simp [calls]
      | some t => exact calls_stepTask { state with queue := rest } analyzer task t
    | settle file run =>
      simp only [execute, Option.toList_none, List.append_nil]
      split <;> rfl
    | relay run waiter =>
      simp only [execute, relay, Option.toList_none, List.append_nil]
      split <;> rfl
    | drained waiter =>
      simp only [execute, drain, Option.toList_none, List.append_nil]
      split
      · split <;> rfl
      · rfl
    | alarm file serial turns =>
      rw [Option.toList_none, List.append_nil]
      cases turns with
      | succ turns => rfl
      | zero =>
        simp only [execute]
        split
        · exact calls_trigger _ file
        · rfl

/-- An answer of the analyzer is no call. -/
theorem calls_letGo (file : String) (task : TaskId) :
    (letGo file state task).calls = state.calls := by
  rw [letGo]
  split
  · split <;> rfl
  · rfl

/-- A request that fires is no call. -/
theorem calls_fire (file : String) : (state.fire file).calls = state.calls :=
  calls_trigger _ file

/-- An event is no call. -/
theorem calls_handle (event : Event) : (state.handle event).calls = state.calls := by
  have fires : ∀ (files : List String) (other : State),
      (files.foldl fire other).calls = other.calls := fun files other =>
    List.foldlRecOn (motive := fun s : State => s.calls = other.calls) files fire rfl
      fun s same file _ => (s.calls_fire file).trans same
  cases event with
  | opened file text version => exact (calls_trigger _ file).trans (state.calls_log (by simp))
  | changed file text version =>
    rw [handle, holdBack]
    split <;> rfl
  | saved file text =>
    cases text with
    | none => exact state.calls_fire file
    | some text => exact calls_fire (state.setDocument file _) file
  | closed file => exact calls_publish _ file []
  | configured settings =>
    cases settings with
    | none => exact fires _ state
    | some given => exact fires _ { state with provider := .fixed given }
  | reanalyzed => exact fires _ state

/-- A cancellation is no call. -/
theorem calls_cancel (task : TaskId) : (state.cancel task).2.calls = state.calls := by
  have alone : ∀ (other : State) (task : TaskId), (other.cancelStep task).calls = other.calls := by
    intro other task
    rw [cancelStep]
    split <;> rfl
  rw [cancel]
  split
  · rfl
  · rfl
  · exact List.foldlRecOn (motive := fun s : State => s.calls = state.calls) _ cancelStep rfl
      fun s same run _ => (alone s run).trans same
  · exact alone state task

/-- An action makes its call and no other. -/
theorem calls_act (action : Action) :
    (state.act action).calls = state.calls ++ (state.made? action).toList := by
  cases action with
  | tick analyzer => exact state.calls_tick analyzer
  | event event => simpa [made?, act] using state.calls_handle event
  | trigger file => simpa [made?, act] using state.calls_trigger file
  | cancel task => simpa [made?, act] using state.calls_cancel task
  | alarm file =>
    simp only [act, made?, Option.toList_none, List.append_nil]
    split
    · exact state.calls_fire file
    · rfl
  | ask | clock | hold | provide => simp [made?, act, ask, spawn, hold, calls]
  | release file =>
    simp only [act, made?, Option.toList_none, List.append_nil]
    exact List.foldlRecOn (motive := fun s : State => s.calls = state.calls) _ (letGo file) rfl
      fun s same task _ => (s.calls_letGo file task).trans same
  | respond file task => simpa [made?, act] using state.calls_letGo file task
  | inform task answer =>
    simp only [act, made?, inform, Option.toList_none, List.append_nil]
    split <;> rfl

end State

end PredicateIndex.Pipeline
