import PredicateIndex.Proofs.Pipeline.Moves

/-!
# Where the settings come from

Only a change of the settings changes the provider, unless the provider itself answers in another
way. Every other action leaves it as it is, so the calls of the analyzer are made with the settings
of the start.
-/
namespace PredicateIndex.Pipeline.State

variable (state : State)

/-- Steps that each leave the provider leave it one after another. -/
theorem provider_foldl {α : Type} {step : State → α → State}
    (same : ∀ s a, (step s a).provider = s.provider) (items : List α) :
    (items.foldl step state).provider = state.provider := by
  induction items generalizing state with
  | nil => rfl
  | cons item rest ih => exact (ih (step state item)).trans (same state item)

/-- A trigger leaves the provider. -/
theorem provider_trigger (file : String) : (state.trigger file).2.provider = state.provider := by
  rw [trigger]
  split
  · rfl
  · split <;> rfl

/-- Listening leaves the provider. -/
theorem provider_listen (task : TaskId) (work : Work) :
    (state.listen task work).provider = state.provider := by
  rw [listen]
  split <;> rfl

/-- Joining a run leaves the provider. -/
theorem provider_join (task run : TaskId) : (state.join task run).provider = state.provider := by
  rw [join]
  split
  · rfl
  · exact provider_listen state run _

/-- An answer of the analyzer leaves the provider. -/
theorem provider_answer (analyzer : Analyzer) (task : TaskId) (job : Job) (call : AnalyzerCall) :
    (state.answer analyzer task job call).provider = state.provider := by
  cases job with
  | run file generation =>
    obtain ⟨cache, published, journal, frame⟩ :=
      conclude_frame state file generation (analyzer call)
    simp only [answer, frame]
    rfl
  | _ =>
    simp only [answer]
    split <;> rfl

/-- A call of the analyzer leaves the provider. -/
theorem provider_call (analyzer : Analyzer) (task : TaskId) (job : Job) (file text : String)
    (answer : SettingsAnswer) :
    (state.call analyzer task job file text answer).provider = state.provider := by
  rw [State.call]
  split
  · rfl
  · exact provider_answer _ analyzer task job _

/-- A question for settings leaves the provider. -/
theorem provider_consult (analyzer : Analyzer) (task : TaskId) (job : Job) (file text : String) :
    (state.consult analyzer task job file text).provider = state.provider := by
  rw [consult]
  split
  · exact provider_call state analyzer task job file text _
  · rfl

/-- The first step of a task leaves the provider. -/
theorem provider_begin (analyzer : Analyzer) (task : TaskId) (job : Job) :
    (state.begin analyzer task job).provider = state.provider := by
  cases job with
  | run file generation =>
    simp only [begin]
    split
    · rfl
    · exact provider_consult _ analyzer task _ file _
  | lookup file =>
    simp only [begin, beginLookup]
    split
    · rfl
    · split
      · exact provider_join state task _
      · split
        · exact provider_join _ task _
        · rfl
  | tree file =>
    simp only [begin]
    split
    · rfl
    · exact provider_consult state analyzer task _ file _
  | shutdown =>
    simp only [begin, beginShutdown]
    split
    · rfl
    · exact provider_foldl { state with debouncer := state.debouncer.cancelAll }
        (fun s run => provider_listen s run (.drained task)) _

/-- Work leaves the provider. -/
theorem provider_tick (analyzer : Analyzer) : (tick analyzer state).provider = state.provider := by
  rw [tick]
  split
  · rfl
  · rename_i work rest _
    cases work with
    | step task =>
      simp only [execute]
      split
      · rw [stepTask]
        split
        · exact provider_begin _ analyzer task _
        · exact provider_call _ analyzer task _ _ _ _
        · exact provider_answer _ analyzer task _ _
        · rfl
        · rfl
        · rfl
      · rfl
    | settle file run =>
      simp only [execute]
      split <;> rfl
    | relay run waiter =>
      simp only [execute, relay]
      split <;> rfl
    | drained waiter =>
      simp only [execute, drain]
      split
      · split <;> rfl
      · rfl
    | alarm file serial turns =>
      cases turns with
      | succ turns => rfl
      | zero =>
        simp only [execute]
        split
        · exact provider_trigger _ file
        · rfl

/-- Answering a call leaves the provider. -/
theorem provider_letGo (file : String) (task : TaskId) :
    (letGo file state task).provider = state.provider := by
  rw [letGo]
  split
  · split <;> rfl
  · rfl

/-- Answering a task that waits for its settings leaves the provider. -/
theorem provider_inform (answer : SettingsAnswer) (task : TaskId) :
    (state.inform answer task).provider = state.provider := by
  rw [inform]
  split <;> rfl

/-- A request that fires leaves the provider. -/
theorem provider_fire (file : String) : (state.fire file).provider = state.provider :=
  provider_trigger (state.cancelRequest file) file

/-- An event leaves the provider unless it gives new settings. -/
theorem provider_handle {event : Event} (other : ∀ settings, event ≠ .configured (some settings)) :
    (state.handle event).provider = state.provider := by
  cases event with
  | opened file text version => exact provider_trigger _ file
  | changed file text version =>
    rw [handle, holdBack]
    split <;> rfl
  | saved file text => cases text <;> exact provider_fire _ file
  | closed file => rfl
  | configured settings =>
    cases settings with
    | none => exact provider_foldl state provider_fire _
    | some given => exact (other given rfl).elim
  | reanalyzed => exact provider_foldl state provider_fire _

/-- Cancelling a task leaves the provider. -/
theorem provider_cancel (task : TaskId) : (state.cancel task).2.provider = state.provider := by
  have step : ∀ (s : State) (id : TaskId), (s.cancelStep id).provider = s.provider := by
    intro s id
    rw [cancelStep]
    split <;> rfl
  rw [cancel]
  split
  · rfl
  · rfl
  · exact provider_foldl _ step _
  · exact step state task

/-- An action leaves the provider unless it gives new settings or another provider. -/
theorem provider_act {action : Action}
    (other : ∀ settings, action ≠ .event (.configured (some settings)))
    (kept : ∀ provider, action ≠ .provide provider) :
    (state.act action).provider = state.provider := by
  cases action with
  | event event => exact provider_handle state fun settings same => other settings (same ▸ rfl)
  | trigger file => exact provider_trigger state file
  | ask job => rfl
  | cancel task => exact provider_cancel state task
  | tick analyzer => exact provider_tick state analyzer
  | clock time => rfl
  | alarm file =>
    simp only [act]
    split
    · exact provider_fire state file
    · rfl
  | hold file => rfl
  | release file =>
    exact provider_foldl { state with held := state.held.filter (· != file) }
      (fun s task => provider_letGo s file task) _
  | respond file task => exact provider_letGo state file task
  | provide provider => exact (kept provider rfl).elim
  | inform task answer => exact provider_inform state answer task

end PredicateIndex.Pipeline.State
