import PredicateIndex.Proofs.Pipeline.View

/-!
# What an action does to one file

Every scheduled action has one effect on each file, which depends on the action and on what is next
in the queue. `view_act` says that the view of a file after an action is its view before, changed by
the effect. The view of a file after an interleaving is therefore known from its effects on that
file.
-/
namespace PredicateIndex.Pipeline

/-- What can happen to one file. -/
inductive Effect where
  /-- Nothing. -/
  | nothing
  /-- Its document is opened. -/
  | opened (text : String) (version : Int)
  /-- Its document is changed, and a request waits. -/
  | changed (text : String) (version : Option Int)
  /-- Its document is saved. -/
  | saved (text : Option String)
  /-- Its document is closed. -/
  | closed
  /-- An analysis is triggered. -/
  | triggered
  /-- The waiting request is dropped, and an analysis triggered. -/
  | fired
  /-- A lookup starts a run. -/
  | started
  /-- The run in flight finds no document and ends. -/
  | skipped
  /-- The run in flight reads the document and waits for its settings. -/
  | consulted (text : String)
  /-- The provider has an answer for the run in flight. -/
  | informed (answer : SettingsAnswer)
  /-- The run in flight calls the analyzer, which may reply at once. -/
  | called (call : AnalyzerCall) (reply : Option Reply)
  /-- The analyzer has an answer for the run in flight. -/
  | answered
  /-- The run in flight ends with a reply. -/
  | concluded (reply : Reply)
  /-- The run in flight is settled. -/
  | settled
  /-- The waiting request is dropped. -/
  | silenced

/-- The view of a file after an effect. -/
def View.apply (file : String) (view : View) : Effect → View
  | .nothing => view
  | .opened text version => (view.setDocument { text, version }).trigger
  | .changed text version =>
    { view.setDocument (State.changedDocument view.document text version) with waiting := true }
  | .saved text =>
    match State.savedDocument? view.document text with
    | some document => (view.setDocument document).fire
    | none => view.fire
  | .closed => view.close
  | .triggered => view.trigger
  | .fired => view.fire
  | .started => view.start
  | .skipped => view.finish
  | .consulted text => { view with stage := some (.asking text) }
  | .informed answer => view.inform file answer
  | .called call none => { view with stage := some (.calling call) }
  | .called _ (some reply) => (view.conclude file reply).finish
  | .answered => view.respond
  | .concluded reply => (view.conclude file reply).finish
  | .settled => { view with stage := none }
  | .silenced => { view with waiting := false }

/-- Settings change nothing for a file whose run does not wait for them. -/
theorem View.inform_of_ne_asking {view : View} {file : String} {answer : SettingsAnswer}
    (other : ∀ text, view.stage ≠ some (.asking text)) : view.inform file answer = view := by
  obtain ⟨document, waiting, stage, runs, index, published, dropped⟩ := view
  cases stage with
  | none => rfl
  | some stage =>
    cases stage with
    | asking text => exact (other text rfl).elim
    | _ => rfl

/-- An answer changes nothing for a file whose run does not wait for one. -/
theorem View.respond_of_ne_calling {view : View}
    (other : ∀ call, view.stage ≠ some (.calling call)) : view.respond = view := by
  obtain ⟨document, waiting, stage, runs, index, published, dropped⟩ := view
  cases stage with
  | none => rfl
  | some stage =>
    cases stage with
    | calling call => exact (other call rfl).elim
    | _ => rfl

/-- An answer that is given twice is given once. -/
theorem View.respond_respond (view : View) : view.respond.respond = view.respond := by
  refine respond_of_ne_calling fun call calling => ?_
  simp only [respond, Option.map_eq_some_iff] at calling
  obtain ⟨stage, -, equal⟩ := calling
  cases stage <;> cases equal

namespace State

/-- The effect of a call of the analyzer, which replies at once unless it is held back. -/
def callEffect (analyzer : Analyzer) (state : State) (call : AnalyzerCall) : Effect :=
  .called call (if state.held.contains call.file then none else some (analyzer call))

/-- The effect of the step of a task. -/
def stepEffect (analyzer : Analyzer) (state : State) (task : Task) (file : String) : Effect :=
  match task.job, task.phase with
  | .run analyzed _, .fresh =>
    if analyzed = file then
      match state.documents.get? file with
      | none => .skipped
      | some document =>
        match state.provider file with
        | none => .consulted document.text
        | some answer =>
          callEffect analyzer state { file, text := document.text, settings := answer.settings }
    else .nothing
  | .run analyzed _, .informed asked text _ answer =>
    if analyzed = file then
      callEffect analyzer state { file := asked, text, settings := answer.settings }
    else .nothing
  | .run analyzed _, .answered call =>
    if analyzed = file then .concluded (analyzer call) else .nothing
  | .lookup wanted, .fresh =>
    if wanted = file ∧ state.cache.get? file = none ∧ state.pending.get? file = none ∧
        state.isOpen file then .started
    else .nothing
  | .shutdown, .fresh => .silenced
  | _, _ => .nothing

/-- The effect of a piece of work. -/
def workEffect (analyzer : Analyzer) (state : State) (work : Work) (file : String) : Effect :=
  match work with
  | .step task =>
    match state.task? task with
    | some t => stepEffect analyzer state t file
    | none => .nothing
  | .settle settled run =>
    if settled = file ∧ state.pending.get? file = some run then .settled else .nothing
  | .alarm requested serial 0 =>
    if requested = file ∧
        (state.debouncer.alarms.get? file).map Alarm.serial = some serial then .fired
    else .nothing
  | _ => .nothing

/-- The effect of an event. -/
def eventEffect (state : State) (event : Event) (file : String) : Effect :=
  match event with
  | .opened opened text version => if opened = file then .opened text version else .nothing
  | .changed changed text version => if changed = file then .changed text version else .nothing
  | .saved saved text => if saved = file then .saved text else .nothing
  | .closed closed => if closed = file then .closed else .nothing
  | .configured _ | .reanalyzed => if state.isOpen file then .fired else .nothing

/-- The effect of an action. -/
def effect (state : State) (action : Action) (file : String) : Effect :=
  match action with
  | .event event => state.eventEffect event file
  | .trigger triggered => if triggered = file then .triggered else .nothing
  | .tick analyzer =>
    match state.queue with
    | [] => .nothing
    | work :: _ => workEffect analyzer state work file
  | .alarm requested => if requested = file ∧ state.isDue file then .fired else .nothing
  | .release released => if released = file then .answered else .nothing
  | .respond released task =>
    if released = file ∧ state.pending.get? file = some task then .answered else .nothing
  | .inform task answer =>
    if state.pending.get? file = some task then .informed answer else .nothing
  | .ask _ | .cancel _ | .clock _ | .hold _ | .provide _ => .nothing

variable {state : State} {file : String}

/-- An event changes the view of a file by its effect. -/
theorem view_handle (orderly : Orderly (state.desk [])) (event : Event) :
    (state.handle event).view file =
      (state.view file).apply file (state.eventEffect event file) := by
  have listed : state.Listed file := listed_of_flight orderly.flight
  have opened : (state.view file).document.isSome = state.isOpen file := rfl
  cases event with
  | opened name text version =>
    have reported : ((state.report (.documentOpened name)).putAway name).view file =
        state.view file := view_log state file _ rfl
    have still : (((state.report (.documentOpened name)).putAway name).setDocument name
        { text, version }).Listed file := listed
    by_cases same : name = file
    · subst same
      simp only [handle, eventEffect, if_pos, View.apply]
      rw [view_trigger still, view_setDocument, reported]
    · simp only [handle, eventEffect, if_neg same, View.apply]
      rw [view_trigger_of_ne same still, view_setDocument_of_ne _ _ same, reported]
  | changed name text version =>
    by_cases same : name = file
    · subst same
      simp only [handle, eventEffect, if_pos, View.apply]
      rw [view_holdBack, view_setDocument]
      rfl
    · simp only [handle, eventEffect, if_neg same, View.apply]
      rw [view_holdBack_of_ne _ _ same, view_setDocument_of_ne _ _ same]
  | saved name text =>
    by_cases same : name = file
    · subst same
      simp only [eventEffect, if_pos, View.apply]
      cases text with
      | none => exact view_fire listed
      | some text =>
        have still : (state.setDocument name
          ⟨text, ((state.documents.get? name).map Document.version).getD 0⟩).Listed name := listed
        exact (view_fire still).trans (congrArg View.fire (view_setDocument state name _))
    · simp only [eventEffect, if_neg same, View.apply]
      cases text with
      | none => exact view_fire_of_ne same listed
      | some text =>
        have still : (state.setDocument name
          ⟨text, ((state.documents.get? name).map Document.version).getD 0⟩).Listed file := listed
        exact (view_fire_of_ne same still).trans (view_setDocument_of_ne state file same _)
  | closed name =>
    by_cases same : name = file
    · subst same
      simp only [handle, eventEffect, if_pos, View.apply]
      exact view_close state name
    · simp only [handle, eventEffect, if_neg same, View.apply]
      exact view_close_of_ne state file same
  | configured settings =>
    have refreshed : (state.handle (.configured settings)).view file =
        if (state.view file).document.isSome then (state.view file).fire else state.view file := by
      cases settings with
      | none => exact view_reanalyze orderly
      | some given =>
        have still : Orderly (({ state with provider := .fixed given } : State).desk []) := orderly
        exact view_reanalyze still
    rw [refreshed, eventEffect, opened]
    split <;> rfl
  | reanalyzed =>
    rw [handle, view_reanalyze orderly, eventEffect, opened]
    split <;> rfl

/-- A task that is no run of a file is not in flight for it. -/
theorem ne_pending {hand : List Work} (flight : Flight (state.desk hand)) {task : TaskId} {t : Task}
    (known : state.task? task = some t) (other : ¬t.IsRunOf file) :
    state.pending.get? file ≠ some task := by
  intro inFlight
  obtain ⟨u, found, isRun⟩ := flight.isRun inFlight
  obtain rfl : t = u := Option.some.inj (known.symm.trans found)
  exact other isRun

/-- A run that has not ended installs its index in time. -/
theorem timely {hand : List Work} (dated : Dated (state.desk hand)) {task : TaskId} {t : Task}
    {generation : Option Int} (known : state.task? task = some t)
    (job : t.job = .run file generation) (unfinished : t.result? = none) :
    state.cache.isStale file generation = false := by
  unfold Cache.isStale
  split
  · rename_i offered recorded _ listed
    have bound := dated.newest known job unfinished listed
    rw [decide_eq_false_iff_not]
    omega
  · rfl

/-- The run in flight of a file ends with the reply of the analyzer. -/
theorem view_answer {hand : List Work} (orderly : Orderly (state.desk hand)) (analyzer : Analyzer)
    {task : TaskId} {t : Task} (known : state.task? task = some t) (unfinished : t.result? = none)
    {generation : Option Int} (job : t.job = .run file generation) (call : AnalyzerCall) :
    (state.answer analyzer task t.job call).view file =
      ((state.view file).conclude file (analyzer call)).finish := by
  have inFlight : state.pending.get? file = some task :=
    orderly.flight.pending known ⟨generation, job⟩ unfinished
  have concluded := view_conclude (timely orderly.dated known job unfinished) (analyzer call)
  obtain ⟨cache, published, journal, frame⟩ :=
    conclude_frame state file generation (analyzer call)
  simp only [job, answer]
  rw [← concluded, frame]
  exact view_finish { state with cache, published, journal } inFlight known _

/-- A task that is no run of a file leaves it when its call is answered. -/
theorem view_answer_of_other {hand : List Work} (flight : Flight (state.desk hand))
    (analyzer : Analyzer) {task : TaskId} {t : Task} (known : state.task? task = some t)
    (other : ¬t.IsRunOf file) (call : AnalyzerCall) :
    (state.answer analyzer task t.job call).view file = state.view file := by
  have apart := ne_pending flight known other
  cases job : t.job with
  | run analyzed generation =>
    have distinct : analyzed ≠ file := by
      rintro rfl
      exact other ⟨generation, job⟩
    have concluded : (state.conclude analyzed generation (analyzer call)).2.view file =
        state.view file := view_conclude_of_ne distinct generation _
    obtain ⟨cache, published, journal, frame⟩ :=
      conclude_frame state analyzed generation (analyzer call)
    simp only [answer]
    rw [← concluded, frame]
    exact view_finish_of_ne { state with cache, published, journal } apart _
  | _ =>
    simp only [answer]
    split <;> exact view_finish_of_ne state apart _

/-- A call leaves every view, with what is reported about its settings. -/
theorem view_called (state : State) (file : String) (job : Job) (asked : String)
    (answer : SettingsAnswer) (call : AnalyzerCall) :
    ((state.heed job asked answer).log (.called call)).view file = state.view file :=
  (view_log _ file (.called call) rfl).trans (view_heed state file job asked answer)

/-- The run in flight of a file calls the analyzer. -/
theorem view_call {hand : List Work} (orderly : Orderly (state.desk hand)) (analyzer : Analyzer)
    {task : TaskId} {t : Task} (known : state.task? task = some t) (unfinished : t.result? = none)
    {generation : Option Int} (job : t.job = .run file generation) (text : String)
    (answer : SettingsAnswer) :
    (state.call analyzer task t.job file text answer).view file = (state.view file).apply file
      (callEffect analyzer state { file, text, settings := answer.settings }) := by
  have inFlight : state.pending.get? file = some task :=
    orderly.flight.pending known ⟨generation, job⟩ unfinished
  have logged := view_called state file t.job file answer
    { file, text, settings := answer.settings }
  rw [call, callEffect]
  split
  · refine (view_setPhase ((state.heed t.job file answer).log _) inFlight known _).trans ?_
    rw [logged]
    rfl
  · have still : Orderly (((state.heed t.job file answer).log
      (.called { file, text, settings := answer.settings })).desk hand) := orderly
    rw [view_answer still analyzer known unfinished job, logged]
    rfl

/-- The run in flight of a file asks for its settings, and calls the analyzer if they are there. -/
theorem view_consult {hand : List Work} (orderly : Orderly (state.desk hand)) (analyzer : Analyzer)
    {task : TaskId} {t : Task} (known : state.task? task = some t) (unfinished : t.result? = none)
    {generation : Option Int} (job : t.job = .run file generation) (text : String) :
    (state.consult analyzer task t.job file text).view file = (state.view file).apply file
      (match state.provider file with
        | none => .consulted text
        | some answer => callEffect analyzer state { file, text, settings := answer.settings }) := by
  rw [consult]
  cases state.provider file with
  | none =>
    exact view_setPhase state (orderly.flight.pending known ⟨generation, job⟩ unfinished) known _
  | some answer => exact view_call orderly analyzer known unfinished job text answer

/-- A task that is no run of a file leaves it when it calls the analyzer. -/
theorem view_call_of_other {hand : List Work} (flight : Flight (state.desk hand))
    (analyzer : Analyzer) {task : TaskId} {t : Task} (known : state.task? task = some t)
    (other : ¬t.IsRunOf file) (called text : String) (answer : SettingsAnswer) :
    (state.call analyzer task t.job called text answer).view file = state.view file := by
  have logged := view_called state file t.job called answer
    { file := called, text, settings := answer.settings }
  rw [call]
  split
  · exact (view_setPhase_of_ne ((state.heed t.job called answer).log _)
      (ne_pending flight known other) _).trans logged
  · have still : Flight (((state.heed t.job called answer).log
      (.called { file := called, text, settings := answer.settings })).desk hand) := flight
    rw [view_answer_of_other still analyzer known other, logged]

/-- A task that is no run of a file leaves it when it asks for settings. -/
theorem view_consult_of_other {hand : List Work} (flight : Flight (state.desk hand))
    (analyzer : Analyzer) {task : TaskId} {t : Task} (known : state.task? task = some t)
    (other : ¬t.IsRunOf file) (asked text : String) :
    (state.consult analyzer task t.job asked text).view file = state.view file := by
  rw [consult]
  split
  · exact view_call_of_other flight analyzer known other asked text _
  · exact view_setPhase_of_ne state (ne_pending flight known other) _

/-- The first step of a lookup starts a run if the file has no index, no run and a document. -/
theorem view_beginLookup {hand : List Work} (flight : Flight (state.desk hand)) {task : TaskId}
    {t : Task} {wanted : String} (known : state.task? task = some t)
    (job : t.job = .lookup wanted) :
    (state.beginLookup task wanted).view file = (state.view file).apply file
      (if wanted = file ∧ state.cache.get? file = none ∧ state.pending.get? file = none ∧
        state.isOpen file then .started else .nothing) := by
  have apart : state.pending.get? file ≠ some task := by
    refine ne_pending flight known ?_
    rintro ⟨generation, run⟩
    cases job.symm.trans run
  have listed : state.Listed file := listed_of_flight flight
  rw [beginLookup]
  split
  · rename_i index cached
    rw [view_finish_of_ne state apart, if_neg]
    · rfl
    · rintro ⟨rfl, uncached, -⟩
      cases cached.symm.trans uncached
  · rename_i uncached
    split
    · rename_i run inFlight
      rw [view_join apart, if_neg]
      · rfl
      · rintro ⟨rfl, -, idle, -⟩
        cases inFlight.symm.trans idle
    · rename_i idle
      split
      · rename_i opened
        by_cases same : wanted = file
        · subst same
          have later : (state.start wanted).2.pending.get? wanted ≠ some task := by
            have inside : task < state.tasks.length := (List.getElem?_eq_some_iff.mp known).1
            have started : (state.start wanted).2.pending.get? wanted = some state.tasks.length :=
              Ledger.get?_put_self _ _ _
            rw [started]
            exact fun same => Nat.ne_of_gt inside (Option.some.inj same)
          rw [view_join later, if_pos ⟨rfl, uncached, idle, opened⟩]
          exact view_start state wanted
        · have later : (state.start wanted).2.pending.get? file ≠ some task := by
            have kept : (state.start wanted).2.pending.get? file = state.pending.get? file :=
              Ledger.get?_put_ne _ same _
            rwa [kept]
          rw [view_join later, if_neg (by simp [same])]
          exact view_start_of_ne same listed
      · rename_i closed
        rw [view_finish_of_ne state apart, if_neg]
        · rfl
        · rintro ⟨rfl, -, -, opened⟩
          exact closed opened

/-- Listening to several tasks leaves every file. -/
theorem view_foldl_listen (work : Work) (runs : List TaskId) :
    (runs.foldl (fun s run => s.listen run work) state).view file = state.view file := by
  induction runs generalizing state with
  | nil => rfl
  | cons run rest ih => exact ih.trans (view_listen run work)

/-- The end of a shutdown leaves a file of which it is not the run in flight. -/
theorem view_stop (state : State) {task : TaskId} (other : state.pending.get? file ≠ some task)
    (runs : Nat) : (state.stop task runs).view file = state.view file :=
  (view_finish_of_ne (state.report (.stopped runs)) other _).trans (view_log state file _ rfl)

/-- A task that waits for runs leaves a file of which it is not the run in flight. -/
theorem view_await (state : State) {task : TaskId} (other : state.pending.get? file ≠ some task)
    (runs : List TaskId) (phase : Phase) :
    ((runs.foldl (fun s run => s.listen run (.drained task)) state).setPhase task phase).view file =
      state.view file := by
  have pending : (runs.foldl (fun s run => s.listen run (.drained task)) state).pending =
      state.pending := by
    induction runs generalizing state with
    | nil => rfl
    | cons run rest ih =>
      have kept : (state.listen run (.drained task)).pending = state.pending := by
        rw [listen]
        split <;> rfl
      exact (ih _ (kept ▸ other)).trans kept
  rw [view_setPhase_of_ne _ (pending ▸ other), view_foldl_listen]

/-- The first step of a shutdown drops the waiting requests. -/
theorem view_beginShutdown {hand : List Work} (flight : Flight (state.desk hand)) {task : TaskId}
    {t : Task} (known : state.task? task = some t) (job : t.job = .shutdown) :
    (state.beginShutdown task).view file = { state.view file with waiting := false } := by
  have apart : state.pending.get? file ≠ some task := by
    refine ne_pending flight known ?_
    rintro ⟨generation, run⟩
    cases job.symm.trans run
  have quiet : ({ state with debouncer := state.debouncer.cancelAll } : State).view file =
      { state.view file with waiting := false } := rfl
  rw [beginShutdown, ← quiet]
  split
  · exact view_stop { state with debouncer := state.debouncer.cancelAll } apart 0
  · exact view_await { state with debouncer := state.debouncer.cancelAll } apart _ _

/-- A run of another file is no run of a file. -/
theorem not_isRunOf {t : Task} {analyzed : String} {generation : Option Int}
    (job : t.job = .run analyzed generation) (other : analyzed ≠ file) : ¬t.IsRunOf file := by
  rintro ⟨recorded, run⟩
  cases job.symm.trans run
  exact other rfl

/-- The first step of a task changes the view of a file by its effect. -/
theorem view_begin {hand : List Work} (orderly : Orderly (state.desk hand)) (analyzer : Analyzer)
    {task : TaskId} {t : Task} (known : state.task? task = some t) (fresh : t.phase = .fresh) :
    (state.begin analyzer task t.job).view file =
      (state.view file).apply file (stepEffect analyzer state t file) := by
  have unfinished : t.result? = none := by rw [Task.result?_eq, fresh]; rfl
  cases job : t.job with
  | run analyzed generation =>
    simp only [stepEffect, job, fresh]
    by_cases same : analyzed = file
    · subst same
      have inFlight := orderly.flight.pending known ⟨generation, job⟩ unfinished
      rw [if_pos rfl, begin]
      cases state.documents.get? analyzed with
      | none => exact view_finish state inFlight known _
      | some document =>
        have still : Orderly ((state.reportInRun (.runStarted analyzed generation)).desk hand) :=
          orderly
        have asked := view_consult still analyzer known unfinished job document.text
        rw [view_reportInRun, job] at asked
        exact asked
    · have other := not_isRunOf job same
      rw [if_neg same, begin]
      cases state.documents.get? analyzed with
      | none => exact view_finish_of_ne state (ne_pending orderly.flight known other) _
      | some document =>
        have still : Flight ((state.reportInRun (.runStarted analyzed generation)).desk hand) :=
          orderly.flight
        have asked := view_consult_of_other still analyzer known other analyzed document.text
        rw [view_reportInRun, job] at asked
        exact asked
  | lookup wanted =>
    simp only [stepEffect, job, fresh]
    exact view_beginLookup orderly.flight known job
  | tree wanted =>
    simp only [stepEffect, job, fresh]
    have other : ¬t.IsRunOf file := by simp [Task.IsRunOf, job]
    rw [begin]
    cases state.documents.get? wanted with
    | none => exact view_finish_of_ne state (ne_pending orderly.flight known other) _
    | some document =>
      have asked := view_consult_of_other orderly.flight analyzer known other wanted document.text
      rw [job] at asked
      exact asked
  | shutdown =>
    simp only [stepEffect, job, fresh]
    exact view_beginShutdown orderly.flight known job

/-- A task in a phase of no run is no run. -/
theorem not_isRunOf_of_phase {hand : List Work} (course : RunsInPhase (state.desk hand))
    {task : TaskId} {t : Task} (known : state.task? task = some t)
    (other : ¬t.phase.OfRun file) : ¬t.IsRunOf file :=
  fun isRun => other (course task t file known isRun)

/-- A task that neither begins nor has an answer has no effect. -/
theorem stepEffect_eq_nothing (analyzer : Analyzer) {t : Task} (begun : t.phase ≠ .fresh)
    (uninformed : ∀ asked text away answer, t.phase ≠ .informed asked text away answer)
    (unanswered : ∀ call, t.phase ≠ .answered call) :
    stepEffect analyzer state t file = .nothing := by
  unfold stepEffect
  split
  · exact (begun ‹_›).elim
  · exact (uninformed _ _ _ _ ‹_›).elim
  · exact (unanswered _ ‹_›).elim
  · exact (begun ‹_›).elim
  · exact (begun ‹_›).elim
  · rfl

/-- The step of a task changes the view of a file by its effect. -/
theorem view_stepTask {hand : List Work} (orderly : Orderly (state.desk hand)) (analyzer : Analyzer)
    {task : TaskId} {t : Task} (known : state.task? task = some t) :
    (stepTask analyzer state task t).view file =
      (state.view file).apply file (stepEffect analyzer state t file) := by
  cases phase : t.phase with
  | fresh =>
    rw [stepTask, phase]
    exact view_begin orderly analyzer known phase
  | informed asked text away answer =>
    have unfinished : t.result? = none := by rw [Task.result?_eq, phase]; rfl
    simp only [stepTask, phase]
    by_cases isRun : t.IsRunOf file
    · have course := orderly.course task t file known isRun
      rw [phase] at course
      obtain rfl : asked = file := course
      obtain ⟨generation, job⟩ := isRun
      rw [view_call orderly analyzer known unfinished job]
      simp [stepEffect, job, phase, textFor]
    · rw [view_call_of_other orderly.flight analyzer known isRun]
      cases job : t.job with
      | run analyzed generation =>
        have other : analyzed ≠ file := by
          rintro rfl
          exact isRun ⟨generation, job⟩
        simp [stepEffect, job, phase, View.apply, other]
      | _ => simp [stepEffect, job, phase, View.apply]
  | answered call =>
    have unfinished : t.result? = none := by rw [Task.result?_eq, phase]; rfl
    simp only [stepTask, phase]
    by_cases isRun : t.IsRunOf file
    · obtain ⟨generation, job⟩ := isRun
      rw [view_answer orderly analyzer known unfinished job]
      simp [stepEffect, job, phase, View.apply]
    · rw [view_answer_of_other orderly.flight analyzer known isRun]
      cases job : t.job with
      | run analyzed generation =>
        have other : analyzed ≠ file := by
          rintro rfl
          exact isRun ⟨generation, job⟩
        simp [stepEffect, job, phase, View.apply, other]
      | _ => simp [stepEffect, job, phase, View.apply]
  | ending result =>
    have other : ¬t.IsRunOf file :=
      not_isRunOf_of_phase orderly.course known (by simp [phase, Phase.OfRun])
    have apart := ne_pending orderly.flight known other
    rw [stepEffect_eq_nothing analyzer (by simp [phase]) (by simp [phase]) (by simp [phase]),
      stepTask, phase]
    cases result with
    | drained runs => exact view_stop state apart runs
    | _ => exact view_finish_of_ne state apart _
  | _ =>
    rw [stepEffect_eq_nothing analyzer (by simp [phase]) (by simp [phase]) (by simp [phase]),
      stepTask, phase]
    rfl

/-- A relay leaves every file. -/
theorem view_relay {hand : List Work} (orderly : Orderly (state.desk hand)) (run waiter : TaskId) :
    (state.relay run waiter).view file = state.view file := by
  rw [relay]
  split
  · rename_i joined result waiting _
    obtain ⟨t, known, phase⟩ := Option.map_eq_some_iff.mp waiting
    have other : ¬t.IsRunOf file :=
      not_isRunOf_of_phase orderly.course known (by simp [phase, Phase.OfRun])
    exact view_setPhase_of_ne state (ne_pending orderly.flight known other) _
  · rfl

/-- Hearing of the end of a run leaves every file. -/
theorem view_drain {hand : List Work} (orderly : Orderly (state.desk hand)) (waiter : TaskId) :
    (state.drain waiter).view file = state.view file := by
  rw [drain]
  split
  · rename_i runs left cancelled waiting
    obtain ⟨t, known, phase⟩ := Option.map_eq_some_iff.mp waiting
    have other : ¬t.IsRunOf file :=
      not_isRunOf_of_phase orderly.course known (by simp [phase, Phase.OfRun])
    have apart := ne_pending orderly.flight known other
    split
    · exact view_setPhase_of_ne state apart _
    · exact view_setPhase_of_ne state apart _
  · rfl

/-- Settling the run in flight of a file leaves it without one. -/
theorem view_settle : ({ state with pending := state.pending.remove file } : State).view file =
    { state.view file with stage := none } := by
  simp only [view, stage?, Ledger.get?_remove_self]
  rfl

/-- Settling a run of one file leaves the others. -/
theorem view_settle_of_ne {settled : String} (other : settled ≠ file) :
    ({ state with pending := state.pending.remove settled } : State).view file =
      state.view file := by
  simp only [view, stage?, Ledger.get?_remove_ne _ other]
  rfl

/-- A piece of work changes the view of a file by its effect. -/
theorem view_execute {work : Work} (orderly : Orderly (state.desk [work])) (analyzer : Analyzer) :
    (execute analyzer state work).view file =
      (state.view file).apply file (workEffect analyzer state work file) := by
  have listed : state.Listed file := listed_of_flight orderly.flight
  cases work with
  | step task =>
    simp only [execute, workEffect]
    cases known : state.task? task with
    | none => rfl
    | some t => exact view_stepTask orderly analyzer known
  | settle settled run =>
    by_cases same : settled = file
    · subst same
      simp only [execute, workEffect, beq_iff_eq, true_and]
      split
      · exact view_settle
      · rfl
    · have nothing : workEffect analyzer state (.settle settled run) file = .nothing :=
        if_neg fun both => same both.1
      rw [nothing, execute]
      split
      · exact view_settle_of_ne same
      · rfl
  | relay run waiter => exact view_relay orderly run waiter
  | drained waiter => exact view_drain orderly waiter
  | alarm requested serial turns =>
    cases turns with
    | succ turns => rfl
    | zero =>
      by_cases same : requested = file
      · subst same
        simp only [execute, workEffect, beq_iff_eq, true_and]
        split
        · exact view_fire listed
        · rfl
      · have nothing : workEffect analyzer state (.alarm requested serial 0) file = .nothing :=
          if_neg fun both => same both.1
        rw [nothing, execute]
        split
        · exact view_fire_of_ne same listed
        · rfl

/-- Doing the first piece of work changes the view of a file by its effect. -/
theorem view_tick (orderly : Orderly (state.desk [])) (analyzer : Analyzer) :
    (tick analyzer state).view file =
      (state.view file).apply file (state.effect (.tick analyzer) file) := by
  simp only [tick, effect]
  cases queue : state.queue with
  | nil => rfl
  | cons work rest =>
    have inHand : state.desk [] = ({ state with queue := rest } : State).desk [work] := by
      simp [desk, queue]
    exact view_execute (inHand ▸ orderly) analyzer

/-- Letting the call of a task go on is an answer for a file if the task is its run in flight. -/
theorem view_letGo (orderly : Orderly (state.desk [])) (released : String) (task : TaskId) :
    (letGo released state task).view file =
      if released = file ∧ state.pending.get? file = some task then (state.view file).respond
      else state.view file := by
  by_cases inFlight : state.pending.get? file = some task
  · obtain ⟨t, known, isRun⟩ := orderly.flight.isRun inFlight
    have found : state.task? task = some t := known
    have stage : (state.view file).stage = some t.phase.stage := stage?_eq state file inFlight known
    have course := orderly.course task t file known isRun
    simp only [letGo, found, Option.map_some, inFlight, and_true]
    split
    · rename_i call phase
      have calling : t.phase = .calling call := Option.some.inj phase
      rw [calling] at course stage
      have own : call.file = file := course
      have answered : ((state.setPhase task (.answered call)).enqueue (.step task)).view file =
          (state.view file).respond := by
        refine (view_setPhase state inFlight known _).trans ?_
        rw [View.respond, stage]
        rfl
      by_cases same : released = file
      · rw [if_pos (by simp [own, same]), if_pos same]
        exact answered
      · rw [if_neg (by simp [own, Ne.symm same]), if_neg same]
    · rename_i waiting
      have other : ∀ call, (state.view file).stage ≠ some (.calling call) := by
        intro call calling
        cases phase : t.phase with
        | calling call => exact waiting call (congrArg some phase)
        | _ => simp [stage, phase, Phase.stage] at calling
      rw [View.respond_of_ne_calling other, ite_self]
  · have apart : ¬(released = file ∧ state.pending.get? file = some task) := fun both =>
      inFlight both.2
    rw [if_neg apart, letGo]
    split
    · split
      · exact view_setPhase_of_ne state inFlight _
      · rfl
    · rfl

/-- Letting a call go on leaves the runs in flight. -/
theorem pending_letGo (released : String) (task : TaskId) :
    (letGo released state task).pending = state.pending := by
  rw [letGo]
  split
  · split <;> rfl
  · rfl

/-- Letting the calls of several tasks go on is an answer if the run in flight is among them. -/
theorem view_foldl_letGo (orderly : Orderly (state.desk [])) (released : String)
    (tasks : List TaskId) : (tasks.foldl (letGo released) state).view file =
      if released = file ∧ ∃ task ∈ tasks, state.pending.get? file = some task then
        (state.view file).respond
      else state.view file := by
  induction tasks generalizing state with
  | nil => simp
  | cons task rest ih =>
    have still : Orderly ((letGo released state task).desk []) :=
      orderly.turns (moves_letGo state [] released task).turns
    rw [List.foldl_cons, ih still, pending_letGo, view_letGo orderly]
    by_cases same : released = file
    · by_cases here : state.pending.get? file = some task
      · simp [same, here, View.respond_respond]
      · simp [same, here]
    · simp [same]

/-- Letting the calls of a file go on is an answer for it. -/
theorem view_release (orderly : Orderly (state.desk [])) (released : String) :
    (state.release released).view file =
      if released = file then (state.view file).respond else state.view file := by
  have still :
      Orderly (({ state with held := state.held.filter (· != released) } : State).desk []) :=
    orderly
  refine (view_foldl_letGo still released (List.range state.tasks.length)).trans ?_
  by_cases same : released = file
  · rw [if_pos same]
    cases inFlight : state.pending.get? file with
    | none =>
      have idle : ∀ call, (state.view file).stage ≠ some (.calling call) := by
        simp [view, stage?, inFlight]
      rw [View.respond_of_ne_calling idle]
      exact if_neg (by simp)
    | some run =>
      have inside : run < state.tasks.length := listed_of_flight orderly.flight run inFlight
      exact if_pos ⟨same, run, by simp [inside], rfl⟩
  · rw [if_neg same]
    exact if_neg fun both => same both.1

/-- Answering a task that waits for its settings informs a file if the task is its run in flight. -/
theorem view_inform (orderly : Orderly (state.desk [])) (answer : SettingsAnswer) (task : TaskId) :
    (state.inform answer task).view file =
      if state.pending.get? file = some task then (state.view file).inform file answer
      else state.view file := by
  by_cases inFlight : state.pending.get? file = some task
  · obtain ⟨t, known, isRun⟩ := orderly.flight.isRun inFlight
    have found : state.task? task = some t := known
    have stage : (state.view file).stage = some t.phase.stage := stage?_eq state file inFlight known
    have course := orderly.course task t file known isRun
    rw [if_pos inFlight, inform, found, Option.map_some]
    split
    · rename_i asked text away phase
      have asking : t.phase = .asking asked text away := Option.some.inj phase
      rw [asking] at course stage
      obtain rfl : asked = file := course
      refine (view_setPhase state inFlight known _).trans ?_
      rw [View.inform, stage]
      rfl
    · rename_i waiting
      rw [View.inform_of_ne_asking]
      intro text asking
      cases phase : t.phase with
      | asking asked text away => exact waiting asked text away (congrArg some phase)
      | _ => simp [stage, phase, Phase.stage] at asking
  · rw [if_neg inFlight, inform]
    split
    · exact view_setPhase_of_ne state inFlight _
    · rfl

/-- A scheduled action changes the view of a file by its effect. -/
theorem view_act (orderly : Orderly (state.desk [])) {action : Action}
    (scheduled : action.Scheduled) : (state.act action).view file =
      (state.view file).apply file (state.effect action file) := by
  have listed : state.Listed file := listed_of_flight orderly.flight
  cases action with
  | event event => exact view_handle orderly event
  | trigger triggered =>
    simp only [act, effect]
    split
    · rename_i same
      subst same
      exact view_trigger listed
    · rename_i other
      exact view_trigger_of_ne other listed
  | ask job =>
    refine view_ask listed ?_
    cases job with
    | run analyzed generation => exact scheduled.elim
    | _ => rfl
  | cancel task => exact scheduled.elim
  | tick analyzer => exact view_tick orderly analyzer
  | clock time => rfl
  | alarm requested =>
    simp only [act]
    by_cases same : requested = file
    · subst same
      simp only [effect, true_and]
      split
      · exact view_fire listed
      · rfl
    · have nothing : state.effect (.alarm requested) file = .nothing :=
        if_neg fun both => same both.1
      rw [nothing]
      split
      · exact view_fire_of_ne same listed
      · rfl
  | hold held => rfl
  | release released =>
    simp only [act, effect]
    rw [view_release orderly]
    split <;> rfl
  | respond released task =>
    simp only [act, effect]
    rw [view_letGo orderly]
    split <;> rfl
  | provide provider => rfl
  | inform task answer =>
    simp only [act, effect]
    rw [view_inform orderly]
    split <;> rfl

end State

end PredicateIndex.Pipeline
