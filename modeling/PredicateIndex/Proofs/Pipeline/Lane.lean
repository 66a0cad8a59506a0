import PredicateIndex.Proofs.Pipeline.Punctual
import PredicateIndex.Proofs.Pipeline.View

/-!
# What can be seen of one file

The lane of a file is what can be seen of it from outside: its document, whether a request waits for
it, whether a run is in flight, its index and its diagnostics. What an action does to the lane is
told by an incident, which the action and the state have for the file or not. Incidents say what
came from outside: an event that names the file or all files, a trigger, a question for the index, a
shutdown, the end of a waiting time, the reply that a run took in, and the end of a run in flight.
Nothing else that is done leaves a trace on the lane, so the lane after an interleaving is known
from the incidents of the file, as long as no run of it was given a generation by hand. The view of
a file says more, such as how far its run has come, but only where no run is started by hand and
nothing is cancelled.
-/
namespace PredicateIndex.Pipeline

/-- What can be seen of one file. -/
structure Lane where
  /-- The open document. -/
  document : Option Document
  /-- Whether a request waits for its deadline. -/
  waiting : Bool
  /-- Whether a run is in flight. -/
  busy : Bool
  /-- The installed index. -/
  index : Option FileIndex
  /-- The published diagnostics. -/
  published : List EditorDiagnostic

/-- What happens to one file. -/
inductive Incident where
  /-- An event that names the file or all files. -/
  | event (event : Event)
  /-- An analysis is triggered. -/
  | triggered
  /-- A run is started by hand. -/
  | asked (generation : Option Int)
  /-- A question for the index takes its first step. -/
  | sought
  /-- A shutdown takes its first step. -/
  | stopped
  /-- The waiting request fires. -/
  | expired
  /-- A run ends with a reply of the analyzer. -/
  | concluded (reply : Reply)
  /-- The run in flight is settled. -/
  | settled

/-- Whether an event names a file or all files. -/
def Event.concerns (file : String) : Event → Bool
  | .opened named _ _ | .changed named _ _ | .saved named _ | .closed named => named == file
  | .configured _ | .reanalyzed => true

namespace Lane

/-- An analysis is triggered: a run starts if there is a document and none is in flight. -/
def trigger (lane : Lane) : Lane := { lane with busy := lane.busy || lane.document.isSome }

/-- The waiting request is dropped and an analysis triggered. -/
def fire (lane : Lane) : Lane := { lane with waiting := false }.trigger

/-- An outcome of the analyzer is taken in for an open document. -/
def takeOutcome (lane : Lane) (file : String) (outcome : Outcome) : Lane :=
  match outcome.tree with
  | none => { lane with published := outcome.diagnostics.map (·.toEditor "clauseindex") }
  | some tree =>
    let diagnostics := (tree.index (some file)).diagnostics ++ outcome.diagnostics
    { lane with
      index := some { tree.index (some file) with diagnostics }
      published := diagnostics.map (·.toEditor "clauseindex") }

/-- A reply of the analyzer is taken in. -/
def conclude (lane : Lane) (file : String) (reply : Reply) : Lane :=
  match reply.result with
  | .ok outcome => if lane.document.isSome then lane.takeOutcome file outcome else lane
  | .error crash =>
    if lane.document.isSome then
      { lane with index := none, published := [internalDiagnostic crash] }
    else { lane with index := none }

/-- The lane after an event. -/
def handle (lane : Lane) : Event → Lane
  | .opened _ text version => { lane with document := some { text, version } }.trigger
  | .changed _ text version =>
    { lane with
      document := some (State.changedDocument lane.document text version), waiting := true }
  | .saved _ text =>
    { lane with document := (State.savedDocument? lane.document text).or lane.document }.fire
  | .closed _ =>
    { lane with document := none, waiting := false, index := none, published := [] }
  | .configured _ | .reanalyzed => if lane.document.isSome then lane.fire else lane

/-- The lane of a file after an incident. -/
def after (file : String) (lane : Lane) : Incident → Lane
  | .event event => lane.handle event
  | .triggered => lane.trigger
  | .asked _ => lane
  | .sought => if lane.index.isSome then lane else lane.trigger
  | .stopped => { lane with waiting := false }
  | .expired => lane.fire
  | .concluded reply => lane.conclude file reply
  | .settled => { lane with busy := false }

end Lane

/-- What can be seen of a file whose view is known. -/
def View.lane (view : View) (busy : Bool) : Lane where
  document := view.document
  waiting := view.waiting
  busy := busy
  index := view.index
  published := view.published

namespace State

/-- What can be seen of a file. -/
def lane (state : State) (file : String) : Lane where
  document := state.documents.get? file
  waiting := state.debouncer.isWaiting file
  busy := state.pending.has file
  index := state.cache.get? file
  published := (state.published.get? file).getD []

/-- The reply that a run of a file takes in when it takes its step in a phase: that to a call which
was held back, or to the one that it makes then. -/
def reply? (analyzer : Analyzer) (state : State) (file : String) : Phase → Option Reply
  | .answered call => some (analyzer call)
  | phase =>
    (state.runCall? file phase).bind fun call =>
      if state.held.contains call.file then none else some (analyzer call)

/-- What the step of a task is for a file. -/
def stepIncident? (analyzer : Analyzer) (state : State) (task : Task) (file : String) :
    Option Incident :=
  match task.job, task.phase with
  | .run analyzed _, phase =>
    if analyzed = file then (reply? analyzer state file phase).map .concluded else none
  | .lookup wanted, .fresh => if wanted = file then some .sought else none
  | .shutdown, .fresh => some .stopped
  | _, _ => none

/-- What a piece of work is for a file. -/
def workIncident? (analyzer : Analyzer) (state : State) (work : Work) (file : String) :
    Option Incident :=
  match work with
  | .step task => (state.task? task).bind fun t => stepIncident? analyzer state t file
  | .settle settled run =>
    if settled = file ∧ state.pending.get? file = some run then some .settled else none
  | .alarm requested serial 0 =>
    if requested = file ∧ (state.debouncer.alarms.get? file).map Alarm.serial = some serial then
      some .expired
    else none
  | _ => none

/-- What an action is for a file. -/
def incident? (state : State) (action : Action) (file : String) : Option Incident :=
  match action with
  | .event event => if event.concerns file then some (.event event) else none
  | .trigger triggered => if triggered = file then some .triggered else none
  | .ask (.run asked generation) => if asked = file then some (.asked generation) else none
  | .tick analyzer => state.queue.head?.bind fun work => workIncident? analyzer state work file
  | .alarm requested => if requested = file ∧ state.isDue file then some .expired else none
  | _ => none

/-- The incidents of a file in an interleaving. -/
def history (state : State) (file : String) : List Action → List Incident
  | [] => []
  | action :: rest => (state.incident? action file).toList ++ (state.act action).history file rest

/-- The lane of a file after an action that may be an incident for it. -/
def laneAfter (state : State) (file : String) (incident : Option Incident) : Lane :=
  incident.elim (state.lane file) ((state.lane file).after file)

variable {state : State} {file : String}

/-! ## Events and triggers -/

/-- The lane of a file is seen in its view and in what is in flight. -/
theorem lane_eq (state : State) (file : String) :
    state.lane file = (state.view file).lane (state.pending.has file) := rfl

/-- A file whose view and run in flight stay is left. -/
theorem lane_of_view {after : State} (view : after.view file = state.view file)
    (pending : after.pending.get? file = state.pending.get? file) :
    after.lane file = state.lane file := by
  rw [lane_eq, lane_eq, view, Ledger.has, Ledger.has, pending]

/-- Starting a run of a file puts one in flight. -/
theorem lane_start (state : State) (file : String) :
    (state.start file).2.lane file = { state.lane file with busy := true } := by
  simp [lane, start, spawn, report, log, Ledger.has]

/-- Starting a run of one file leaves the others. -/
theorem lane_start_of_ne {started : String} (other : started ≠ file) :
    (state.start started).2.lane file = state.lane file := by
  simp [lane, start, spawn, report, log, Ledger.has, Ledger.get?_put_ne _ other]

/-- Triggering an analysis of a file is seen as a trigger. -/
theorem lane_trigger (state : State) (file : String) :
    (state.trigger file).2.lane file = (state.lane file).trigger := by
  have opened : (state.lane file).document.isSome = state.isOpen file := rfl
  have busy : (state.lane file).busy = state.pending.has file := rfl
  rw [trigger, Lane.trigger, opened, busy]
  split
  · rename_i pending
    simp [lane, report, log, pending]
  · rename_i idle
    split
    · rename_i shown
      rw [lane_start, shown, Bool.or_true]
    · rename_i hidden
      simp [lane, idle, hidden]

/-- Triggering an analysis of one file leaves the others. -/
theorem lane_trigger_of_ne {triggered : String} (other : triggered ≠ file) :
    (state.trigger triggered).2.lane file = state.lane file := by
  rw [trigger]
  split
  · rfl
  · split
    · exact lane_start_of_ne other
    · rfl

/-- A request of a file that fires is seen to fire. -/
theorem lane_fire (state : State) (file : String) :
    (state.fire file).lane file = (state.lane file).fire := by
  have dropped : (state.cancelRequest file).lane file =
      { state.lane file with waiting := false } := by
    rw [lane_eq, view_cancelRequest]
    rfl
  rw [fire, lane_trigger, dropped, Lane.fire]

/-- A request of one file that fires leaves the others. -/
theorem lane_fire_of_ne (state : State) {fired : String} (other : fired ≠ file) :
    (state.fire fired).lane file = state.lane file := by
  rw [fire, lane_trigger_of_ne other]
  exact lane_of_view (view_cancelRequest_of_ne state file other) rfl

/-- Requests that fire one after another are seen once for each file. -/
theorem lane_foldl_fire (state : State) (file : String) (files : List String) :
    (files.foldl fire state).lane file =
      if file ∈ files then (state.lane file).fire else state.lane file := by
  -- a file may be listed more than once
  have twice : ∀ lane : Lane, lane.fire.fire = lane.fire := by
    intro lane
    simp [Lane.fire, Lane.trigger]
  induction files generalizing state with
  | nil => simp
  | cons first rest ih =>
    rw [List.foldl_cons, ih]
    by_cases same : first = file
    · subst same
      simp [lane_fire, twice]
    · simp [lane_fire_of_ne state same, Ne.symm same]

/-- Analyzing all open documents again is seen by a file that has one. -/
theorem lane_reanalyze (state : State) (file : String) : state.reanalyze.lane file =
    if (state.lane file).document.isSome then (state.lane file).fire else state.lane file := by
  have opened : file ∈ state.documents.keys ↔ (state.lane file).document.isSome :=
    Ledger.mem_keys_iff state.documents file
  have fired := lane_foldl_fire state file state.documents.keys
  simp only [opened] at fired
  exact fired

/-- Setting a document is seen by its file. -/
theorem lane_setDocument (state : State) (set : String) (document : Document) (file : String) :
    (state.setDocument set document).lane file =
      if set = file then { state.lane file with document := some document }
      else state.lane file := by
  split
  · rename_i same
    subst same
    rw [lane_eq, view_setDocument]
    rfl
  · rename_i other
    exact lane_of_view (view_setDocument_of_ne state file other document) rfl

/-- Holding back a request is seen by its file. -/
theorem lane_holdBack (state : State) (changed file : String) :
    (state.holdBack changed).lane file =
      if changed = file then { state.lane file with waiting := true } else state.lane file := by
  have pending : (state.holdBack changed).pending = state.pending := by
    rw [holdBack]
    split <;> rfl
  split
  · rename_i same
    subst same
    rw [lane_eq, view_holdBack, pending]
    rfl
  · rename_i other
    exact lane_of_view (view_holdBack_of_ne state file other) (by rw [pending])

/-- An event is seen by the files that it concerns. -/
theorem lane_handle (state : State) (event : Event) (file : String) :
    (state.handle event).lane file =
      if event.concerns file then (state.lane file).handle event else state.lane file := by
  cases event with
  | opened name text version =>
    have reported : ((state.report (.documentOpened name)).putAway name).lane file =
      state.lane file := rfl
    by_cases same : name = file
    · subst same
      rw [handle, lane_trigger, lane_setDocument, if_pos rfl, reported, Event.concerns,
        beq_self_eq_true, if_pos rfl]
      rfl
    · rw [handle, lane_trigger_of_ne same, lane_setDocument, if_neg same, reported, Event.concerns,
        beq_false_of_ne same, if_neg Bool.false_ne_true]
  | changed name text version =>
    by_cases same : name = file
    · subst same
      rw [handle, lane_holdBack, if_pos rfl, lane_setDocument, if_pos rfl, Event.concerns,
        beq_self_eq_true, if_pos rfl]
      rfl
    · rw [handle, lane_holdBack, if_neg same, lane_setDocument, if_neg same, Event.concerns,
        beq_false_of_ne same, if_neg Bool.false_ne_true]
  | saved name text =>
    by_cases same : name = file
    · subst same
      rw [Event.concerns, beq_self_eq_true, if_pos rfl]
      cases text with
      | none => exact lane_fire state name
      | some text =>
        refine (lane_fire (state.setDocument name _) name).trans ?_
        rw [lane_setDocument, if_pos rfl]
        rfl
    · rw [Event.concerns, beq_false_of_ne same, if_neg Bool.false_ne_true]
      cases text with
      | none => exact lane_fire_of_ne state same
      | some text =>
        refine (lane_fire_of_ne (state.setDocument name _) same).trans ?_
        rw [lane_setDocument, if_neg same]
  | closed name =>
    by_cases same : name = file
    · subst same
      rw [handle, lane_eq, view_close, Event.concerns, beq_self_eq_true, if_pos rfl]
      rfl
    · rw [handle, Event.concerns, beq_false_of_ne same, if_neg Bool.false_ne_true]
      exact lane_of_view (view_close_of_ne state file same) rfl
  | configured settings =>
    cases settings with
    | none => exact lane_reanalyze state file
    | some given => exact lane_reanalyze { state with provider := .fixed given } file
  | reanalyzed => exact lane_reanalyze state file

/-! ## Work -/

/-- Ending a task leaves every file. -/
theorem lane_finish (state : State) (task : TaskId) (result : Result) :
    (state.finish task result).lane file = state.lane file := rfl

/-- Listening to a task leaves every file. -/
theorem lane_listen (state : State) (task : TaskId) (work : Work) :
    (state.listen task work).lane file = state.lane file := by
  rw [listen]
  split <;> rfl

/-- Joining a run leaves every file. -/
theorem lane_join (state : State) (task run : TaskId) :
    (state.join task run).lane file = state.lane file := by
  rw [join]
  split
  · rfl
  · exact lane_listen state run _

/-- The end of a run is seen by its file if it is in time. -/
theorem lane_conclude {generation : Option Int} {analyzed : String}
    (timely : analyzed = file → state.cache.isStale file generation = false) (reply : Reply) :
    (state.conclude analyzed generation reply).2.lane file =
      if analyzed = file then (state.lane file).conclude file reply else state.lane file := by
  have pending : (state.conclude analyzed generation reply).2.pending = state.pending := by
    obtain ⟨cache, published, journal, frame⟩ := conclude_frame state analyzed generation reply
    rw [frame]
  split
  · rename_i same
    subst same
    have opened : (state.view analyzed).document.isSome = (state.lane analyzed).document.isSome :=
      rfl
    rw [lane_eq, view_conclude (timely rfl), pending, View.conclude, Lane.conclude, opened]
    cases reply.result with
    | error crash =>
      simp only
      split <;> rfl
    | ok outcome =>
      simp only
      split
      · rw [View.takeOutcome, Lane.takeOutcome]
        cases outcome.tree <;> rfl
      · rfl
  · rename_i other
    exact lane_of_view (view_conclude_of_ne other generation reply) (by rw [pending])

/-- The end of a run with the answer to its call is seen by its file if it is in time. -/
theorem lane_answer_run (analyzer : Analyzer) (task : TaskId) {analyzed : String}
    {generation : Option Int}
    (timely : analyzed = file → state.cache.isStale file generation = false)
    (call : AnalyzerCall) : (state.answer analyzer task (.run analyzed generation) call).lane file =
      if analyzed = file then (state.lane file).conclude file (analyzer call)
      else state.lane file :=
  lane_conclude timely (analyzer call)

/-- The reply to a call that is held back is not there at once. -/
theorem reply?_of_runCall? {phase : Phase} {call : AnalyzerCall}
    (makes : state.runCall? file phase = some call) (analyzer : Analyzer) :
    reply? analyzer state file phase =
      if state.held.contains call.file then none else some (analyzer call) := by
  unfold reply?
  split
  · cases makes
  · rw [makes, Option.bind_some]

/-- A run that makes no call and has no answer takes no reply in. -/
theorem reply?_of_silent {phase : Phase} (silent : state.runCall? file phase = none)
    (unanswered : ∀ call, phase ≠ .answered call) (analyzer : Analyzer) :
    reply? analyzer state file phase = none := by
  unfold reply?
  split
  · exact (unanswered _ rfl).elim
  · rw [silent, Option.bind_none]

/-- A reply that a run takes in is for a call that was held back, or for one that it makes. -/
theorem exists_call_of_reply? {analyzer : Analyzer} {phase : Phase} {reply : Reply}
    (replied : reply? analyzer state file phase = some reply) :
    ∃ call, reply = analyzer call ∧ (phase = .answered call ∨
      state.runCall? file phase = some call ∧ ¬state.held.contains call.file) := by
  unfold reply? at replied
  split at replied
  · rename_i call
    exact ⟨call, (Option.some.inj replied).symm, .inl rfl⟩
  · obtain ⟨call, makes, given⟩ := Option.bind_eq_some_iff.mp replied
    split at given
    · cases given
    · exact ⟨call, (Option.some.inj given).symm, .inr ⟨makes, ‹_›⟩⟩

/-- A run takes a reply in before it has begun, when it has its settings, or when it has an answer. -/
theorem phase_of_reply? {analyzer : Analyzer} {phase : Phase} {reply : Reply}
    (replied : reply? analyzer state file phase = some reply) :
    phase = .fresh ∨ (∃ asked text away answer, phase = .informed asked text away answer) ∨
      ∃ call, phase = .answered call := by
  obtain ⟨call, -, answered | ⟨makes, -⟩⟩ := exists_call_of_reply? replied
  · exact .inr (.inr ⟨call, answered⟩)
  · unfold runCall? at makes
    split at makes
    · exact .inl rfl
    · exact .inr (.inl ⟨_, _, _, _, rfl⟩)
    · cases makes

/-- The call of a run is seen by its file if the analyzer replies at once. -/
theorem lane_call_run (analyzer : Analyzer) (task : TaskId) {analyzed : String}
    {generation : Option Int}
    (timely : analyzed = file → state.cache.isStale file generation = false) (asked text : String)
    (answer : SettingsAnswer) :
    (state.call analyzer task (.run analyzed generation) asked text answer).lane file =
      if analyzed = file then
        state.laneAfter file (((if state.held.contains asked then none
          else some (analyzer { file := asked, text, settings := answer.settings })) :
            Option Reply).map .concluded)
      else state.lane file := by
  rw [State.call]
  by_cases held : state.held.contains asked
  · rw [if_pos held, if_pos held]
    exact (ite_self _).symm
  · rw [if_neg held, if_neg held]
    refine Eq.trans (lane_answer_run analyzer task ?_ _) rfl
    exact timely

/-- The step of a run is seen by its file if the run takes a reply in. -/
theorem lane_step_run (analyzer : Analyzer) {task : TaskId} {t : Task} {analyzed : String}
    {generation : Option Int} (job : t.job = .run analyzed generation)
    (timely : analyzed = file → t.result? = none → state.cache.isStale file generation = false) :
    (stepTask analyzer state task t).lane file =
      if analyzed = file then
        state.laneAfter file ((reply? analyzer state file t.phase).map .concluded)
      else state.lane file := by
  rw [Task.result?_eq] at timely
  -- a run that makes no call leaves every file
  have silent : ∀ phase, (∀ call, phase ≠ .answered call) →
      (analyzed = file → state.runCall? file phase = none) → state.lane file =
      if analyzed = file then
        state.laneAfter file ((reply? analyzer state file phase).map .concluded)
      else state.lane file := by
    intro phase unanswered quiet
    split
    · rw [reply?_of_silent (quiet ‹_›) unanswered]
      rfl
    · rfl
  rw [stepTask]
  cases phase : t.phase with
  | fresh =>
    rw [phase] at timely
    simp only [job, begin]
    cases found : state.documents.get? analyzed with
    | none =>
      refine silent .fresh (by simp) ?_
      rintro rfl
      rw [runCall?, found]
    | some document =>
      have asked : (state.reportInRun (.runStarted analyzed generation)).provider analyzed =
        state.provider analyzed := rfl
      simp only [consult, asked]
      cases provided : state.provider analyzed with
      | none =>
        refine silent .fresh (by simp) ?_
        rintro rfl
        rw [runCall?, found, provided]
      | some answer =>
        refine Eq.trans (lane_call_run analyzer task ?_ _ _ _) ?_
        · exact fun same => timely same rfl
        split
        · rename_i same
          subst same
          have makes : state.runCall? analyzed .fresh =
              some ⟨analyzed, document.text, answer.settings⟩ := by
            rw [runCall?, found, provided]
          rw [reply?_of_runCall? makes]
          rfl
        · rfl
  | informed asked text away answer =>
    rw [phase] at timely
    simp only [job, textFor]
    refine (lane_call_run analyzer task (fun same => timely same rfl) _ _ _).trans ?_
    have makes : state.runCall? file (.informed asked text away answer) =
      some ⟨asked, text, answer.settings⟩ := rfl
    rw [reply?_of_runCall? makes]
  | answered call =>
    rw [phase] at timely
    simp only [job]
    rw [lane_answer_run analyzer task (fun same => timely same rfl)]
    rfl
  | ending result =>
    cases result <;> exact silent _ (by simp) fun _ => rfl
  | _ => exact silent _ (by simp) fun _ => rfl

/-- The first step of a question for an index is seen by its file. -/
theorem lane_beginLookup (state : State) (task : TaskId) (wanted file : String) :
    (state.beginLookup task wanted).lane file =
      if wanted = file then (state.lane file).after file .sought else state.lane file := by
  have own : (state.beginLookup task file).lane file = (state.lane file).after file .sought := by
    rw [beginLookup, Lane.after]
    have seen : (state.lane file).index = state.cache.get? file := rfl
    rw [seen]
    cases cached : state.cache.get? file with
    | some index => rfl
    | none =>
      simp only [Option.isSome_none, Bool.false_eq_true, if_false]
      rw [Lane.trigger]
      cases inFlight : state.pending.get? file with
      | some run =>
        have busy : (state.lane file).busy = true := by simp [lane, Ledger.has, inFlight]
        simp only
        rw [lane_join, busy, Bool.true_or, ← busy]
      | none =>
        have idle : (state.lane file).busy = false := by simp [lane, Ledger.has, inFlight]
        have opened : (state.lane file).document.isSome = state.isOpen file := rfl
        simp only
        rw [idle, Bool.false_or, opened]
        split
        · rename_i shown
          rw [lane_join, lane_start, shown]
        · rename_i hidden
          rw [lane_finish, Bool.eq_false_iff.mpr hidden, ← idle]
  split
  · rename_i same
    subst same
    exact own
  · rename_i other
    rw [beginLookup]
    split
    · rfl
    · split
      · exact lane_join state task _
      · split
        · exact (lane_join _ task _).trans (lane_start_of_ne other)
        · rfl

/-- The first step of a shutdown is seen by every file. -/
theorem lane_beginShutdown (state : State) (task : TaskId) (file : String) :
    (state.beginShutdown task).lane file = { state.lane file with waiting := false } := by
  have heard : ∀ (runs : List TaskId) (s : State),
      (runs.foldl (fun s run => s.listen run (.drained task)) s).lane file = s.lane file := by
    intro runs s
    induction runs generalizing s with
    | nil => rfl
    | cons run rest ih => exact (ih (s.listen run _)).trans (lane_listen s run _)
  rw [beginShutdown]
  split
  · rfl
  · exact heard _ { state with debouncer := state.debouncer.cancelAll }

/-- The answer to a call is seen by no file if the task is no run. -/
theorem lane_answer_of_ne_run (analyzer : Analyzer) (task : TaskId) {job : Job}
    (other : ∀ analyzed generation, job ≠ .run analyzed generation) (call : AnalyzerCall) :
    (state.answer analyzer task job call).lane file = state.lane file := by
  cases job with
  | run analyzed generation => exact (other analyzed generation rfl).elim
  | _ =>
    simp only [answer]
    split <;> rfl

/-- A call is seen by no file if the task is no run. -/
theorem lane_call_of_ne_run (analyzer : Analyzer) (task : TaskId) {job : Job}
    (other : ∀ analyzed generation, job ≠ .run analyzed generation) (asked text : String)
    (answer : SettingsAnswer) :
    (state.call analyzer task job asked text answer).lane file = state.lane file := by
  rw [State.call]
  split
  · rfl
  · exact lane_answer_of_ne_run analyzer task other _

/-- The step of a task that is no run and has begun is seen by no file. -/
theorem lane_stepTask_of_begun (analyzer : Analyzer) (task : TaskId) {t : Task}
    (other : ∀ analyzed generation, t.job ≠ .run analyzed generation) (begun : t.phase ≠ .fresh) :
    (stepTask analyzer state task t).lane file = state.lane file := by
  rw [stepTask]
  split
  · exact (begun ‹_›).elim
  · exact lane_call_of_ne_run analyzer task other _ _ _
  · exact lane_answer_of_ne_run analyzer task other _
  · rfl
  · rfl
  · rfl

/-- The first step of a task that decodes a tree is seen by no file. -/
theorem lane_begin_tree (analyzer : Analyzer) (task : TaskId) (wanted : String) :
    (state.begin analyzer task (.tree wanted)).lane file = state.lane file := by
  rw [begin]
  split
  · rfl
  · rw [consult]
    split
    · exact lane_call_of_ne_run analyzer task (by simp) _ _ _
    · rfl

/-- The step of a task is seen by a file as what it is for the file. -/
theorem lane_stepTask (punctual : Punctual file (state.desk [])) (analyzer : Analyzer)
    {task : TaskId} {t : Task} (known : state.task? task = some t) :
    (stepTask analyzer state task t).lane file =
      state.laneAfter file (stepIncident? analyzer state t file) := by
  obtain ⟨job, phase, listeners⟩ := t
  cases job with
  | run analyzed generation =>
    rw [lane_step_run analyzer rfl]
    · simp only [stepIncident?]
      split <;> rfl
    · rintro rfl unfinished
      exact punctual.timely known rfl unfinished
  | lookup wanted =>
    cases phase with
    | fresh =>
      refine (lane_beginLookup state task wanted file).trans ?_
      simp only [stepIncident?]
      split <;> rfl
    | _ => exact lane_stepTask_of_begun analyzer task (fun _ _ => nofun) nofun
  | tree wanted =>
    cases phase with
    | fresh => exact lane_begin_tree analyzer task wanted
    | _ => exact lane_stepTask_of_begun analyzer task (fun _ _ => nofun) nofun
  | shutdown =>
    cases phase with
    | fresh => exact lane_beginShutdown state task file
    | _ => exact lane_stepTask_of_begun analyzer task (fun _ _ => nofun) nofun

/-- A piece of work is seen by a file as what it is for the file. -/
theorem lane_execute (punctual : Punctual file (state.desk [])) (analyzer : Analyzer)
    (work : Work) : (execute analyzer state work).lane file =
      state.laneAfter file (workIncident? analyzer state work file) := by
  cases work with
  | step task =>
    simp only [execute, workIncident?]
    cases known : state.task? task with
    | none => rfl
    | some t => exact lane_stepTask punctual analyzer known
  | settle settled run =>
    simp only [execute, workIncident?, beq_iff_eq]
    by_cases same : settled = file
    · subst same
      by_cases inFlight : state.pending.get? settled = some run
      · simp [inFlight, laneAfter, Lane.after, lane, Ledger.has]
      · simp [inFlight, laneAfter]
    · simp only [same, false_and, if_false]
      split
      · simp [laneAfter, lane, Ledger.has, Ledger.get?_remove_ne _ same]
      · rfl
  | relay run waiter =>
    simp only [execute, relay]
    split <;> rfl
  | drained waiter =>
    simp only [execute, drain]
    split
    · split <;> rfl
    · rfl
  | alarm requested serial turns =>
    cases turns with
    | succ turns => rfl
    | zero =>
      simp only [execute, workIncident?, beq_iff_eq]
      by_cases same : requested = file
      · subst same
        simp only [true_and]
        split
        · exact lane_fire state requested
        · rfl
      · simp only [same, false_and, if_false]
        split
        · exact lane_fire_of_ne state same
        · rfl

/-! ## Actions -/

/-- A cancellation is seen by no file. -/
theorem lane_cancel (state : State) (task : TaskId) (file : String) :
    (state.cancel task).2.lane file = state.lane file := by
  have step : ∀ (s : State) (id : TaskId), (s.cancelStep id).lane file = s.lane file := by
    intro s id
    rw [cancelStep]
    split <;> rfl
  rw [cancel]
  split
  · rfl
  · rfl
  · exact List.foldlRecOn (motive := fun s : State => s.lane file = state.lane file) _ cancelStep
      rfl fun s kept id _ => (step s id).trans kept
  · exact step state task

/-- Letting a call go on is seen by no file. -/
theorem lane_letGo (state : State) (released : String) (task : TaskId) (file : String) :
    (state.letGo released task).lane file = state.lane file := by
  rw [letGo]
  split
  · split <;> rfl
  · rfl

/-- Settings for a task are seen by no file. -/
theorem lane_inform (state : State) (answer : SettingsAnswer) (task : TaskId) (file : String) :
    (state.inform answer task).lane file = state.lane file := by
  rw [inform]
  split <;> rfl

/-- An action is seen by a file as what it is for the file. -/
theorem lane_act (punctual : Punctual file (state.desk [])) (action : Action) :
    (state.act action).lane file = state.laneAfter file (state.incident? action file) := by
  cases action with
  | event event =>
    refine (lane_handle state event file).trans ?_
    simp only [incident?]
    split <;> rfl
  | trigger triggered =>
    simp only [incident?]
    split
    · rename_i same
      subst same
      exact lane_trigger state triggered
    · rename_i other
      exact lane_trigger_of_ne other
  | ask job =>
    have kept : (state.ask job).2.lane file = state.lane file := rfl
    refine kept.trans ?_
    cases job with
    | run asked generation =>
      simp only [incident?]
      split <;> rfl
    | _ => rfl
  | tick analyzer =>
    simp only [incident?, act, tick]
    cases state.queue with
    | nil => rfl
    | cons work rest =>
      -- the order of generations does not read the queue
      have same : Punctual file ({ state with queue := rest }.desk []) :=
        ⟨punctual.given, punctual.recorded, punctual.inFlight, punctual.newest⟩
      exact lane_execute same analyzer work
  | alarm requested =>
    simp only [incident?, act]
    by_cases same : requested = file
    · subst same
      simp only [true_and]
      split
      · exact lane_fire state requested
      · rfl
    · simp only [same, false_and, if_false]
      split
      · exact lane_fire_of_ne state same
      · rfl
  | cancel task => exact lane_cancel state task file
  | release released =>
    exact List.foldlRecOn (motive := fun s : State => s.lane file = state.lane file) _
      (letGo released) rfl fun s kept task _ => (lane_letGo s released task file).trans kept
  | respond released task => exact lane_letGo state released task file
  | inform task answer => exact lane_inform state answer task file
  | clock | hold | provide => rfl

/-- What can be seen of a file after an interleaving is known from its incidents. -/
theorem lane_play {actions : List Action} (punctual : Punctual file (state.desk []))
    (moored : Moored (state.desk [])) (undated : ∀ action ∈ actions, ¬action.Dates file) :
    (state.play actions).lane file =
      (state.history file actions).foldl (Lane.after file) (state.lane file) := by
  induction actions generalizing state with
  | nil => rfl
  | cons action rest ih =>
    rw [List.forall_mem_cons] at undated
    have next := punctual_act punctual moored undated.1
    refine (ih next (moored_act moored action) undated.2).trans ?_
    rw [history, List.foldl_append, lane_act punctual action]
    cases state.incident? action file <;> rfl

end State

end PredicateIndex.Pipeline
