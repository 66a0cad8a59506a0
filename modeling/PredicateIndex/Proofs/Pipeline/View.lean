import PredicateIndex.Proofs.Pipeline.Runs

/-!
# One file of the pipeline

What the pipeline knows of one file: its document, whether a request waits for it, how far its run
in flight has come, how many runs it had, its index and diagnostics, and how many of its triggers
were dropped. Every operation of the pipeline is described by what it does to the view: one that
names another file leaves the view of a file, and one that names the file changes it in one place.
-/
namespace PredicateIndex.Pipeline

/-- How far the run in flight of a file has come. -/
inductive Stage where
  /-- It has not begun. -/
  | queued
  /-- It has read the text and waits for its settings. -/
  | asking (text : String)
  /-- It has its settings and is to make its call. -/
  | informed (call : AnalyzerCall)
  /-- It waits for the analyzer. -/
  | calling (call : AnalyzerCall)
  /-- The analyzer has an answer for it. -/
  | answered (call : AnalyzerCall)
  /-- It has ended and is not settled yet. -/
  | finished

/-- The stage of a run in a phase. -/
def Phase.stage : Phase → Stage
  | .fresh => .queued
  | .asking _ text _ => .asking text
  | .informed file text _ answer => .informed { file, text, settings := answer.settings }
  | .calling call => .calling call
  | .answered call => .answered call
  | _ => .finished

/-- What is known of one file. -/
structure View where
  /-- The open document. -/
  document : Option Document
  /-- Whether a request waits for its deadline. -/
  waiting : Bool
  /-- The stage of the run in flight. -/
  stage : Option Stage
  /-- The number of runs that were started. -/
  runs : Nat
  /-- The installed index. -/
  index : Option FileIndex
  /-- The published diagnostics. -/
  published : List EditorDiagnostic
  /-- The number of triggers that were dropped because a run was in flight. -/
  dropped : Nat

namespace View

/-- A run is started. -/
def start (view : View) : View := { view with stage := some .queued, runs := view.runs + 1 }

/-- An analysis is triggered: dropped if a run is in flight, ignored if no document is open. -/
def trigger (view : View) : View :=
  if view.stage.isSome then { view with dropped := view.dropped + 1 }
  else if view.document.isSome then view.start
  else view

/-- The waiting request is dropped and an analysis triggered. -/
def fire (view : View) : View := { view with waiting := false }.trigger

/-- The document is set. -/
def setDocument (view : View) (document : Document) : View :=
  { view with document := some document }

/-- The document is closed and what is known of the file dropped. -/
def close (view : View) : View :=
  { view with document := none, waiting := false, index := none, published := [] }

/-- The outcome of an analysis of an open document is taken in. -/
def takeOutcome (view : View) (file : String) (outcome : Outcome) : View :=
  match outcome.tree with
  | none => { view with published := forEditor outcome.diagnostics }
  | some tree =>
    let index := installedIndex file tree outcome
    { view with index := some index, published := forEditor index.diagnostics }

/-- The reply of the analyzer is taken in, unless the document is closed. -/
def conclude (view : View) (file : String) (reply : Reply) : View :=
  match reply.result with
  | .ok outcome => if view.document.isSome then view.takeOutcome file outcome else view
  | .error crash =>
    if view.document.isSome then
      { view with index := none, published := [internalDiagnostic crash] }
    else { view with index := none }

/-- The run in flight ends. -/
def finish (view : View) : View := { view with stage := some .finished }

/-- The provider answers the run in flight if it waits for its settings. -/
def inform (view : View) (file : String) (answer : SettingsAnswer) : View :=
  { view with stage := view.stage.map fun
      | .asking text => .informed { file, text, settings := answer.settings }
      | stage => stage }

/-- The analyzer answers the run in flight if it waits for it. -/
def respond (view : View) : View :=
  { view with stage := view.stage.map fun
      | .calling call => .answered call
      | stage => stage }

end View

/-- Whether a job is a run of a file. -/
def Job.isRunOf (file : String) : Job → Bool
  | .run analyzed _ => analyzed == file
  | _ => false

/-- Whether an entry says that a trigger of a file was dropped. -/
def Entry.drops (file : String) : Entry → Bool
  | .reported false (.alreadyPending triggered) => triggered == file
  | _ => false

namespace State

/-- The stage of the run in flight of a file. -/
def stage? (state : State) (file : String) : Option Stage :=
  (state.pending.get? file).bind fun run => (state.task? run).map fun t => t.phase.stage

/-- The jobs of all tasks. -/
def jobs (state : State) : List Job := state.tasks.map Task.job

/-- How often a trigger of a file was dropped. -/
def dropped (state : State) (file : String) : Nat := state.journal.countP (Entry.drops file)

/-- The call that a run of a file makes in the step that it takes in a phase: in its first one if the
provider answers at once, else in the one after the provider has answered. -/
def runCall? (state : State) (file : String) : Phase → Option AnalyzerCall
  | .fresh =>
    match state.documents.get? file, state.provider file with
    | some document, some answer =>
      some { file, text := document.text, settings := answer.settings }
    | _, _ => none
  | .informed asked text _ answer => some { file := asked, text, settings := answer.settings }
  | _ => none

/-- What is known of a file. -/
def view (state : State) (file : String) : View where
  document := state.documents.get? file
  waiting := state.debouncer.isWaiting file
  stage := state.stage? file
  runs := state.jobs.countP (Job.isRunOf file)
  index := state.cache.get? file
  published := (state.published.get? file).getD []
  dropped := state.dropped file

variable (state : State) (file : String)

/-- An entry that is no dropped trigger of a file leaves its view. -/
theorem view_log (entry : Entry) (other : entry.drops file = false) :
    (state.log entry).view file = state.view file := by
  simp [view, dropped, log, List.countP_append, other, stage?, task?, jobs]

/-- What is reported about settings leaves every view. -/
theorem view_heed (job : Job) (asked : String) (answer : SettingsAnswer) :
    (state.heed job asked answer).view file = state.view file := by
  cases answer <;>
    simp [view, dropped, heed, SettingsAnswer.notices, Entry.drops, List.countP_append, stage?,
      task?, jobs]

/-- A dropped trigger is counted. -/
theorem view_report_alreadyPending :
    (state.report (.alreadyPending file)).view file =
      { state.view file with dropped := (state.view file).dropped + 1 } := by
  simp [view, dropped, report, log, List.countP_append, Entry.drops, stage?, task?, jobs]

/-- Publishing replaces the diagnostics of a file. -/
theorem view_publish (diagnostics : List EditorDiagnostic) :
    (state.publish file diagnostics).view file =
      { state.view file with published := diagnostics } := by
  have published : ((if diagnostics.isEmpty then state.published.remove file
      else state.published.put file diagnostics).get? file).getD [] = diagnostics := by
    cases diagnostics <;> simp
  have logged : (state.log (.published file diagnostics)).dropped file = state.dropped file :=
    congrArg View.dropped (view_log state file _ rfl)
  simp only [view, publish, published]
  congr 1

/-- Publishing for one file leaves the others. -/
theorem view_publish_of_ne {published : String} (other : published ≠ file)
    (diagnostics : List EditorDiagnostic) :
    (state.publish published diagnostics).view file = state.view file := by
  have kept : (if diagnostics.isEmpty then state.published.remove published
      else state.published.put published diagnostics).get? file = state.published.get? file := by
    split
    · exact Ledger.get?_remove_ne _ other
    · exact Ledger.get?_put_ne _ other _
  have logged : (state.log (.published published diagnostics)).dropped file = state.dropped file :=
    congrArg View.dropped (view_log state file _ rfl)
  simp only [view, publish, kept]
  congr 1

/-- Setting the document of a file sets it. -/
theorem view_setDocument (document : Document) :
    (state.setDocument file document).view file = (state.view file).setDocument document := by
  simp only [view, setDocument, Ledger.get?_put_self]
  rfl

/-- Setting the document of one file leaves the others. -/
theorem view_setDocument_of_ne {set : String} (other : set ≠ file) (document : Document) :
    (state.setDocument set document).view file = state.view file := by
  simp only [view, setDocument, Ledger.get?_put_ne _ other]
  rfl

/-- A waiting request that is dropped waits no more. -/
theorem view_cancelRequest :
    (state.cancelRequest file).view file = { state.view file with waiting := false } := by
  simp only [view, cancelRequest, Debouncer.cancel, Debouncer.isWaiting, Ledger.has,
    Ledger.get?_remove_self]
  rfl

/-- Dropping the waiting request of one file leaves the others. -/
theorem view_cancelRequest_of_ne {cancelled : String} (other : cancelled ≠ file) :
    (state.cancelRequest cancelled).view file = state.view file := by
  simp only [view, cancelRequest, Debouncer.cancel, Debouncer.isWaiting, Ledger.has,
    Ledger.get?_remove_ne _ other]
  rfl

/-- A request that is held back waits. -/
theorem view_holdBack :
    (state.holdBack file).view file = { state.view file with waiting := true } := by
  have waits : (state.debouncer.request state.now file ()).isWaiting file = true := by
    simp [Debouncer.isWaiting, Debouncer.request, Ledger.has, Ledger.get?_append, Ledger.get?_cons]
  rw [holdBack]
  split <;> simp only [view, enqueue, waits] <;> rfl

/-- Holding back a request of one file leaves the others. -/
theorem view_holdBack_of_ne {changed : String} (other : changed ≠ file) :
    (state.holdBack changed).view file = state.view file := by
  have waits : (state.debouncer.request state.now changed ()).isWaiting file =
      state.debouncer.isWaiting file := by
    simp [Debouncer.isWaiting, Debouncer.request, Ledger.has, Ledger.get?_append, Ledger.get?_cons,
      Ledger.get?_remove_ne _ other, other]
  rw [holdBack]
  split <;> simp only [view, enqueue, waits] <;> rfl

/-- Closing a document drops what is known of its file. -/
theorem view_close : (state.close file).view file = (state.view file).close := by
  rw [close, view_publish]
  simp only [view, cancelRequest, Debouncer.cancel, Debouncer.isWaiting, Ledger.has, Cache.evict,
    Cache.get?, Ledger.get?_remove_self]
  rfl

/-- Closing one document leaves the others. -/
theorem view_close_of_ne {closed : String} (other : closed ≠ file) :
    (state.close closed).view file = state.view file := by
  rw [close, view_publish_of_ne _ _ other]
  simp only [view, cancelRequest, Debouncer.cancel, Debouncer.isWaiting, Ledger.has, Cache.evict,
    Cache.get?, Ledger.get?_remove_ne _ other]
  rfl

/-- The stage of a file depends on its run in flight only. -/
theorem stage?_eq {run : TaskId} {t : Task} (inFlight : state.pending.get? file = some run)
    (known : state.task? run = some t) : state.stage? file = some t.phase.stage := by
  simp [stage?, inFlight, known]

/-- Starting a run of a file puts it in flight. -/
theorem view_start : (state.start file).2.view file = (state.view file).start := by
  have inFlight : (state.start file).2.pending.get? file = some state.tasks.length :=
    Ledger.get?_put_self _ _ _
  have known : (state.start file).2.task? state.tasks.length = some
      ⟨.run file (some state.nextGeneration), .fresh, [.settle file state.tasks.length]⟩ := by
    simp [start, spawn, report, log, task?]
  have stage : (state.start file).2.stage? file = some .queued := stage?_eq _ _ inFlight known
  have queued : (state.report (.runQueued file state.nextGeneration)).dropped file =
      state.dropped file := congrArg View.dropped (view_log state file _ rfl)
  simp only [view, stage, View.start]
  congr 1
  simp [jobs, start, spawn, report, log, List.countP_append, Job.isRunOf]

/-- The run in flight of a file is a task. -/
def Listed : Prop := ∀ run, state.pending.get? file = some run → run < state.tasks.length

variable {state file}

/-- One more task leaves the stage of a file. -/
theorem stage?_append (listed : state.Listed file) (task : Task) :
    ((state.pending.get? file).bind fun run =>
      ((state.tasks ++ [task])[run]?).map fun t => t.phase.stage) = state.stage? file := by
  cases inFlight : state.pending.get? file with
  | none => simp [stage?, inFlight]
  | some run =>
    simp only [stage?, inFlight, Option.bind_some, task?,
      List.getElem?_append_left (listed run inFlight)]

/-- Starting a run of one file leaves the others. -/
theorem view_start_of_ne {started : String} (other : started ≠ file) (listed : state.Listed file) :
    (state.start started).2.view file = state.view file := by
  have stage : (state.start started).2.stage? file = state.stage? file := by
    rw [← stage?_append listed ⟨.run started (some state.nextGeneration), .fresh,
      [.settle started state.tasks.length]⟩]
    simp only [stage?, start, spawn, Ledger.get?_put_ne _ other]
    rfl
  have queued : (state.report (.runQueued started state.nextGeneration)).dropped file =
      state.dropped file := congrArg View.dropped (view_log state file _ rfl)
  simp only [view, stage]
  congr 1
  simp [jobs, start, spawn, report, log, List.countP_append, Job.isRunOf, other]

/-- Asking for a task other than a run leaves every file. -/
theorem view_ask (listed : state.Listed file) {job : Job} (other : job.isRunOf file = false) :
    (state.ask job).2.view file = state.view file := by
  have stage : (state.ask job).2.stage? file = state.stage? file :=
    stage?_append listed ⟨job, .fresh, []⟩
  simp only [view, stage]
  congr 1
  simp [jobs, ask, spawn, List.countP_append, other]

/-- Triggering an analysis of a file starts a run, or is dropped. -/
theorem view_trigger (listed : state.Listed file) :
    (state.trigger file).2.view file = (state.view file).trigger := by
  have stage : (state.view file).stage.isSome = state.pending.has file := by
    cases inFlight : state.pending.get? file with
    | none => simp [view, stage?, Ledger.has, inFlight]
    | some run =>
      have known : state.task? run = some _ := List.getElem?_eq_getElem (listed run inFlight)
      simp [view, Ledger.has, inFlight, stage?_eq _ _ inFlight known]
  rw [trigger, View.trigger, stage]
  split
  · exact view_report_alreadyPending state file
  · have opened : (state.view file).document.isSome = state.isOpen file := rfl
    rw [opened]
    split
    · exact view_start state file
    · rfl

/-- Triggering an analysis of one file leaves the others. -/
theorem view_trigger_of_ne {triggered : String} (other : triggered ≠ file)
    (listed : state.Listed file) : (state.trigger triggered).2.view file = state.view file := by
  rw [trigger]
  split
  · exact view_log state file _ (by simp [Entry.drops, other])
  · split
    · exact view_start_of_ne other listed
    · rfl

/-- A request of a file that fires triggers an analysis. -/
theorem view_fire (listed : state.Listed file) :
    (state.fire file).view file = (state.view file).fire := by
  have still : (state.cancelRequest file).Listed file := listed
  rw [fire, view_trigger still, view_cancelRequest]
  rfl

/-- A request of one file that fires leaves the others. -/
theorem view_fire_of_ne {fired : String} (other : fired ≠ file) (listed : state.Listed file) :
    (state.fire fired).view file = state.view file := by
  have still : (state.cancelRequest fired).Listed file := listed
  rw [fire, view_trigger_of_ne other still, view_cancelRequest_of_ne _ _ other]

/-- The runs in flight are tasks. -/
theorem listed_of_flight {hand : List Work} (flight : Flight (state.desk hand)) :
    state.Listed file := fun _ inFlight => flight.lt_length inFlight

/-- Requests of distinct files that fire one after another are one request of each of them. -/
theorem view_foldl_fire (file : String) {files : List String} (distinct : files.Nodup)
    (flight : Flight (state.desk [])) : (files.foldl fire state).view file =
      if file ∈ files then (state.view file).fire else state.view file := by
  induction files generalizing state with
  | nil => simp
  | cons first rest ih =>
    obtain ⟨fresh, distinct⟩ := List.nodup_cons.mp distinct
    have listed : state.Listed file := listed_of_flight flight
    have still : Flight ((state.fire first).desk []) :=
      Turns.keep Flight (fun flight turned => flight.turn turned) (moves_fire state [] first).turns
        flight
    rw [List.foldl_cons, ih distinct still]
    by_cases same : first = file
    · subst same
      rw [if_neg fresh, if_pos (by simp), view_fire listed]
    · rw [view_fire_of_ne same listed]
      simp [Ne.symm same]

/-- Triggering all open documents fires the request of every one of them. -/
theorem view_reanalyze (orderly : Orderly (state.desk [])) : state.reanalyze.view file =
    if (state.view file).document.isSome then (state.view file).fire else state.view file := by
  have fired := view_foldl_fire file orderly.documents orderly.flight
  simp only [desk, Ledger.mem_keys_iff] at fired
  exact fired

/-- Changing a task without its job leaves the jobs. -/
theorem jobs_modify (tasks : List Task) (task : TaskId) {change : Task → Task}
    (same : ∀ t, (change t).job = t.job) :
    (tasks.modify task change).map Task.job = tasks.map Task.job := by
  refine List.ext_getElem? fun k => ?_
  rw [List.getElem?_map, List.getElem?_map, List.getElem?_modify]
  cases tasks[k]? with
  | none => rfl
  | some t =>
    by_cases here : task = k <;> simp [here, same]

/-- Moving the run in flight of a file to a phase moves its stage. -/
theorem view_setPhase (state : State) {run : TaskId} {t : Task}
    (inFlight : state.pending.get? file = some run) (known : state.task? run = some t)
    (phase : Phase) :
    (state.setPhase run phase).view file = { state.view file with stage := some phase.stage } := by
  have found : (state.setPhase run phase).task? run = some { t with phase } := by
    rw [task?, setPhase, List.getElem?_modify_eq, show state.tasks[run]? = some t from known]
    rfl
  have stage : (state.setPhase run phase).stage? file = some phase.stage :=
    stage?_eq (state.setPhase run phase) file inFlight found
  have jobs : (state.setPhase run phase).jobs = state.jobs := jobs_modify _ _ fun _ => rfl
  simp only [view, stage, jobs]
  rfl

/-- Moving another task leaves a file. -/
theorem view_setPhase_of_ne (state : State) {task : TaskId}
    (other : state.pending.get? file ≠ some task) (phase : Phase) :
    (state.setPhase task phase).view file = state.view file := by
  have stage : (state.setPhase task phase).stage? file = state.stage? file := by
    cases inFlight : state.pending.get? file with
    | none => simp [stage?, setPhase, inFlight]
    | some run =>
      have apart : task ≠ run := fun same => other (same ▸ inFlight)
      simp [stage?, setPhase, inFlight, task?, List.getElem?_modify_ne _ _ apart]
  have jobs : (state.setPhase task phase).jobs = state.jobs := jobs_modify _ _ fun _ => rfl
  simp only [view, stage, jobs]
  rfl

/-- The end of the run in flight of a file is a stage of it. -/
theorem view_finish (state : State) {run : TaskId} {t : Task}
    (inFlight : state.pending.get? file = some run) (known : state.task? run = some t)
    (result : Result) :
    (state.finish run result).view file = (state.view file).finish := by
  have logged := view_log (state.setPhase run (.ended result)) file (.ended run result) rfl
  exact logged.trans (view_setPhase state inFlight known _)

/-- The end of another task leaves a file. -/
theorem view_finish_of_ne (state : State) {task : TaskId}
    (other : state.pending.get? file ≠ some task) (result : Result) :
    (state.finish task result).view file = state.view file := by
  have logged := view_log (state.setPhase task (.ended result)) file (.ended task result) rfl
  exact logged.trans (view_setPhase_of_ne state other _)

/-- Changing the listeners of a task leaves every file. -/
theorem view_listeners (task : TaskId) (change : List Work → List Work) :
    ({ state with tasks := state.tasks.modify task fun t =>
      { t with listeners := change t.listeners } } : State).view file = state.view file := by
  have stage : ({ state with tasks := state.tasks.modify task fun t =>
      { t with listeners := change t.listeners } } : State).stage? file = state.stage? file := by
    simp only [stage?, task?]
    congr 1
    funext run
    rw [List.getElem?_modify]
    cases state.tasks[run]? with
    | none => rfl
    | some t => by_cases here : task = run <;> simp [here]
  have jobs : (state.tasks.modify task fun t =>
      { t with listeners := change t.listeners }).map Task.job = state.tasks.map Task.job :=
    jobs_modify _ _ fun _ => rfl
  simp only [view, stage, State.jobs, jobs]
  rfl

/-- Listening leaves every file. -/
theorem view_listen (task : TaskId) (work : Work) :
    (state.listen task work).view file = state.view file := by
  rw [listen]
  split
  · rfl
  · exact view_listeners task (· ++ [work])

/-- Joining a run leaves a file of which the task is not the run in flight. -/
theorem view_join {task : TaskId} (other : state.pending.get? file ≠ some task) (run : TaskId) :
    (state.join task run).view file = state.view file := by
  rw [join]
  split
  · exact view_finish_of_ne state other _
  · have still : (state.listen run (.relay run task)).pending = state.pending := by
      rw [listen]
      split <;> rfl
    rw [view_setPhase_of_ne _ (still ▸ other), view_listen]

/-- Reports of a run leave every file. -/
theorem view_reports {α : Type} (notice : α → Notice) (notices : List α) :
    (notices.foldl (fun s n => s.reportInRun (notice n)) state).view file = state.view file := by
  induction notices generalizing state with
  | nil => rfl
  | cons first rest ih => exact ih.trans (view_log state file _ rfl)

/-- Replacing the cache changes the index of a file at most. -/
theorem view_cache (cache : Cache) :
    ({ state with cache } : State).view file = { state.view file with index := cache.get? file } :=
  rfl

/-- Reporting something from inside a run leaves every file. -/
theorem view_reportInRun (notice : Notice) :
    (state.reportInRun notice).view file = state.view file :=
  view_log state file _ rfl

/-- Installing an index that is not stale sets and publishes it. -/
theorem view_install {generation : Option Int}
    (timely : state.cache.isStale file generation = false) (index : FileIndex) :
    (state.install file generation index).2.view file =
      { state.view file with index := some index, published := forEditor index.diagnostics } := by
  have written : (state.cache.write file index generation).get? file = some index :=
    Ledger.get?_put_self _ _ _
  rw [install, Cache.install, if_neg (by simp [timely])]
  rw [view_reportInRun, view_publish, view_reportInRun, view_cache, written]

/-- Installing an index of one file leaves the others. -/
theorem view_install_of_ne {installed : String} (other : installed ≠ file)
    (generation : Option Int) (index : FileIndex) :
    (state.install installed generation index).2.view file = state.view file := by
  have kept : (state.cache.write installed index generation).get? file = state.cache.get? file :=
    Ledger.get?_put_ne _ other _
  rw [install, Cache.install]
  split
  · rfl
  · rename_i cache accepted
    split at accepted
    · cases accepted
    · cases accepted
      rw [view_reportInRun, view_publish_of_ne _ _ other, view_reportInRun, view_cache, kept]
      rfl

/-- The end of a run with an outcome takes the outcome in, if the document is open. -/
theorem view_concludeOutcome {generation : Option Int}
    (timely : state.cache.isStale file generation = false) (outcome : Outcome) :
    (state.concludeOutcome file generation outcome).2.view file =
      if (state.view file).document.isSome then (state.view file).takeOutcome file outcome
      else state.view file := by
  have opened : (state.view file).document.isSome = state.isOpen file := rfl
  rw [concludeOutcome, opened]
  split
  · rw [View.takeOutcome]
    cases outcome.tree with
    | none => rw [view_reportInRun, view_publish]
    | some tree =>
      simp only
      rw [view_install, view_reports]
      rw [foldl_reportInRun]
      exact timely
  · rfl

/-- Evicting the index of a file drops it. -/
theorem view_evict : (state.evict file).view file = { state.view file with index := none } := by
  have gone : (state.cache.evict file).get? file = none := Ledger.get?_remove_self _ _
  rw [evict]
  split
  · rw [view_reportInRun, view_cache, gone]
  · rw [view_cache, gone]

/-- Evicting the index of one file leaves the others. -/
theorem view_evict_of_ne {evicted : String} (other : evicted ≠ file) :
    (state.evict evicted).view file = state.view file := by
  have kept : (state.cache.evict evicted).get? file = state.cache.get? file :=
    Ledger.get?_remove_ne _ other
  rw [evict]
  split
  · rw [view_reportInRun, view_cache, kept]
    rfl
  · rw [view_cache, kept]
    rfl

/-- Evicting an index leaves the documents. -/
theorem isOpen_evict (evicted : String) :
    (state.evict evicted).isOpen file = state.isOpen file := by
  rw [evict]
  split <;> rfl

/-- The end of a run that was broken off evicts the index, and says so if the document is open. -/
theorem view_concludeCrash (crash : Crash) : (state.concludeCrash file crash).view file =
    if (state.view file).document.isSome then
      { state.view file with index := none, published := [internalDiagnostic crash] }
    else { state.view file with index := none } := by
  have opened : (state.view file).document.isSome =
      ((state.reportInRun (.internalError file)).evict file).isOpen file := by
    rw [isOpen_evict]
    rfl
  rw [concludeCrash, opened]
  split
  · rw [view_publish, view_evict, view_reportInRun]
  · rw [view_evict, view_reportInRun]

/-- The end of a run takes the reply of the analyzer in. -/
theorem view_conclude {generation : Option Int}
    (timely : state.cache.isStale file generation = false) (reply : Reply) :
    (state.conclude file generation reply).2.view file = (state.view file).conclude file reply := by
  rw [conclude, View.conclude]
  cases reply.result with
  | error crash =>
    simp only
    rw [view_concludeCrash, view_reports]
  | ok outcome =>
    simp only
    rw [view_concludeOutcome, view_reports]
    rw [foldl_reportInRun]
    exact timely

/-- The end of a run of one file leaves the others. -/
theorem view_conclude_of_ne {analyzed : String} (other : analyzed ≠ file)
    (generation : Option Int) (reply : Reply) :
    (state.conclude analyzed generation reply).2.view file = state.view file := by
  rw [conclude]
  cases reply.result with
  | error crash =>
    simp only [concludeCrash]
    split
    · rw [view_publish_of_ne _ _ other, view_evict_of_ne other, view_reportInRun, view_reports]
    · rw [view_evict_of_ne other, view_reportInRun, view_reports]
  | ok outcome =>
    simp only [concludeOutcome]
    split
    · cases outcome.tree with
      | none =>
        simp only
        rw [view_reportInRun, view_publish_of_ne _ _ other, view_reports]
      | some tree =>
        simp only
        rw [view_install_of_ne other, view_reports, view_reports]
    · exact view_reports _ _

end State

end PredicateIndex.Pipeline
