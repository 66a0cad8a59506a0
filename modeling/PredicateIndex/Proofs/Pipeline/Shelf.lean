import PredicateIndex.Proofs.Pipeline.Moves

/-!
# What can change on the shelf

The shelf is the part of the pipeline that is kept for readers: the open documents, the waiting
requests, the cache, and the published diagnostics with all that was ever published. `Deed` lists
what the work of tasks does to it: a deed leaves the documents, and it installs and publishes for
open documents only. Events add to this that a document is set, that its request is held back and
that it is closed. Nothing is assumed of the actions: runs may be started by hand and tasks may be
cancelled.
-/
namespace PredicateIndex.Pipeline

/-- The file and the diagnostics that an entry says were published. -/
def Entry.publication? : Entry → Option (String × List EditorDiagnostic)
  | .published file diagnostics => some (file, diagnostics)
  | _ => none

/-- What is kept for readers. -/
structure Shelf where
  /-- The open documents. -/
  documents : Ledger Document
  /-- The changed documents whose analysis is held back. -/
  debouncer : Debouncer Unit
  /-- The installed indexes. -/
  cache : Cache
  /-- The published diagnostics of each file that has any. -/
  published : Ledger (List EditorDiagnostic)
  /-- All that was published, in order. -/
  publications : List (String × List EditorDiagnostic)

/-- Publish the complete diagnostics of a file. -/
def Shelf.publish (shelf : Shelf) (file : String) (diagnostics : List EditorDiagnostic) : Shelf :=
  { shelf with
    published :=
      if diagnostics.isEmpty then shelf.published.remove file
      else shelf.published.put file diagnostics
    publications := shelf.publications ++ [(file, diagnostics)] }

/-- Close the document of a file and drop what is known about it. -/
def Shelf.close (shelf : Shelf) (file : String) : Shelf :=
  { shelf with
    documents := shelf.documents.remove file
    debouncer := shelf.debouncer.cancel file
    cache := shelf.cache.evict file }.publish file []

/-- What the work of a task can do to the shelf. -/
inductive Deed : Shelf → Shelf → Prop where
  /-- The waiting request of a file is dropped. -/
  | cancel (shelf : Shelf) (file : String) :
    Deed shelf { shelf with debouncer := shelf.debouncer.cancel file }
  /-- All waiting requests are dropped. -/
  | silence (shelf : Shelf) : Deed shelf { shelf with debouncer := shelf.debouncer.cancelAll }
  /-- The index of an open document is installed. -/
  | install (shelf : Shelf) (file : String) (index : FileIndex) (generation : Option Int)
    (opened : (shelf.documents.get? file).isSome) :
    Deed shelf { shelf with cache := shelf.cache.write file index generation }
  /-- The index of a file is evicted. -/
  | evict (shelf : Shelf) (file : String) :
    Deed shelf { shelf with cache := shelf.cache.evict file }
  /-- The diagnostics of an open document are published. -/
  | publish (shelf : Shelf) (file : String) (diagnostics : List EditorDiagnostic)
    (opened : (shelf.documents.get? file).isSome) : Deed shelf (shelf.publish file diagnostics)

/-- Several deeds one after another. -/
abbrev Deeds : Shelf → Shelf → Prop := Relation.ReflTransGen Deed

/-- What an action can do to the shelf. -/
inductive Change : Shelf → Shelf → Prop where
  /-- A deed is done. -/
  | deed {shelf shelf' : Shelf} (done : Deed shelf shelf') : Change shelf shelf'
  /-- A document is set. -/
  | write (shelf : Shelf) (file : String) (document : Document) :
    Change shelf { shelf with documents := shelf.documents.put file document }
  /-- The request of an open document is held back. -/
  | request (shelf : Shelf) (now : Nat) (file : String)
    (opened : (shelf.documents.get? file).isSome) :
    Change shelf { shelf with debouncer := shelf.debouncer.request now file () }
  /-- A document is closed. -/
  | close (shelf : Shelf) (file : String) : Change shelf (shelf.close file)

/-- Several changes one after another. -/
abbrev Changes : Shelf → Shelf → Prop := Relation.ReflTransGen Change

/-- Deeds are changes. -/
theorem Deeds.changes {shelf shelf' : Shelf} (deeds : Deeds shelf shelf') :
    Changes shelf shelf' := by
  induction deeds with
  | refl => exact .refl
  | tail _ done ih => exact ih.tail (.deed done)

/-- Deeds leave the documents. -/
theorem Deeds.documents {shelf shelf' : Shelf} (deeds : Deeds shelf shelf') :
    shelf'.documents = shelf.documents := by
  induction deeds with
  | refl => rfl
  | tail _ done ih =>
    cases done with
    | cancel | silence | install | evict | publish => exact ih

namespace State

/-- All that was published, in order. -/
def publications (state : State) : List (String × List EditorDiagnostic) :=
  state.journal.filterMap Entry.publication?

/-- What is kept for readers. -/
def shelf (state : State) : Shelf where
  documents := state.documents
  debouncer := state.debouncer
  cache := state.cache
  published := state.published
  publications := state.publications

variable (state : State)

/-- An entry that is no publication leaves the shelf. -/
theorem shelf_log (entry : Entry) (other : entry.publication? = none) :
    (state.log entry).shelf = state.shelf := by
  simp [shelf, publications, log, other]

/-- Reporting something from inside a run leaves the shelf. -/
theorem shelf_reportInRun (notice : Notice) : (state.reportInRun notice).shelf = state.shelf :=
  shelf_log state (.reported true notice) rfl

/-- Publishing is seen on the shelf. -/
theorem shelf_publish (file : String) (diagnostics : List EditorDiagnostic) :
    (state.publish file diagnostics).shelf = state.shelf.publish file diagnostics := by
  simp [shelf, publications, publish, log, Shelf.publish, Entry.publication?]

/-- Closing a document is seen on the shelf. -/
theorem shelf_close (file : String) : (state.close file).shelf = state.shelf.close file := by
  rw [close, shelf_publish]
  rfl

/-- Steps that each do deeds do deeds one after another. -/
theorem deeds_foldl {α : Type} {step : State → α → State}
    (deeds : ∀ s a, Deeds s.shelf (step s a).shelf) (items : List α) :
    Deeds state.shelf (items.foldl step state).shelf := by
  induction items generalizing state with
  | nil => exact .refl
  | cons item rest ih => exact (deeds state item).trans (ih (step state item))

/-- Steps that each leave the shelf leave it one after another. -/
theorem shelf_foldl {α : Type} {step : State → α → State}
    (same : ∀ s a, (step s a).shelf = s.shelf) (items : List α) :
    (items.foldl step state).shelf = state.shelf := by
  induction items generalizing state with
  | nil => rfl
  | cons item rest ih => exact (ih (step state item)).trans (same state item)

/-- Starting a run leaves the shelf. -/
theorem shelf_start (file : String) : (state.start file).2.shelf = state.shelf :=
  shelf_log state (.reported false (.runQueued file state.nextGeneration)) rfl

/-- A trigger leaves the shelf. -/
theorem shelf_trigger (file : String) : (state.trigger file).2.shelf = state.shelf := by
  rw [trigger]
  split
  · exact shelf_log state _ rfl
  · split
    · exact shelf_start state file
    · rfl

/-- A request that fires is dropped. -/
theorem deeds_fire (file : String) : Deeds state.shelf (state.fire file).shelf := by
  rw [fire, shelf_trigger]
  exact .single (.cancel state.shelf file)

/-- Triggering all open documents drops their requests. -/
theorem deeds_reanalyze : Deeds state.shelf state.reanalyze.shelf :=
  deeds_foldl state deeds_fire state.documents.keys

/-- The end of a task leaves the shelf. -/
theorem shelf_finish (task : TaskId) (result : Result) :
    (state.finish task result).shelf = state.shelf :=
  shelf_log (state.setPhase task (.ended result)) (.ended task result) rfl

/-- Listening leaves the shelf. -/
theorem shelf_listen (task : TaskId) (work : Work) :
    (state.listen task work).shelf = state.shelf := by
  rw [listen]
  split <;> rfl

/-- Joining a run leaves the shelf. -/
theorem shelf_join (task run : TaskId) : (state.join task run).shelf = state.shelf := by
  rw [join]
  split
  · exact shelf_finish state task _
  · exact shelf_listen state run _

/-- Reports of a run leave the shelf. -/
theorem shelf_reports {α : Type} (notice : α → Notice) (notices : List α) :
    (notices.foldl (fun s n => s.reportInRun (notice n)) state).shelf = state.shelf :=
  shelf_foldl state (fun s n => shelf_reportInRun s (notice n)) notices

/-- Installing an index of an open document installs and publishes it, or does nothing. -/
theorem deeds_install {file : String} (opened : (state.documents.get? file).isSome)
    (generation : Option Int) (index : FileIndex) :
    Deeds state.shelf (state.install file generation index).2.shelf := by
  rw [install, Cache.install]
  split
  · exact .refl
  · rename_i cache installed
    split at installed
    · cases installed
    · cases installed
      simp only
      rw [shelf_reportInRun, shelf_publish, shelf_reportInRun]
      exact .tail (.single (.install state.shelf file index generation opened))
        (.publish _ file _ opened)

/-- An index that is not superseded is installed and published. -/
theorem shelf_install {state : State} {file : String} {generation : Option Int}
    (timely : state.cache.isStale file generation = false) (index : FileIndex) :
    (state.install file generation index).2.shelf =
      { state.shelf with cache := state.cache.write file index generation }.publish file
        (forEditor index.diagnostics) := by
  rw [install, Cache.install, if_neg (by simp [timely])]
  simp only
  rw [shelf_reportInRun, shelf_publish, shelf_reportInRun]
  rfl

/-- An index that is superseded changes nothing. -/
theorem install_of_stale {state : State} {file : String} {generation : Option Int}
    (stale : state.cache.isStale file generation) (index : FileIndex) :
    (state.install file generation index).2 = state := by
  rw [install, Cache.install, if_pos stale]

/-- The end of a run with an outcome installs and publishes for an open document only. -/
theorem deeds_concludeOutcome (file : String) (generation : Option Int) (outcome : Outcome) :
    Deeds state.shelf (state.concludeOutcome file generation outcome).2.shelf := by
  rw [concludeOutcome]
  split
  · rename_i opened
    cases outcome.tree with
    | none =>
      simp only
      rw [shelf_reportInRun, shelf_publish]
      exact .single (.publish state.shelf file _ opened)
    | some tree =>
      have same := shelf_reports state .indexing tree.notices
      have still := congrArg (fun shelf => (shelf.documents.get? file).isSome) same
      rw [← same]
      exact deeds_install _ (still.trans opened) generation _
  · exact .refl

/-- Evicting an index is seen on the shelf. -/
theorem shelf_evict (file : String) :
    (state.evict file).shelf = { state.shelf with cache := state.cache.evict file } := by
  rw [evict]
  split
  · exact shelf_reportInRun _ _
  · rfl

/-- The end of a run that was broken off evicts, and publishes for an open document only. -/
theorem deeds_concludeCrash (file : String) (crash : Crash) :
    Deeds state.shelf (state.concludeCrash file crash).shelf := by
  have evicted :
      Deeds state.shelf ((state.reportInRun (.internalError file)).evict file).shelf := by
    rw [shelf_evict, shelf_reportInRun]
    exact .single (.evict state.shelf file)
  rw [concludeCrash]
  split
  · rename_i opened
    rw [shelf_publish]
    exact evicted.tail (.publish _ file _ opened)
  · exact evicted

/-- The end of a run installs and publishes for an open document only. -/
theorem deeds_conclude (file : String) (generation : Option Int) (reply : Reply) :
    Deeds state.shelf (state.conclude file generation reply).2.shelf := by
  have same := shelf_reports state .analyzer reply.notices
  rw [conclude, ← same]
  cases reply.result with
  | ok outcome => exact deeds_concludeOutcome _ file generation outcome
  | error crash => exact deeds_concludeCrash _ file crash

/-- A task whose call has been answered does the deeds of the end of a run. -/
theorem deeds_answer (analyzer : Analyzer) (task : TaskId) (job : Job) (call : AnalyzerCall) :
    Deeds state.shelf (state.answer analyzer task job call).shelf := by
  cases job with
  | run file generation =>
    simp only [answer, shelf_finish]
    exact deeds_conclude state file generation (analyzer call)
  | _ =>
    simp only [answer]
    split <;> rw [shelf_finish]

/-- A call leaves the shelf, with what is reported about its settings. -/
theorem shelf_called (job : Job) (file : String) (answer : SettingsAnswer) (call : AnalyzerCall) :
    ((state.heed job file answer).log (.called call)).shelf = state.shelf := by
  refine (shelf_log (state.heed job file answer) (.called call) rfl).trans ?_
  cases answer <;> simp [shelf, publications, heed, SettingsAnswer.notices, Entry.publication?]

/-- A task that calls the analyzer does the deeds of its answer at most. -/
theorem deeds_call (analyzer : Analyzer) (task : TaskId) (job : Job) (file text : String)
    (answer : SettingsAnswer) :
    Deeds state.shelf (state.call analyzer task job file text answer).shelf := by
  rw [call]
  generalize ({ file, text, settings := answer.settings } : AnalyzerCall) = call
  have same := shelf_called state job file answer call
  split
  · exact same ▸ .refl
  · rw [← same]
    exact deeds_answer _ analyzer task job call

/-- A task that asks for its settings does the deeds of its call at most. -/
theorem deeds_consult (analyzer : Analyzer) (task : TaskId) (job : Job) (file text : String) :
    Deeds state.shelf (state.consult analyzer task job file text).shelf := by
  rw [consult]
  split
  · exact deeds_call state analyzer task job file text _
  · exact .refl

/-- The first step of a lookup leaves the shelf. -/
theorem shelf_beginLookup (task : TaskId) (file : String) :
    (state.beginLookup task file).shelf = state.shelf := by
  rw [beginLookup]
  split
  · exact shelf_finish state task _
  · split
    · exact shelf_join state task _
    · split
      · exact (shelf_join (state.start file).2 task _).trans (shelf_start state file)
      · exact shelf_finish state task _

/-- The end of a shutdown leaves the shelf. -/
theorem shelf_stop (task : TaskId) (runs : Nat) : (state.stop task runs).shelf = state.shelf :=
  (shelf_finish _ task _).trans (shelf_log state _ rfl)

/-- The first step of a shutdown drops the waiting requests. -/
theorem deeds_beginShutdown (task : TaskId) :
    Deeds state.shelf (state.beginShutdown task).shelf := by
  have quiet : Deeds state.shelf { state with debouncer := state.debouncer.cancelAll }.shelf :=
    .single (.silence state.shelf)
  refine quiet.trans ?_
  rw [beginShutdown]
  generalize ({ state with debouncer := state.debouncer.cancelAll } : State) = silent
  simp only
  split
  · rw [shelf_stop]
  · generalize silent.pending.map Prod.snd = runs
    have same := shelf_foldl silent (fun s run => shelf_listen s run (.drained task)) runs
    exact same ▸ .refl

/-- The first step of a task does deeds. -/
theorem deeds_begin (analyzer : Analyzer) (task : TaskId) (job : Job) :
    Deeds state.shelf (state.begin analyzer task job).shelf := by
  cases job with
  | run file generation =>
    rw [begin]
    split
    · rw [shelf_finish]
    · rename_i document _
      rw [← shelf_reportInRun state (.runStarted file generation)]
      exact deeds_consult _ analyzer task _ file document.text
  | lookup file => rw [begin, shelf_beginLookup]
  | tree file =>
    rw [begin]
    split
    · rw [shelf_finish]
    · exact deeds_consult state analyzer task _ file _
  | shutdown => exact deeds_beginShutdown state task

/-- The step of a task does deeds. -/
theorem deeds_stepTask (analyzer : Analyzer) (id : TaskId) (task : Task) :
    Deeds state.shelf (stepTask analyzer state id task).shelf := by
  rw [stepTask]
  split
  · exact deeds_begin state analyzer id task.job
  · exact deeds_call state analyzer id task.job _ _ _
  · exact deeds_answer state analyzer id task.job _
  · rw [shelf_stop]
  · rw [shelf_finish]
  · exact .refl

/-- A piece of work does deeds. -/
theorem deeds_execute (analyzer : Analyzer) (work : Work) :
    Deeds state.shelf (execute analyzer state work).shelf := by
  cases work with
  | step id =>
    simp only [execute]
    split
    · exact deeds_stepTask state analyzer id _
    · exact .refl
  | settle file run =>
    simp only [execute]
    split <;> exact .refl
  | relay run waiter =>
    simp only [execute, relay]
    split <;> exact .refl
  | drained waiter =>
    simp only [execute, drain]
    split
    · split <;> exact .refl
    · exact .refl
  | alarm file serial turns =>
    cases turns with
    | zero =>
      simp only [execute]
      split
      · exact deeds_fire state file
      · exact .refl
    | succ turns => exact .refl

/-- Doing the first piece of work does deeds. -/
theorem deeds_tick (analyzer : Analyzer) : Deeds state.shelf (tick analyzer state).shelf := by
  rw [tick]
  split
  · exact .refl
  · rename_i work rest _
    exact deeds_execute { state with queue := rest } analyzer work

/-- Letting the call of a task go on leaves the shelf. -/
theorem shelf_letGo (file : String) (task : TaskId) :
    (letGo file state task).shelf = state.shelf := by
  rw [letGo]
  split
  · split <;> rfl
  · rfl

/-- Answering a task that waits for its settings leaves the shelf. -/
theorem shelf_inform (answer : SettingsAnswer) (task : TaskId) :
    (state.inform answer task).shelf = state.shelf := by
  rw [inform]
  split <;> rfl

/-- Cancelling a task leaves the shelf. -/
theorem shelf_cancel (task : TaskId) : (state.cancel task).2.shelf = state.shelf := by
  have step : ∀ (s : State) (id : TaskId), (s.cancelStep id).shelf = s.shelf := by
    intro s id
    rw [cancelStep]
    split <;> rfl
  rw [cancel]
  split
  · rfl
  · rfl
  · rename_i runs left _ _
    exact shelf_foldl (state.setPhase task (.draining runs left true)) step runs
  · exact step state task

/-- An action that is no event does deeds. -/
theorem deeds_act {action : Action} (other : ∀ event, action ≠ .event event) :
    Deeds state.shelf (state.act action).shelf := by
  cases action with
  | event event => exact (other event rfl).elim
  | trigger file => rw [act, shelf_trigger]
  | ask job => exact .refl
  | cancel task => rw [act, shelf_cancel]
  | tick analyzer => exact deeds_tick state analyzer
  | clock time => exact .refl
  | alarm file =>
    simp only [act]
    split
    · exact deeds_fire state file
    · exact .refl
  | hold file => exact .refl
  | release file =>
    have same := shelf_foldl { state with held := state.held.filter (· != file) }
      (fun s task => shelf_letGo s file task) (List.range state.tasks.length)
    exact same ▸ .refl
  | respond file task => rw [act, shelf_letGo]
  | provide provider => exact .refl
  | inform task answer => rw [act, shelf_inform]

/-- An event changes the shelf. -/
theorem changes_handle (event : Event) : Changes state.shelf (state.handle event).shelf := by
  have fired : ∀ (s : State) (file : String), Changes s.shelf (s.fire file).shelf :=
    fun s file => (deeds_fire s file).changes
  cases event with
  | opened file text version =>
    have reported : (state.report (.documentOpened file)).shelf = state.shelf :=
      shelf_log state _ rfl
    rw [handle, shelf_trigger, ← reported]
    exact .single (.write _ file { text, version })
  | changed file text version =>
    generalize known : changedDocument (state.documents.get? file) text version = document
    have opened : ((state.setDocument file document).shelf.documents.get? file).isSome := by
      simp [setDocument, shelf]
    have held := Change.request (state.setDocument file document).shelf state.now file opened
    rw [handle, known, holdBack]
    split <;> exact .tail (.single (.write state.shelf file document)) held
  | saved file text =>
    cases text with
    | none => exact fired state file
    | some text => exact .head (.write state.shelf file _) (fired (state.setDocument file _) file)
  | closed file =>
    rw [handle, shelf_close]
    exact .single (.close state.shelf file)
  | configured settings =>
    cases settings with
    | none => exact (deeds_reanalyze state).changes
    | some given => exact (deeds_reanalyze { state with provider := .fixed given }).changes
  | reanalyzed => exact (deeds_reanalyze state).changes

/-- The documents stay, or one of them is set or closed. -/
theorem documents_act (action : Action) :
    (state.act action).documents = state.documents ∨
      (∃ file document, action.SetsText file ∧
        (state.act action).documents = state.documents.put file document) ∨
      ∃ file, action = .event (.closed file) ∧
        (state.act action).documents = state.documents.remove file := by
  by_cases isEvent : ∃ event, action = .event event
  · obtain ⟨event, rfl⟩ := isEvent
    cases event with
    | opened file text version =>
      have same := congrArg Shelf.documents (shelf_trigger
        (((state.report (.documentOpened file)).putAway file).setDocument file
          { text, version }) file)
      exact .inr (.inl ⟨file, _, rfl, same⟩)
    | changed file text version =>
      refine .inr (.inl ⟨file, changedDocument (state.documents.get? file) text version, rfl, ?_⟩)
      rw [act, handle, holdBack]
      split <;> rfl
    | saved file text =>
      cases text with
      | none => exact .inl (deeds_fire state file).documents
      | some text =>
        exact .inr (.inl ⟨file, _, ⟨rfl, rfl⟩,
          (deeds_fire (state.setDocument file _) file).documents⟩)
    | closed file => exact .inr (.inr ⟨file, rfl, rfl⟩)
    | configured settings =>
      cases settings with
      | none => exact .inl (deeds_reanalyze state).documents
      | some given => exact .inl (deeds_reanalyze { state with provider := .fixed given }).documents
    | reanalyzed => exact .inl (deeds_reanalyze state).documents
  · exact .inl (deeds_act state fun event same => isEvent ⟨event, same⟩).documents

/-- A document that is open stays open until it is closed. -/
theorem isOpen_act {file : String} (opened : state.isOpen file) {action : Action}
    (kept : action ≠ .event (.closed file)) : (state.act action).isOpen file := by
  rw [isOpen, Ledger.has]
  rcases documents_act state action with same | ⟨written, document, -, put⟩ | ⟨closed, rfl, removed⟩
  · rw [same]
    exact opened
  · rw [put, Ledger.get?_put]
    split
    · rfl
    · exact opened
  · rw [removed, Ledger.get?_remove_ne]
    · exact opened
    · rintro rfl
      exact kept rfl

/-- A document that is not open is opened by setting its text only. -/
theorem isOpen_act_eq_false {file : String} (closed : state.isOpen file = false) {action : Action}
    (keeps : ¬action.SetsText file) : (state.act action).isOpen file = false := by
  rw [isOpen, Ledger.has]
  rcases documents_act state action with
    same | ⟨written, document, sets, put⟩ | ⟨erased, rfl, removed⟩
  · rw [same]
    exact closed
  · rw [put, Ledger.get?_put_ne]
    · exact closed
    · rintro rfl
      exact keeps sets
  · rw [removed, Ledger.get?_remove]
    split
    · rfl
    · exact closed

/-- Every action changes the shelf. -/
theorem changes_act (action : Action) : Changes state.shelf (state.act action).shelf := by
  by_cases isEvent : ∃ event, action = .event event
  · obtain ⟨event, rfl⟩ := isEvent
    exact changes_handle state event
  · exact (deeds_act state fun event same => isEvent ⟨event, same⟩).changes

/-- What every change keeps is kept by every interleaving. -/
theorem keep_play (kept : Shelf → Prop)
    (change : ∀ {shelf shelf' : Shelf}, kept shelf → Change shelf shelf' → kept shelf')
    (start : kept state.shelf) (actions : List Action) : kept (state.play actions).shelf := by
  induction actions generalizing state with
  | nil => exact start
  | cons action rest ih =>
    refine ih (state.act action) ?_
    have changes := changes_act state action
    generalize (state.act action).shelf = shelf at changes
    induction changes with
    | refl => exact start
    | tail _ changed ih => exact change ih changed

end State

end PredicateIndex.Pipeline
