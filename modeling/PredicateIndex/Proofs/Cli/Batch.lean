import PredicateIndex.Cli.Batch
import PredicateIndex.Proofs.Pipeline.Effect
import PredicateIndex.Proofs.Pipeline.Joining
import PredicateIndex.Proofs.Pipeline.Provider

/-!
# What a batch leaves in the cache

All files of a batch are opened before any work is done, and from then on no document and no setting
changes; work is done, indexes are asked for and calls of the analyzer are held back and go on in any
order. The analyzer answers equal calls alike. Main result: when every task has ended, the cache has
for every file the index that the answer to the one call for the file stands for, whatever the order
was in which the runs ended.
-/
namespace PredicateIndex.Pipeline

/-- The index that a run installs for a reply, if it does. -/
def installed? (file : String) (reply : Reply) : Option FileIndex :=
  match reply.result with
  | .ok outcome => outcome.tree.map fun tree =>
    { tree.index (some file) with
      diagnostics := (tree.index (some file)).diagnostics ++ outcome.diagnostics }
  | .error _ => none

/-- The call that a run makes for a document. -/
def callFor (settings : AnalyzerSettings) (file : String) (document : Document) : AnalyzerCall :=
  { file, text := document.text, settings }

/-- The index that runs of a document of a file install. -/
def indexFor (analyzer : Analyzer) (settings : AnalyzerSettings) (file : String)
    (document : Option Document) : Option FileIndex :=
  document.bind fun document => installed? file (analyzer (callFor settings file document))

/-- Whether a run at a stage has not ended. -/
def Stage.isGoing : Stage → Bool
  | .finished => false
  | _ => true

/-- How a file stands whose document does not change: its run calls the analyzer with the document,
and the index for the document is installed exactly if no run is going. -/
structure View.Underway (analyzer : Analyzer) (settings : AnalyzerSettings) (file : String)
    (document : Option Document) (view : View) : Prop where
  /-- The document is the one. -/
  unchanged : view.document = document
  /-- No request waits. -/
  calm : view.waiting = false
  /-- The run in flight calls the analyzer with it. -/
  own : ∀ call, view.stage = some (.informed call) ∨ view.stage = some (.calling call) ∨
      view.stage = some (.answered call) →
    ∃ found, document = some found ∧ call = callFor settings file found
  /-- The index is installed unless a run is going. -/
  index : view.index =
    if view.stage.any Stage.isGoing then none else indexFor analyzer settings file document

/-- A reply that is taken in for an open document leaves its index installed, if there was none. -/
theorem View.conclude_of_open {view : View} {file : String} {reply : Reply}
    (opened : view.document.isSome) (absent : view.index = none) :
    (view.conclude file reply).document = view.document ∧
      (view.conclude file reply).waiting = view.waiting ∧
      (view.conclude file reply).index = installed? file reply := by
  rw [View.conclude, installed?]
  cases replied : reply.result with
  | error crash => simp [opened]
  | ok outcome =>
    simp only [opened, if_true, takeOutcome]
    cases parsed : outcome.tree with
    | some tree => exact ⟨rfl, rfl, rfl⟩
    | none => exact ⟨rfl, rfl, absent⟩

namespace View.Underway

variable {analyzer : Analyzer} {settings : AnalyzerSettings} {file : String}
  {document : Option Document} {view : View}

/-- There is no index while a run is going. -/
theorem absent (underway : Underway analyzer settings file document view)
    (going : view.stage.any Stage.isGoing = true) : view.index = none := by
  rw [underway.index, if_pos going]

/-- A run that starts is going. -/
theorem start (underway : Underway analyzer settings file document view)
    (absent : view.index = none) : Underway analyzer settings file document view.start where
  unchanged := underway.unchanged
  calm := underway.calm
  own := by rintro call (⟨⟨⟩⟩ | ⟨⟨⟩⟩ | ⟨⟨⟩⟩)
  index := absent

/-- A run that finds no document has nothing to install. -/
theorem skip (underway : Underway analyzer settings file none view) :
    Underway analyzer settings file none view.finish where
  unchanged := underway.unchanged
  calm := underway.calm
  own := by rintro call (⟨⟨⟩⟩ | ⟨⟨⟩⟩ | ⟨⟨⟩⟩)
  index := underway.index.trans (ite_self none)

/-- A run that calls the analyzer does so with the document. -/
theorem call {found : Document} (underway : Underway analyzer settings file (some found) view)
    (absent : view.index = none) : Underway analyzer settings file (some found)
      { view with stage := some (.calling (callFor settings file found)) } where
  unchanged := underway.unchanged
  calm := underway.calm
  own := by
    rintro call (informed | calling | answered)
    · cases informed
    · cases calling
      exact ⟨found, rfl, rfl⟩
    · cases answered
  index := absent

/-- An answer goes to the call that was made. -/
theorem respond (underway : Underway analyzer settings file document view) :
    Underway analyzer settings file document view.respond := by
  obtain ⟨doc, waiting, stage, runs, index, published, dropped⟩ := view
  cases stage with
  | none => exact underway
  | some stage =>
    cases stage with
    | calling call =>
      obtain ⟨found, same, calls⟩ := underway.own call (.inr (.inl rfl))
      refine ⟨underway.unchanged, underway.calm, ?_, underway.index⟩
      rintro other (informed | calling | answered)
      · cases informed
      · cases calling
      · cases answered
        exact ⟨found, same, calls⟩
    | _ => exact underway

/-- A run that ends with the answer to its call installs the index. -/
theorem conclude {found : Document} (underway : Underway analyzer settings file (some found) view)
    (absent : view.index = none) : Underway analyzer settings file (some found)
      (view.conclude file (analyzer (callFor settings file found))).finish := by
  have opened : view.document.isSome := by rw [underway.unchanged]; rfl
  obtain ⟨kept, waits, installs⟩ := conclude_of_open opened absent
  exact ⟨kept.trans underway.unchanged, waits.trans underway.calm, by rintro call (⟨⟨⟩⟩ | ⟨⟨⟩⟩ | ⟨⟨⟩⟩),
    installs⟩

/-- A run that makes its call may end with the answer at once. -/
theorem callEffect {found : Document} {state : State}
    (underway : Underway analyzer settings file (some found) view) (absent : view.index = none) :
    Underway analyzer settings file (some found)
      (view.apply file (State.callEffect analyzer state (callFor settings file found))) := by
  rw [State.callEffect]
  split
  · exact underway.call absent
  · exact underway.conclude absent

/-- A run that has ended and is settled leaves the index. -/
theorem settle (underway : Underway analyzer settings file document view)
    (ended : view.stage = some .finished) :
    Underway analyzer settings file document { view with stage := none } where
  unchanged := underway.unchanged
  calm := underway.calm
  own := by rintro call (⟨⟨⟩⟩ | ⟨⟨⟩⟩ | ⟨⟨⟩⟩)
  index := by
    rw [underway.index, ended]
    rfl

end View.Underway

/-- Whether an action is one of those of a batch, once its files are open. -/
def Action.InBatch (analyzer : Analyzer) : Action → Prop
  | .tick doing => doing = analyzer
  | .ask (.lookup _) | .ask .shutdown | .hold _ | .release _ | .respond _ _ => True
  | _ => False

/-- What an action asks for. -/
def Action.asked? : Action → Option Job
  | .ask job => some job
  | _ => none

/-- The actions of a batch start no run by hand and cancel nothing. -/
theorem Action.InBatch.scheduled {analyzer : Analyzer} {action : Action}
    (inBatch : action.InBatch analyzer) : action.Scheduled := by
  cases action with
  | ask job =>
    cases job with
    | run file generation => exact inBatch
    | _ => trivial
  | cancel task => exact inBatch
  | _ => trivial

namespace State

variable {analyzer : Analyzer} {settings : AnalyzerSettings} {file : String}
  {document : Option Document} {state : State}

/-- The stage of a run that has not ended is that of its task. -/
theorem stage?_of_unfinished (flight : Flight (state.desk [])) {task : TaskId} {t : Task}
    (known : state.task? task = some t) (isRun : t.IsRunOf file) (unfinished : t.result? = none) :
    state.stage? file = some t.phase.stage := by
  have inFlight : state.pending.get? file = some task := flight.pending known isRun unfinished
  simp [stage?, inFlight, known]

/-- The step of a task keeps how a file stands. -/
theorem underway_step (orderly : Orderly (state.desk [])) (fixed : state.provider = .fixed settings)
    {task : TaskId} {t : Task} (known : state.task? task = some t)
    (underway : (state.view file).Underway analyzer settings file document) :
    ((state.view file).apply file (stepEffect analyzer state t file)).Underway analyzer settings file
      document := by
  have documents : state.documents.get? file = document := underway.unchanged
  rw [stepEffect]
  split
  -- A run begins: it finds no document, or calls the analyzer and may take the answer in at once.
  · rename_i analyzed generation job fresh
    split
    · rename_i same
      subst same
      have stage := stage?_of_unfinished orderly.flight known ⟨generation, job⟩
        (by rw [Task.result?_eq, fresh]; rfl)
      have absent : (state.view analyzed).index = none :=
        underway.absent (by rw [view, stage, fresh]; rfl)
      split
      · rename_i none
        obtain rfl := none.symm.trans documents
        exact underway.skip
      · rename_i found some
        obtain rfl := some.symm.trans documents
        rw [fixed]
        exact underway.callEffect absent
    · exact underway
  -- A run that has been given its settings makes its call.
  · rename_i analyzed generation asked text away answer job informed
    split
    · rename_i same
      subst same
      have stage := stage?_of_unfinished orderly.flight known ⟨generation, job⟩
        (by rw [Task.result?_eq, informed]; rfl)
      have course := orderly.course task t analyzed known ⟨generation, job⟩
      rw [informed] at stage course
      obtain rfl : asked = analyzed := course
      obtain ⟨found, rfl, calls⟩ := underway.own _ (.inl stage)
      rw [calls]
      exact underway.callEffect (underway.absent (by rw [view, stage]; rfl))
    · exact underway
  -- A run takes in the answer to the call that it made before.
  · rename_i analyzed generation call job answered
    split
    · rename_i same
      subst same
      have stage := stage?_of_unfinished orderly.flight known ⟨generation, job⟩
        (by rw [Task.result?_eq, answered]; rfl)
      rw [answered] at stage
      obtain ⟨found, rfl, rfl⟩ := underway.own call (.inr (.inr stage))
      exact underway.conclude (underway.absent (by rw [view, stage]; rfl))
    · exact underway
  -- A lookup starts a run, and a shutdown drops the requests that wait.
  · split
    · rename_i idle
      exact underway.start idle.2.1
    · exact underway
  · exact ⟨underway.unchanged, rfl, underway.own, underway.index⟩
  · exact underway

/-- The next piece of work keeps how a file stands. -/
theorem underway_work (orderly : Orderly (state.desk [])) (fixed : state.provider = .fixed settings)
    {work : Work} (queued : work ∈ state.queue)
    (underway : (state.view file).Underway analyzer settings file document) :
    ((state.view file).apply file (workEffect analyzer state work file)).Underway analyzer settings
      file document := by
  cases work with
  | step task =>
    simp only [workEffect]
    cases known : state.task? task with
    | none => exact underway
    | some t => exact underway_step orderly fixed known underway
  | settle settled run =>
    simp only [workEffect]
    split
    · rename_i own
      obtain ⟨rfl, inFlight⟩ := own
      obtain ⟨t, known, ended⟩ := orderly.flight.ended queued
      have listed : state.task? run = some t := known
      obtain ⟨result, finished⟩ := Option.isSome_iff_exists.mp ended
      have phase := Task.phase_of_result? finished
      refine underway.settle ?_
      simp [view, stage?, inFlight, listed, phase, Phase.stage]
    · exact underway
  | relay run waiter => exact underway
  | drained waiter => exact underway
  | alarm requested serial turns =>
    cases turns with
    | succ turns => exact underway
    | zero =>
      simp only [workEffect]
      split
      · rename_i due
        have calm : state.debouncer.isWaiting file = false := underway.calm
        rw [Debouncer.isWaiting, Ledger.has, Option.isSome_eq_false_iff, Option.isNone_iff_eq_none]
          at calm
        rw [calm] at due
        cases due.2
      · exact underway

/-- An action of a batch keeps how a file stands. -/
theorem underway_act (orderly : Orderly (state.desk [])) (fixed : state.provider = .fixed settings)
    {action : Action} (inBatch : action.InBatch analyzer)
    (underway : (state.view file).Underway analyzer settings file document) :
    ((state.act action).view file).Underway analyzer settings file document := by
  rw [view_act orderly inBatch.scheduled]
  cases action with
  | tick doing =>
    obtain rfl : doing = analyzer := inBatch
    simp only [effect]
    split
    · exact underway
    · rename_i work rest queue
      exact underway_work orderly fixed (by rw [queue]; exact List.mem_cons_self) underway
  | release released =>
    simp only [effect]
    split
    · exact underway.respond
    · exact underway
  | respond released task =>
    simp only [effect]
    split
    · exact underway.respond
    · exact underway
  | ask job => exact underway
  | hold held => exact underway
  | event | trigger | cancel | clock | alarm | provide | inform => exact inBatch.elim

/-- What is known of a pipeline while a batch goes on. -/
structure Batched (analyzer : Analyzer) (settings : AnalyzerSettings) (documents : Ledger Document)
    (state : State) : Prop where
  /-- The tasks, the queue and the runs in flight belong together. -/
  orderly : Orderly (state.desk [])
  /-- The settings are the ones. -/
  fixed : state.provider = .fixed settings
  /-- Every file stands as one whose document does not change. -/
  underway : ∀ file, (state.view file).Underway analyzer settings file (documents.get? file)

/-- The actions of a batch keep what is known. -/
theorem Batched.play {documents : Ledger Document}
    (batched : Batched analyzer settings documents state)
    {actions : List Action} (inBatch : ∀ action ∈ actions, action.InBatch analyzer) :
    Batched analyzer settings documents (state.play actions) := by
  induction actions generalizing state with
  | nil => exact batched
  | cons action rest ih =>
    obtain ⟨here, others⟩ := List.forall_mem_cons.mp inBatch
    refine ih ⟨batched.orderly.turns (turns_act state here.scheduled), ?_, fun file => ?_⟩ others
    · have given : ∀ settings, action ≠ .event (.configured (some settings)) :=
        fun settings same => by rw [same] at here; exact here
      have provided : ∀ provider, action ≠ .provide provider :=
        fun provider same => by rw [same] at here; exact here
      rw [provider_act state given provided, batched.fixed]
    · exact underway_act batched.orderly batched.fixed here (batched.underway file)

/-- When every task has ended, the cache has the indexes for the documents. -/
theorem Batched.get?_cache {documents : Ledger Document}
    (batched : Batched analyzer settings documents state)
    (complete : ∀ t ∈ state.tasks, t.result?.isSome) (file : String) :
    state.cache.get? file = indexFor analyzer settings file (documents.get? file) := by
  refine (batched.underway file).index.trans (if_neg fun going => ?_)
  have stage : (state.stage? file).any Stage.isGoing = true := going
  rw [stage?] at stage
  cases inFlight : state.pending.get? file with
  | none => simp [inFlight] at stage
  | some run =>
    cases known : state.task? run with
    | none => simp [inFlight, known] at stage
    | some t =>
      obtain ⟨result, ended⟩ := Option.isSome_iff_exists.mp (complete t (List.mem_of_getElem? known))
      simp [inFlight, known, Task.phase_of_result? ended, Phase.stage, Stage.isGoing] at stage

end State

end PredicateIndex.Pipeline

namespace PredicateIndex.Cli.Batch

open Pipeline (View State)

/-- How a file stands while files are opened: its run is queued exactly if it was opened. -/
structure Opening (view : View) : Prop where
  /-- No request waits. -/
  calm : view.waiting = false
  /-- There is no index. -/
  index : view.index = none
  /-- The run is queued if there is a document. -/
  queued : view.document = none ∧ view.stage = none ∨ view.stage = some .queued

/-- A file that is opened stands as one, and the others stand as before. -/
theorem Opening.act {state : State} (orderly : Pipeline.Orderly (state.desk [])) {file : String}
    (opening : Opening (state.view file)) (source : SourceFile) :
    Opening ((state.act (.event (.opened source.id source.text 0))).view file) := by
  have scheduled : (Pipeline.Action.event (.opened source.id source.text 0)).Scheduled := trivial
  rw [State.view_act orderly scheduled, State.effect, State.eventEffect]
  split
  · rw [View.apply, View.trigger]
    rcases opening.queued with ⟨-, idle⟩ | queued
    · rw [if_neg (by simp [View.setDocument, idle]), if_pos (by simp [View.setDocument])]
      exact ⟨opening.calm, opening.index, .inr rfl⟩
    · rw [if_pos (by simp [View.setDocument, queued])]
      exact ⟨opening.calm, opening.index, .inr queued⟩
  · exact opening

/-- Files that are opened stand as such. -/
theorem opening_play (settings : AnalyzerSettings) (files : List SourceFile) :
    Pipeline.Orderly ((opened settings files).desk []) ∧
      (opened settings files).provider = .fixed settings ∧
      ∀ file, Opening ((opened settings files).view file) := by
  refine List.foldlRecOn (motive := fun state : State => Pipeline.Orderly (state.desk []) ∧
    state.provider = .fixed settings ∧ ∀ file, Opening (state.view file)) files _ ?_ ?_
  · exact ⟨State.orderly_initial _ _, rfl, fun file => ⟨rfl, rfl, .inl ⟨rfl, rfl⟩⟩⟩
  · rintro state ⟨orderly, fixed, opening⟩ source -
    have scheduled : (Pipeline.Action.event (.opened source.id source.text 0)).Scheduled := trivial
    have other : ∀ given, Pipeline.Event.opened source.id source.text 0 ≠ .configured (some given) :=
      nofun
    exact ⟨orderly.turns (State.turns_act state scheduled),
      (State.provider_handle state other).trans fixed,
      fun file => (opening file).act orderly source⟩

/-- A batch begins with the documents of its files. -/
theorem batched_opened (analyzer : Analyzer) (settings : AnalyzerSettings)
    (files : List SourceFile) :
    (opened settings files).Batched analyzer settings (opened settings files).documents := by
  obtain ⟨orderly, fixed, opening⟩ := opening_play settings files
  refine ⟨orderly, fixed, fun file => ?_⟩
  obtain ⟨calm, index, queued⟩ := opening file
  refine ⟨rfl, calm, ?_, index.trans ?_⟩
  · rcases queued with ⟨-, idle⟩ | queued
    · rw [idle]
      rintro call (⟨⟨⟩⟩ | ⟨⟨⟩⟩ | ⟨⟨⟩⟩)
    · rw [queued]
      rintro call (⟨⟨⟩⟩ | ⟨⟨⟩⟩ | ⟨⟨⟩⟩)
  · rcases queued with ⟨closed, -⟩ | queued
    · have none : (opened settings files).documents.get? file = none := closed
      rw [none]
      exact (ite_self _).symm
    · rw [queued]
      rfl

/-- Actions of a batch that ask for jobs, in order. -/
structure Asks (analyzer : Analyzer) (jobs : List Pipeline.Job) (actions : List Pipeline.Action) :
    Prop where
  /-- The actions are those of a batch. -/
  inBatch : ∀ action ∈ actions, action.InBatch analyzer
  /-- What is asked for. -/
  asked : actions.filterMap Pipeline.Action.asked? = jobs

/-- Actions that ask for some jobs and then for others ask for both. -/
theorem Asks.append {analyzer : Analyzer} {before after : List Pipeline.Job}
    {first second : List Pipeline.Action} (asks : Asks analyzer before first)
    (more : Asks analyzer after second) : Asks analyzer (before ++ after) (first ++ second) where
  inBatch := List.forall_mem_append.mpr ⟨asks.inBatch, more.inBatch⟩
  asked := by rw [List.filterMap_append, asks.asked, more.asked]

/-- Doing work asks for nothing. -/
theorem asks_ticks (analyzer : Analyzer) (n : Nat) :
    Asks analyzer [] (List.replicate n (.tick analyzer)) where
  inBatch action inside := by
    rw [List.eq_of_mem_replicate inside]
    rfl
  asked := by
    rw [List.filterMap_replicate]
    rfl

/-- Asking for a task and doing all the work is an interleaving of a batch. -/
theorem settle_eq_play {analyzer : Analyzer} (state : State) {job : Pipeline.Job}
    (inBatch : (Pipeline.Action.ask job).InBatch analyzer) :
    ∃ actions : List Pipeline.Action, Asks analyzer [job] actions ∧
      (state.ask job).2.settle analyzer = state.play actions := by
  obtain ⟨k, worked⟩ := State.ticks_eq_play analyzer (state.ask job).2.workload (state.ask job).2
  have asking : Asks analyzer [job] [.ask job] :=
    ⟨List.forall_mem_singleton.mpr inBatch, rfl⟩
  exact ⟨_, asking.append (asks_ticks analyzer k), worked⟩

/-- Analyzing files is an interleaving of a batch: each file is asked for, then the end. -/
theorem run_eq_play (analyzer : Analyzer) (settings : AnalyzerSettings) (files : List SourceFile) :
    ∃ actions : List Pipeline.Action,
      Asks analyzer (files.map (fun file => .lookup file.id) ++ [.shutdown]) actions ∧
      (run analyzer settings files).state = (opened settings files).play actions := by
  have awaited : ∀ (rest : List SourceFile) (batch : Batch), ∃ actions : List Pipeline.Action,
      Asks analyzer (rest.map fun file => .lookup file.id) actions ∧
        (rest.foldl (await analyzer) batch).state = batch.state.play actions := by
    intro rest
    induction rest with
    | nil => exact fun batch => ⟨[], ⟨nofun, rfl⟩, rfl⟩
    | cons file rest ih =>
      intro batch
      obtain ⟨here, asks, settled⟩ := settle_eq_play batch.state
        (show (Pipeline.Action.ask (.lookup file.id)).InBatch analyzer from trivial)
      obtain ⟨later, more, same⟩ := ih (await analyzer batch file)
      refine ⟨here ++ later, asks.append more, ?_⟩
      rw [List.foldl_cons, same, State.play_append, ← settled]
      rfl
  obtain ⟨before, asks, same⟩ := awaited files { state := opened settings files }
  obtain ⟨last, more, settled⟩ := settle_eq_play
    (files.foldl (await analyzer) { state := opened settings files }).state
    (show (Pipeline.Action.ask .shutdown).InBatch analyzer from trivial)
  refine ⟨before ++ last, asks.append more, ?_⟩
  rw [State.play_append, ← same]
  exact settled

end PredicateIndex.Cli.Batch
