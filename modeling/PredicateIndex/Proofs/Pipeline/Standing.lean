import PredicateIndex.Proofs.Pipeline.Moves

/-!
# How a task stands

A task takes its own steps when its turn in the queue comes. From outside only this happens to it:
the provider or the analyzer answers it, a run that it joined or waits for ends, or it is cancelled. Everything else
that is done leaves its phase, whatever the other tasks are. So phases that are kept by the first
two are kept by every action but its own step and its own cancellation.
-/
namespace PredicateIndex.Pipeline

/-- Phases that are kept when the provider or the analyzer answers and when runs end. -/
structure Phase.Steady (kept : Phase → Prop) : Prop where
  /-- The provider answers. -/
  informed {file text : String} {away : Nat} {answer : SettingsAnswer} :
    kept (.asking file text away) → kept (.informed file text away answer)
  /-- The analyzer answers. -/
  answered {call : AnalyzerCall} : kept (.calling call) → kept (.answered call)
  /-- A run that was joined ends. -/
  told {run : TaskId} {result : Result} : kept (.joined run) → kept (.ending result)
  /-- One of the runs that are waited for ends. -/
  fewer {runs : List TaskId} {left fewer : Nat} {cancelled flag : Bool} :
    kept (.draining runs left cancelled) → kept (.draining runs fewer flag)
  /-- The last of the runs that are waited for ends. -/
  drained {runs : List TaskId} {left : Nat} {cancelled : Bool} {result : Result} :
    kept (.draining runs left cancelled) → kept (.ending result)

namespace State

/-- A task has a job and is in one of the phases. -/
def Stands (state : State) (task : TaskId) (job : Job) (kept : Phase → Prop) : Prop :=
  ∃ t, state.task? task = some t ∧ t.job = job ∧ kept t.phase

/-- A task that is moved to a phase stands there. -/
theorem stands_setPhase {state : State} {task : TaskId} {t : Task} {kept : Phase → Prop}
    {phase : Phase} (known : state.task? task = some t) (goes : kept phase) :
    (state.setPhase task phase).Stands task t.job kept := by
  have listed : state.tasks[task]? = some t := known
  exact ⟨{ t with phase }, by simp [task?, setPhase, listed], rfl, goes⟩

namespace Stands

variable {state : State} {task : TaskId} {job : Job} {kept : Phase → Prop}
variable (stands : state.Stands task job kept)
include stands

/-- Changing a task leaves how another stands, and may change its own phase within the phases. -/
theorem modify {other : TaskId} {change : Task → Task}
    (goes : other = task → ∀ t, t.job = job → kept t.phase →
      (change t).job = job ∧ kept (change t).phase) :
    ({ state with tasks := state.tasks.modify other change } : State).Stands task job kept := by
  obtain ⟨t, known, ofJob, at_⟩ := stands
  have listed : state.tasks[task]? = some t := known
  simp only [Stands, task?, List.getElem?_modify, listed]
  by_cases same : other = task
  · obtain ⟨job', at'⟩ := goes same t ofJob at_
    exact ⟨change t, by simp [same], job', at'⟩
  · exact ⟨t, by simp [same], ofJob, at_⟩

/-- Moving a task to a phase leaves how another stands. -/
theorem setPhase {other : TaskId} {phase : Phase} (goes : other = task → kept phase) :
    (state.setPhase other phase).Stands task job kept :=
  stands.modify fun same _ ofJob _ => ⟨ofJob, goes same⟩

/-- Ending a task leaves how another stands. -/
theorem finish {other : TaskId} {result : Result} (goes : other = task → kept (.ended result)) :
    (state.finish other result).Stands task job kept :=
  stands.setPhase goes

/-- Creating a task leaves how another stands. -/
theorem spawn (created : Job) (listeners : TaskId → List Work) :
    (state.spawn created listeners).2.Stands task job kept := by
  obtain ⟨t, known, rest⟩ := stands
  have listed : state.tasks[task]? = some t := known
  refine ⟨t, ?_, rest⟩
  exact (List.getElem?_append_left (List.getElem?_eq_some_iff.mp listed).1).trans listed

/-- Starting a run leaves how a task stands. -/
theorem start (file : String) : (state.start file).2.Stands task job kept :=
  stands.spawn (.run file (some state.nextGeneration)) fun run => [.settle file run]

/-- A trigger leaves how a task stands. -/
theorem trigger (file : String) : (state.trigger file).2.Stands task job kept := by
  rw [State.trigger]
  split
  · exact stands
  · split
    · exact stands.start file
    · exact stands

/-- A request that fires leaves how a task stands. -/
theorem fire (file : String) : (state.fire file).Stands task job kept := by
  have dropped : (state.cancelRequest file).Stands task job kept := stands
  exact dropped.trigger file

omit stands in
/-- Steps that each leave how a task stands leave it one after another. -/
theorem foldl {α : Type} {step : State → α → State}
    (keeps : ∀ {s : State} (a : α), s.Stands task job kept → (step s a).Stands task job kept)
    (items : List α) (stands : state.Stands task job kept) :
    (items.foldl step state).Stands task job kept := by
  induction items generalizing state with
  | nil => exact stands
  | cons item rest ih => exact ih (keeps item stands)

/-- Listening to a task leaves how it stands. -/
theorem listen (heard : TaskId) (work : Work) : (state.listen heard work).Stands task job kept := by
  rw [State.listen]
  split
  · exact stands
  · exact stands.modify fun _ _ ofJob at_ => ⟨ofJob, at_⟩

/-- A task that joins a run leaves how the others stand. -/
theorem join {other : TaskId} (apart : other ≠ task) (run : TaskId) :
    (state.join other run).Stands task job kept := by
  rw [State.join]
  split
  · exact stands.finish fun same => (apart same).elim
  · exact (stands.listen run (.relay run other)).setPhase fun same => (apart same).elim

/-- A task whose call is answered leaves how the others stand, and ends itself. -/
theorem answer (analyzer : Analyzer) {other : TaskId} (of : Job) (call : AnalyzerCall)
    (goes : ∀ result, other = task → kept (.ended result)) :
    (state.answer analyzer other of call).Stands task job kept := by
  cases of with
  | run file generation =>
    obtain ⟨cache, published, journal, frame⟩ :=
      conclude_frame state file generation (analyzer call)
    have concluded : ({ state with cache, published, journal } : State).Stands task job kept :=
      stands
    simp only [State.answer]
    rw [frame]
    exact concluded.finish (goes _)
  | _ =>
    simp only [State.answer]
    split <;> exact stands.finish (goes _)

/-- A task that calls the analyzer leaves how the others stand. -/
theorem call (analyzer : Analyzer) {other : TaskId} (apart : other ≠ task) (of : Job)
    (file text : String) (answer : SettingsAnswer) :
    (state.call analyzer other of file text answer).Stands task job kept := by
  have called : ∀ entry, ((state.heed of file answer).log entry).Stands task job kept :=
    fun _ => stands
  rw [State.call]
  split
  · exact stands.setPhase fun same => (apart same).elim
  · exact (called _).answer analyzer of _ fun _ same => (apart same).elim

/-- A task that asks for its settings leaves how the others stand. -/
theorem consult (analyzer : Analyzer) {other : TaskId} (apart : other ≠ task) (of : Job)
    (file text : String) : (state.consult analyzer other of file text).Stands task job kept := by
  rw [State.consult]
  split
  · exact stands.call analyzer apart of file text _
  · exact stands.setPhase fun same => (apart same).elim

/-- The first step of a lookup leaves how the others stand. -/
theorem beginLookup {other : TaskId} (apart : other ≠ task) (file : String) :
    (state.beginLookup other file).Stands task job kept := by
  have ended : ∀ result, (state.finish other result).Stands task job kept :=
    fun result => stands.finish fun same => (apart same).elim
  rw [State.beginLookup]
  split
  · exact ended _
  · split
    · exact stands.join apart _
    · split
      · exact (stands.start file).join apart _
      · exact ended _

/-- The end of a shutdown leaves how the others stand. -/
theorem stop {other : TaskId} (apart : other ≠ task) (runs : Nat) :
    (state.stop other runs).Stands task job kept := by
  have reported : (state.report (.stopped runs)).Stands task job kept := stands
  exact reported.finish fun same => (apart same).elim

/-- The first step of a shutdown leaves how the others stand. -/
theorem beginShutdown {other : TaskId} (apart : other ≠ task) :
    (state.beginShutdown other).Stands task job kept := by
  have quiet : ({ state with debouncer := state.debouncer.cancelAll } : State).Stands task job
    kept := stands
  rw [State.beginShutdown]
  split
  · exact quiet.stop apart 0
  · exact (foldl (fun run heard => heard.listen run (.drained other)) _ quiet).setPhase
      fun same => (apart same).elim

/-- The first step of a task leaves how the others stand. -/
theorem begin (analyzer : Analyzer) {other : TaskId} (apart : other ≠ task) (of : Job) :
    (state.begin analyzer other of).Stands task job kept := by
  have ended : ∀ result, (state.finish other result).Stands task job kept :=
    fun result => stands.finish fun same => (apart same).elim
  cases of with
  | run file generation =>
    rw [State.begin]
    split
    · exact ended _
    · have reported : (state.reportInRun (.runStarted file generation)).Stands task job kept :=
        stands
      exact reported.consult analyzer apart _ file _
  | lookup file => exact stands.beginLookup apart file
  | tree file =>
    rw [State.begin]
    split
    · exact ended _
    · exact stands.consult analyzer apart _ file _
  | shutdown => exact stands.beginShutdown apart

/-- The step of a task leaves how the others stand. -/
theorem stepTask (analyzer : Analyzer) {other : TaskId} (apart : other ≠ task) (t : Task) :
    (stepTask analyzer state other t).Stands task job kept := by
  rw [State.stepTask]
  split
  · exact stands.begin analyzer apart t.job
  · exact stands.call analyzer apart t.job _ _ _
  · exact stands.answer analyzer t.job _ fun _ same => (apart same).elim
  · exact stands.stop apart _
  · exact stands.finish fun same => (apart same).elim
  · exact stands

/-- The end of a run that was joined keeps steady phases. -/
theorem relay (steady : Phase.Steady kept) (run waiter : TaskId) :
    (state.relay run waiter).Stands task job kept := by
  rw [State.relay]
  split
  · rename_i joined result waiting _
    refine setPhase stands fun same => ?_
    obtain ⟨t, known, -, at_⟩ := stands
    rw [same, known, Option.map_some, Option.some.injEq] at waiting
    exact steady.told (waiting ▸ at_)
  · exact stands

/-- The end of a run that is waited for keeps steady phases. -/
theorem drain (steady : Phase.Steady kept) (waiter : TaskId) :
    (state.drain waiter).Stands task job kept := by
  rw [State.drain]
  split
  · rename_i runs left cancelled waiting
    have waits : waiter = task → kept (.draining runs left cancelled) := by
      intro same
      obtain ⟨t, known, -, at_⟩ := stands
      rw [same, known, Option.map_some, Option.some.injEq] at waiting
      exact waiting ▸ at_
    split
    · exact setPhase stands fun same => steady.drained (waits same)
    · exact setPhase stands fun same => steady.fewer (waits same)
  · exact stands

/-- A piece of work that is not the step of a task keeps its steady phases. -/
theorem execute (steady : Phase.Steady kept) (analyzer : Analyzer) {work : Work}
    (other : work ≠ .step task) : (execute analyzer state work).Stands task job kept := by
  cases work with
  | step id =>
    have apart : id ≠ task := fun same => other (same ▸ rfl)
    simp only [State.execute]
    split
    · exact stands.stepTask analyzer apart _
    · exact stands
  | settle file run =>
    simp only [State.execute]
    split <;> exact stands
  | relay run waiter => exact stands.relay steady run waiter
  | drained waiter => exact stands.drain steady waiter
  | alarm file serial turns =>
    cases turns with
    | zero =>
      simp only [State.execute]
      split
      · exact stands.fire file
      · exact stands
    | succ turns => exact stands

/-- Doing work that is not the step of a task keeps its steady phases. -/
theorem tick (steady : Phase.Steady kept) (analyzer : Analyzer)
    (other : state.queue.head? ≠ some (.step task)) :
    (tick analyzer state).Stands task job kept := by
  rw [State.tick]
  split
  · exact stands
  · rename_i work rest queue
    have taken : ({ state with queue := rest } : State).Stands task job kept := stands
    refine taken.execute steady analyzer ?_
    rintro rfl
    exact other (by rw [queue]; rfl)

/-- An answer of the analyzer keeps steady phases. -/
theorem letGo (steady : Phase.Steady kept) (file : String) (other : TaskId) :
    (letGo file state other).Stands task job kept := by
  rw [State.letGo]
  split
  · rename_i call waiting
    split
    · refine setPhase stands fun same => ?_
      obtain ⟨t, known, -, at_⟩ := stands
      rw [same, known, Option.map_some, Option.some.injEq] at waiting
      exact steady.answered (waiting ▸ at_)
    · exact stands
  · exact stands

/-- An answer of the provider keeps steady phases. -/
theorem inform (steady : Phase.Steady kept) (answer : SettingsAnswer) (other : TaskId) :
    (state.inform answer other).Stands task job kept := by
  rw [State.inform]
  split
  · rename_i file text away waiting
    refine setPhase stands fun same => ?_
    obtain ⟨t, known, -, at_⟩ := stands
    rw [same, known, Option.map_some, Option.some.injEq] at waiting
    exact steady.informed (waiting ▸ at_)
  · exact stands

/-- An event leaves how a task stands. -/
theorem handle (event : Event) : (state.handle event).Stands task job kept := by
  have fires : ∀ (files : List String) {s : State}, s.Stands task job kept →
      (files.foldl State.fire s).Stands task job kept :=
    fun files _ stands => foldl (fun file stood => stood.fire file) files stands
  cases event with
  | opened file text version =>
    have opened : (((state.report (.documentOpened file)).putAway file).setDocument file
      { text, version }).Stands task job kept := stands
    exact opened.trigger file
  | changed file text version =>
    rw [State.handle, State.holdBack]
    split <;> exact stands
  | saved file text =>
    cases text with
    | none => exact stands.fire file
    | some text =>
      have saved : ∀ document, (state.setDocument file document).Stands task job kept :=
        fun _ => stands
      exact (saved _).fire file
  | closed file => exact stands
  | configured settings =>
    cases settings with
    | none => exact fires _ stands
    | some given =>
      have configured : ({ state with provider := .fixed given } : State).Stands task job kept :=
        stands
      exact fires _ configured
  | reanalyzed => exact fires _ stands

/-- Every action but its own step and a cancellation keeps the steady phases of a task. -/
theorem act (steady : Phase.Steady kept) {action : Action}
    (other : ∀ analyzer, action = .tick analyzer → state.queue.head? ≠ some (.step task))
    (spared : ∀ cancelled, action ≠ .cancel cancelled) :
    (state.act action).Stands task job kept := by
  cases action with
  | event event => exact stands.handle event
  | trigger file => exact stands.trigger file
  | ask asked => exact stands.spawn asked fun _ => []
  | cancel cancelled => exact (spared cancelled rfl).elim
  | tick analyzer => exact stands.tick steady analyzer (other analyzer rfl)
  | clock time => exact stands
  | alarm file =>
    simp only [State.act]
    split
    · exact stands.fire file
    · exact stands
  | hold file => exact stands
  | release file =>
    have freed : ({ state with held := state.held.filter (· != file) } : State).Stands task job
      kept := stands
    exact foldl (fun id stood => stood.letGo steady file id) _ freed
  | respond file id => exact stands.letGo steady file id
  | provide provider => exact stands
  | inform id answer => exact stands.inform steady answer id

/-- Cancelling another task by itself leaves how a task stands. -/
theorem cancelStep {other : TaskId} (goes : other = task → kept (.ending .cancelled)) :
    (state.cancelStep other).Stands task job kept := by
  rw [State.cancelStep]
  split
  · exact stands.setPhase goes
  · exact stands.setPhase goes
  · exact stands.setPhase goes
  · exact stands.setPhase goes
  · exact stands.setPhase goes
  · exact stands.setPhase goes
  · exact stands.setPhase goes
  · exact stands

/-- A cancellation keeps steady phases that include the end of a cancelled task. -/
theorem cancel (steady : Phase.Steady kept) (goes : kept (.ending .cancelled)) (other : TaskId) :
    (state.cancel other).2.Stands task job kept := by
  rw [State.cancel]
  split
  · exact stands
  · exact stands
  · rename_i runs left cancelled waiting
    refine foldl (fun id stood => stood.cancelStep fun _ => goes) runs
      (setPhase stands fun same => ?_)
    obtain ⟨t, known, -, at_⟩ := stands
    rw [same, known, Option.map_some, Option.some.injEq] at waiting
    exact steady.fewer (waiting ▸ at_)
  · exact stands.cancelStep fun _ => goes

/-- The own step of a task that has begun leads to a call of the analyzer, ends it, or does
nothing. -/
theorem ownStep (analyzer : Analyzer) (begun : ¬kept .fresh)
    (calls : ∀ {file text : String} {away : Nat} {answer : SettingsAnswer},
      kept (.informed file text away answer) →
      kept (.calling ⟨file, state.textFor job file text away, answer.settings⟩))
    (ends : ∀ result, kept (.ended result)) {t : Task} (known : state.task? task = some t) :
    (State.stepTask analyzer state task t).Stands task job kept := by
  rw [State.stepTask]
  split
  · rename_i fresh
    obtain ⟨u, found, -, at_⟩ := stands
    obtain rfl : t = u := Option.some.inj (known.symm.trans found)
    exact (begun (fresh ▸ at_)).elim
  · rename_i file text away answer informed
    obtain ⟨u, found, ofJob, at_⟩ := id stands
    obtain rfl : t = u := Option.some.inj (known.symm.trans found)
    have called : ∀ entry, ((state.heed t.job file answer).log entry).Stands task job kept :=
      fun _ => stands
    rw [State.call]
    split
    · rw [ofJob]
      exact stands.setPhase fun _ => calls (informed ▸ at_)
    · exact (called _).answer analyzer t.job _ fun result _ => ends result
  · exact stands.answer analyzer t.job _ fun result _ => ends result
  · rename_i runs _
    have reported : (state.report (.stopped runs)).Stands task job kept := stands
    exact reported.finish fun _ => ends _
  · exact stands.finish fun _ => ends _
  · exact stands

/-- Every action keeps the steady phases of a task that has begun, if its call and all its ends are
among them. -/
theorem act_of_begun (steady : Phase.Steady kept) (begun : ¬kept .fresh)
    (calls : ∀ (s : State) {file text : String} {away : Nat} {answer : SettingsAnswer},
      kept (.informed file text away answer) →
      kept (.calling ⟨file, s.textFor job file text away, answer.settings⟩))
    (ends : ∀ result, kept (.ended result)) (goes : kept (.ending .cancelled)) (action : Action) :
    (state.act action).Stands task job kept := by
  by_cases own : state.queue.head? = some (.step task) ∧ ∃ analyzer, action = .tick analyzer
  · obtain ⟨next, analyzer, rfl⟩ := own
    obtain ⟨rest, queue⟩ := List.head?_eq_some_iff.mp next
    have taken : ({ state with queue := rest } : State).Stands task job kept := stands
    obtain ⟨t, known, -⟩ := id taken
    simp only [State.act, State.tick, queue, State.execute, known]
    exact taken.ownStep analyzer begun (calls _) ends known
  · by_cases cancelled : ∃ other, action = .cancel other
    · obtain ⟨other, rfl⟩ := cancelled
      exact stands.cancel steady goes other
    · exact stands.act steady (fun analyzer same next => own ⟨next, analyzer, same⟩)
        fun other same => cancelled ⟨other, same⟩

end Stands

end State

end PredicateIndex.Pipeline
