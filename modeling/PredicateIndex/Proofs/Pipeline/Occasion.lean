import PredicateIndex.Proofs.Pipeline.Effect
import PredicateIndex.Proofs.Pipeline.SingleFlight

/-!
# When something happens to a file

An effect on a file comes about on an occasion: an action that names the file, a step of its run in
flight, or a step of another task. The occasion says what was so before, such as the text that a run
reads in its first step and the call that it makes then or when it has been given its settings. A
run calls the analyzer once, with the text that it has read.
-/
namespace PredicateIndex.Pipeline

namespace State

variable {state : State} {file text : String} {run : TaskId} {call : AnalyzerCall}

/-- The next piece of work is the first step of a run, which reads the open document. -/
structure Reads (state : State) (file : String) (run : TaskId) (text : String) : Prop where
  /-- The run takes its step next. -/
  next : state.queue.head? = some (.step run)
  /-- It is a run of the file that has not begun. -/
  fresh : ∃ t, state.task? run = some t ∧ t.phase = .fresh ∧ t.IsRunOf file
  /-- It reads the text of the document. -/
  reads : ∃ document, state.documents.get? file = some document ∧ text = document.text

/-- The next piece of work is the step of a run in which it calls the analyzer. -/
structure Calls (state : State) (file : String) (run : TaskId) (call : AnalyzerCall) : Prop where
  /-- The run takes its step next. -/
  next : state.queue.head? = some (.step run)
  /-- It is a run of the file that is to make the call. -/
  makes : ∃ t, state.task? run = some t ∧ t.IsRunOf file ∧ state.runCall? file t.phase = some call

/-- A run that is to call the analyzer calls it once. -/
theorem Calls.calls_tick (makes : state.Calls file run call) (analyzer : Analyzer) :
    (tick analyzer state).calls = state.calls ++ [call] := by
  obtain ⟨next, t, known, isRun, made⟩ := makes
  have made : state.made? (.tick analyzer) = some call := by
    rw [state.made?_of_step next known, state.call?_of_isRunOf isRun, made]
  rw [state.calls_tick, made, Option.toList_some]

/-- A run that reads a document is to call the analyzer in the same step if the provider answers at
once. -/
theorem Reads.makes (reads : state.Reads file run text) {answer : SettingsAnswer}
    (provided : state.provider file = some answer) :
    state.Calls file run { file, text, settings := answer.settings } := by
  obtain ⟨next, ⟨t, known, fresh, isRun⟩, document, opened, rfl⟩ := reads
  refine ⟨next, t, known, isRun, ?_⟩
  simp only [fresh, runCall?, opened, provided]

/-- A run that reads a document waits for its settings if the provider has no answer yet. -/
theorem Reads.asks (reads : state.Reads file run text) (unprovided : state.provider file = none)
    (analyzer : Analyzer) : ∃ t away, (tick analyzer state).task? run = some t ∧
      t.phase = .asking file text away := by
  obtain ⟨next, ⟨t, known, fresh, generation, job⟩, document, opened, rfl⟩ := reads
  obtain ⟨rest, queue⟩ := List.head?_eq_some_iff.mp next
  have found : ({ state with queue := rest } : State).task? run = some t := known
  have listed : state.tasks[run]? = some t := known
  have asked : ({ state with queue := rest }.reportInRun (.runStarted file generation)).provider
    file = none := unprovided
  have moved : ∀ (other : State) (phase : Phase), other.tasks = state.tasks →
      (other.setPhase run phase).task? run = some { t with phase } := by
    intro other phase same
    simp [task?, setPhase, same, listed]
  simp only [tick, queue, execute, found, stepTask, fresh, begin, job, opened, consult, asked]
  exact ⟨_, _, moved _ _ rfl, rfl⟩

/-- When an effect on a file comes about. -/
inductive Occasion (state : State) (file : String) : Action → Effect → Prop where
  /-- Most actions do nothing to a file. -/
  | nothing (action : Action) (keeps : ¬action.SetsText file) : Occasion state file action .nothing
  /-- It is opened. -/
  | opened (text : String) (version : Int) :
    Occasion state file (.event (.opened file text version)) (.opened text version)
  /-- It is changed. -/
  | changed (text : String) (version : Option Int) :
    Occasion state file (.event (.changed file text version)) (.changed text version)
  /-- It is saved. -/
  | saved (text : Option String) : Occasion state file (.event (.saved file text)) (.saved text)
  /-- It is closed. -/
  | closed : Occasion state file (.event (.closed file)) .closed
  /-- An analysis is triggered. -/
  | triggered (action : Action) (keeps : ¬action.SetsText file) :
    Occasion state file action .triggered
  /-- The settings change, or the waiting request is due. -/
  | fired (action : Action) (keeps : ¬action.SetsText file) : Occasion state file action .fired
  /-- A lookup finds neither an index nor a run. -/
  | started (analyzer : Analyzer) : Occasion state file (.tick analyzer) .started
  /-- The run in flight begins and finds the file closed. -/
  | skipped (analyzer : Analyzer) (closed : state.documents.get? file = none) :
    Occasion state file (.tick analyzer) .skipped
  /-- The run in flight begins and reads the document. -/
  | consulted (analyzer : Analyzer) (run : TaskId) (text : String)
    (reads : state.Reads file run text) : Occasion state file (.tick analyzer) (.consulted text)
  /-- The run in flight is given its settings. -/
  | informed (task : TaskId) (answer : SettingsAnswer) :
    Occasion state file (.inform task answer) (.informed answer)
  /-- The run in flight calls the analyzer. -/
  | called (analyzer : Analyzer) (run : TaskId) (call : AnalyzerCall) (reply : Option Reply)
    (makes : state.Calls file run call) (given : reply = none ∨ reply = some (analyzer call)) :
    Occasion state file (.tick analyzer) (.called call reply)
  /-- The analyzer is let go on. -/
  | answered (action : Action) (keeps : ¬action.SetsText file) :
    Occasion state file action .answered
  /-- The run in flight goes on with the answer to its call. -/
  | concluded (analyzer : Analyzer) (call : AnalyzerCall)
    (stage : (state.view file).stage = some (.answered call)) :
    Occasion state file (.tick analyzer) (.concluded (analyzer call))
  /-- The run in flight has ended. -/
  | settled (analyzer : Analyzer) (stage : (state.view file).stage = some .finished) :
    Occasion state file (.tick analyzer) .settled
  /-- A shutdown begins. -/
  | silenced (analyzer : Analyzer) (shutdown : .shutdown ∈ state.jobs) :
    Occasion state file (.tick analyzer) .silenced

/-- The occasion of the effect of a call. -/
theorem occasion_call (makes : state.Calls file run call) (analyzer : Analyzer) :
    Occasion state file (.tick analyzer) (callEffect analyzer state call) := by
  refine .called analyzer run call _ makes ?_
  split
  · exact .inl rfl
  · exact .inr rfl

/-- The occasion of the effect of a step. -/
theorem occasion_step (flight : Flight (state.desk [])) (analyzer : Analyzer) {task : TaskId}
    {t : Task} (next : state.queue.head? = some (.step task)) (known : state.task? task = some t) :
    Occasion state file (.tick analyzer) (stepEffect analyzer state t file) := by
  have nothing : Occasion state file (.tick analyzer) .nothing := .nothing _ id
  unfold stepEffect
  split
  · rename_i analyzed generation job fresh
    split
    · rename_i same
      subst same
      split
      · exact .skipped analyzer ‹_›
      · rename_i document opened
        split
        · exact .consulted analyzer task _
            ⟨next, ⟨t, known, fresh, generation, job⟩, document, opened, rfl⟩
        · rename_i answer provided
          refine occasion_call ⟨next, t, known, ⟨generation, job⟩, ?_⟩ analyzer
          simp only [fresh, runCall?, opened, provided]
    · exact nothing
  · rename_i analyzed generation asked text away answer job informed
    split
    · rename_i same
      subst same
      refine occasion_call ⟨next, t, known, ⟨generation, job⟩, ?_⟩ analyzer
      simp only [informed, runCall?]
    · exact nothing
  · rename_i analyzed generation call job answered
    split
    · rename_i same
      subst same
      have unfinished : t.result? = none := by rw [Task.result?_eq, answered]; rfl
      have inFlight := flight.pending known ⟨generation, job⟩ unfinished
      have stage := stage?_eq state analyzed inFlight known
      rw [answered] at stage
      exact .concluded analyzer call stage
    · exact nothing
  · split
    · exact .started analyzer
    · exact nothing
  · rename_i shutdown _
    exact .silenced analyzer (List.mem_map.mpr ⟨t, List.mem_of_getElem? known, shutdown⟩)
  · exact nothing

/-- The occasion of the effect of a piece of work. -/
theorem occasion_work (flight : Flight (state.desk [])) (analyzer : Analyzer) {work : Work}
    {rest : List Work} (queue : state.queue = work :: rest) :
    Occasion state file (.tick analyzer) (workEffect analyzer state work file) := by
  have nothing : Occasion state file (.tick analyzer) .nothing := .nothing _ id
  cases work with
  | step task =>
    simp only [workEffect]
    split
    · exact occasion_step flight analyzer (by rw [queue]; rfl) ‹_›
    · exact nothing
  | settle settled run =>
    simp only [workEffect]
    split
    · rename_i both
      obtain ⟨rfl, inFlight⟩ := both
      have queued : .settle settled run ∈ (state.desk []).queue := by simp [desk, queue]
      obtain ⟨t, known, ended⟩ := flight.ended queued
      obtain ⟨result, finished⟩ := Option.isSome_iff_exists.mp ended
      have stage := stage?_eq state settled inFlight known
      rw [Task.phase_of_result? finished] at stage
      exact .settled analyzer stage
    · exact nothing
  | alarm requested serial turns =>
    cases turns with
    | zero =>
      simp only [workEffect]
      split
      · exact .fired _ id
      · exact nothing
    | succ turns => exact nothing
  | relay | drained => exact nothing

/-- The occasion of the effect of an action. -/
theorem occasion_act (flight : Flight (state.desk [])) (action : Action) :
    Occasion state file action (state.effect action file) := by
  cases action with
  | event event =>
    cases event with
    | opened name text version =>
      simp only [effect, eventEffect]
      split
      · rename_i same
        exact same ▸ .opened text version
      · exact .nothing _ ‹_›
    | changed name text version =>
      simp only [effect, eventEffect]
      split
      · rename_i same
        exact same ▸ .changed text version
      · exact .nothing _ ‹_›
    | saved name text =>
      simp only [effect, eventEffect]
      split
      · rename_i same
        exact same ▸ .saved text
      · rename_i other
        exact .nothing _ fun sets => other sets.1
    | closed name =>
      simp only [effect, eventEffect]
      split
      · rename_i same
        exact same ▸ .closed
      · exact .nothing _ id
    | configured | reanalyzed =>
      simp only [effect, eventEffect]
      split
      · exact .fired _ id
      · exact .nothing _ id
  | tick analyzer =>
    simp only [effect]
    split
    · exact .nothing _ id
    · exact occasion_work flight analyzer ‹_›
  | trigger triggered =>
    simp only [effect]
    split
    · exact .triggered _ id
    · exact .nothing _ id
  | alarm requested =>
    simp only [effect]
    split
    · exact .fired _ id
    · exact .nothing _ id
  | inform task answer =>
    simp only [effect]
    split
    · exact .informed task answer
    · exact .nothing _ id
  | release | respond =>
    simp only [effect]
    split
    · exact .answered _ id
    · exact .nothing _ id
  | ask | cancel | clock | hold | provide => exact .nothing _ id

end State

end PredicateIndex.Pipeline
