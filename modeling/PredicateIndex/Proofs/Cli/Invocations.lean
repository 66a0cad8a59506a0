import Mathlib.Data.List.Count
import PredicateIndex.Proofs.Cli.Printouts
import PredicateIndex.Proofs.Pipeline.Supersession
import PredicateIndex.Proofs.Pipeline.Tally

/-!
# How often a batch analyzes a file

Every file of a batch is analyzed when it is opened. It is waited for once for each time that it is
named, and a lookup that finds neither an index nor a run in flight analyzes it again. So a file
whose analysis has a tree is analyzed once, however often it is named. A file whose analysis has
none is analyzed at least once, and at most once more than it is named; a batch of two files that
both fail analyzes the second one twice.
-/
namespace PredicateIndex.Pipeline

/-- How many runs an effect has a lookup start. -/
def Effect.starts : Effect → Nat
  | .started => 1
  | _ => 0

/-- An effect that triggers no analysis. -/
def Effect.IsQuiet : Effect → Prop
  | .opened _ _ | .saved _ | .triggered | .fired => False
  | _ => True

/-- Without a trigger only a lookup starts a run. -/
theorem View.runs_apply (view : View) (file : String) {effect : Effect} (quiet : effect.IsQuiet) :
    (view.apply file effect).runs = view.runs + effect.starts := by
  cases effect with
  | called call reply =>
    cases reply with
    | none => rfl
    | some reply => exact (State.Balanced.conclude view file reply).2
  | concluded reply => exact (State.Balanced.conclude view file reply).2
  | opened | saved | triggered | fired => exact quiet.elim
  | _ => rfl

namespace State

variable {analyzer : Analyzer} {settings : AnalyzerSettings} {documents : Ledger Document}
  {state : State} {file : String} {action : Action}

/-- An action of a batch asks for what it says. -/
theorem questions_act (inBatch : action.InBatch analyzer) :
    (state.act action).questions = state.questions ++ action.asked?.toList := by
  cases action with
  | tick doing =>
    simp only [Action.asked?, Option.toList_none, List.append_nil, act, tick]
    cases queue : state.queue with
    | nil => rfl
    | cons work rest => exact (moves_execute { state with queue := rest } doing work).1.questions
  | ask job =>
    have asked : job.isRun = false := by
      cases job with
      | run => exact inBatch.elim
      | _ => rfl
    simp [questions, Desk.questions, desk, act, ask, spawn, Action.asked?, asked]
  | hold file => exact (List.append_nil _).symm
  | release file =>
    exact (moves_release state [] file).questions.trans (List.append_nil _).symm
  | respond file task =>
    exact (moves_letGo state [] file task).questions.trans (List.append_nil _).symm
  | event | trigger | cancel | clock | alarm | provide | inform => exact inBatch.elim

/-- The actions of a batch ask for what they say, in order. -/
theorem questions_play {actions : List Action}
    (inBatch : ∀ action ∈ actions, action.InBatch analyzer) :
    (state.play actions).questions = state.questions ++ actions.filterMap Action.asked? := by
  induction actions generalizing state with
  | nil => exact (List.append_nil _).symm
  | cons action rest ih =>
    obtain ⟨here, others⟩ := List.forall_mem_cons.mp inBatch
    rw [play_cons, ih others, questions_act here, List.append_assoc, List.filterMap_cons]
    cases action.asked? <;> rfl

/-- If no tree was asked for, no task is to decode one. -/
theorem ne_tree_of_questions (asked : .tree file ∉ state.questions) :
    ∀ t ∈ state.tasks, t.job ≠ .tree file := by
  intro t listed job
  refine asked (List.mem_filter.mpr ⟨List.mem_map.mpr ⟨t, listed, job⟩, rfl⟩)

/-- The step of a task triggers no analysis. -/
theorem isQuiet_stepEffect (analyzer : Analyzer) (t : Task) :
    (stepEffect analyzer state t file).IsQuiet := by
  unfold stepEffect
  split
  · split
    · split
      · trivial
      · split <;> trivial
    · trivial
  · split <;> trivial
  · split <;> trivial
  · split <;> trivial
  · trivial
  · trivial

/-- Work triggers no analysis of a file on which no request waits. -/
theorem isQuiet_workEffect (calm : state.debouncer.isWaiting file = false) (analyzer : Analyzer)
    (work : Work) : (workEffect analyzer state work file).IsQuiet := by
  cases work with
  | step task =>
    simp only [workEffect]
    split
    · exact isQuiet_stepEffect analyzer _
    · trivial
  | settle settled run =>
    simp only [workEffect]
    split <;> trivial
  | relay | drained => trivial
  | alarm requested serial turns =>
    cases turns with
    | succ turns => trivial
    | zero =>
      simp only [workEffect]
      split
      · rename_i due
        rw [Debouncer.isWaiting, Ledger.has, Option.isSome_eq_false_iff,
          Option.isNone_iff_eq_none] at calm
        rw [calm] at due
        cases due.2
      · trivial

/-- An action of a batch triggers no analysis of a file on which no request waits. -/
theorem isQuiet_effect (calm : state.debouncer.isWaiting file = false)
    (inBatch : action.InBatch analyzer) : (state.effect action file).IsQuiet := by
  cases action with
  | tick doing =>
    simp only [effect]
    split
    · trivial
    · exact isQuiet_workEffect calm doing _
  | ask | hold => trivial
  | release | respond =>
    simp only [effect]
    split <;> trivial
  | event | trigger | cancel | clock | alarm | provide | inform => exact inBatch.elim

/-- A lookup that starts a run is known. -/
theorem length_starter? (state : State) (file : String) (action : Action) :
    (state.starter? file action).toList.length = (state.effect action file).starts := by
  by_cases started : state.effect action file = .started
  · obtain ⟨-, ⟨task, t, next, -⟩, -⟩ := of_effect_started started
    obtain ⟨rest, queue⟩ := List.head?_eq_some_iff.mp next
    simp [starter?, started, queue, Effect.starts]
  · have none : state.starter? file action = none := by
      refine Option.eq_none_iff_forall_ne_some.mpr fun task starts => ?_
      exact started (starter?_eq_some starts).1
    rw [none]
    cases at_ : state.effect action file with
    | started => exact (started at_).elim
    | _ => rfl

namespace Batched

/-- An action of a batch keeps what is known. -/
theorem act (batched : Batched analyzer settings documents state)
    (inBatch : action.InBatch analyzer) : Batched analyzer settings documents (state.act action) :=
  batched.play (List.forall_mem_singleton.mpr inBatch)

/-- The runs of a file of a batch are started by lookups. -/
theorem runs_play (batched : Batched analyzer settings documents state) (file : String)
    {actions : List Action} (inBatch : ∀ action ∈ actions, action.InBatch analyzer) :
    ((state.play actions).view file).runs =
      (state.view file).runs + (state.starters file actions).length := by
  induction actions generalizing state with
  | nil => rfl
  | cons action rest ih =>
    obtain ⟨here, others⟩ := List.forall_mem_cons.mp inBatch
    have calm : state.debouncer.isWaiting file = false := (batched.underway file).calm
    rw [play_cons, ih (batched.act here) others, view_act batched.orderly here.scheduled,
      View.runs_apply _ _ (isQuiet_effect calm here), starters, List.length_append,
      length_starter?, Nat.add_assoc]

/-- A batch keeps the balance of the calls for a file and its runs. -/
theorem balanced_play (batched : Batched analyzer settings documents state)
    (asked : .tree file ∉ state.questions)
    (balanced : Balanced (state.callsOf file) (state.view file)) {actions : List Action}
    (inBatch : ∀ action ∈ actions, action.InBatch analyzer) :
    Balanced ((state.play actions).callsOf file) ((state.play actions).view file) := by
  induction actions generalizing state with
  | nil => exact balanced
  | cons action rest ih =>
    obtain ⟨here, others⟩ := List.forall_mem_cons.mp inBatch
    refine ih (batched.act here) ?_ ?_ others
    · rw [questions_act here, List.mem_append, Option.mem_toList]
      rintro (before | now)
      · exact asked before
      · cases action with
        | ask job =>
          cases now
          exact here
        | _ => cases now
    · refine balanced_act batched.orderly here.scheduled (ne_tree_of_questions asked) ?_ balanced
      rintro rfl
      exact here

/-- When every task has ended, the calls for a file are its runs. -/
theorem uncalled_eq_zero (complete : ∀ t ∈ state.tasks, t.result?.isSome) (file : String) :
    (state.view file).uncalled = 0 := by
  have ended : ∀ stage, (state.view file).stage = some stage → stage = .finished := by
    intro stage reached
    obtain ⟨run, -, found⟩ := Option.bind_eq_some_iff.mp (show state.stage? file = _ from reached)
    obtain ⟨t, known, rfl⟩ := Option.map_eq_some_iff.mp found
    obtain ⟨result, ended⟩ := Option.isSome_iff_exists.mp (complete t (List.mem_of_getElem? known))
    rw [Task.phase_of_result? ended]
    rfl
  unfold View.uncalled
  split
  all_goals first | rfl | cases ended _ ‹_›

/-- No lookup starts a run of a file whose analysis has an index. -/
theorem starters_eq_nil (batched : Batched analyzer settings documents state) {file : String}
    (indexed : (indexFor analyzer settings file (documents.get? file)).isSome)
    {actions : List Action} (inBatch : ∀ action ∈ actions, action.InBatch analyzer) :
    state.starters file actions = [] := by
  induction actions generalizing state with
  | nil => rfl
  | cons action rest ih =>
    obtain ⟨here, others⟩ := List.forall_mem_cons.mp inBatch
    rw [starters, ih (batched.act here) others, List.append_nil,
      Option.toList_eq_nil_iff, Option.eq_none_iff_forall_ne_some]
    intro task starts
    obtain ⟨-, -, uncached, idle, -⟩ := of_effect_started (starter?_eq_some starts).1
    -- with no run in flight the index is there
    have index := (batched.underway file).index
    have absent : (state.view file).index = none := uncached
    have none : (state.view file).stage = none := by simp [view, stage?, idle]
    rw [absent, none] at index
    rw [← show _ = indexFor analyzer settings file (documents.get? file) from index] at indexed
    cases indexed

end Batched

end State

end PredicateIndex.Pipeline

namespace PredicateIndex.Cli.Batch

open Pipeline (State View)

/-- The files of a batch by their names. -/
def names (files : List SourceFile) : List String := files.map SourceFile.id

/-- One more file is opened after the others. -/
theorem opened_concat (settings : AnalyzerSettings) (files : List SourceFile) (source : SourceFile) :
    opened settings (files ++ [source]) =
      (opened settings files).act (.event (.opened source.id source.text 0)) := by
  rw [opened, List.foldl_append]
  rfl

/-- Opening files asks for nothing. -/
theorem questions_opened (settings : AnalyzerSettings) (files : List SourceFile) :
    (opened settings files).questions = [] := by
  induction files using List.reverseRecOn with
  | nil => rfl
  | append_singleton files source ih =>
    rw [opened_concat]
    exact (State.moves_handle (opened settings files) [] _).questions.trans ih

/-- Every file that is opened has one run, which has not begun. -/
theorem runs_opened (settings : AnalyzerSettings) (files : List SourceFile) (file : String) :
    ((opened settings files).view file).runs = (if file ∈ names files then 1 else 0) ∧
      ((opened settings files).view file).stage =
        if file ∈ names files then some .queued else none := by
  induction files using List.reverseRecOn with
  | nil => exact ⟨rfl, rfl⟩
  | append_singleton files source ih =>
    obtain ⟨orderly, -, -⟩ := opening_play settings files
    have scheduled : (Pipeline.Action.event (.opened source.id source.text 0)).Scheduled := trivial
    obtain ⟨runs, stage⟩ := ih
    have listed : file ∈ names (files ++ [source]) ↔ file ∈ names files ∨ source.id = file := by
      simp [names, eq_comm]
    rw [opened_concat, State.view_act orderly scheduled, State.effect, State.eventEffect]
    by_cases same : source.id = file
    · have now : file ∈ names (files ++ [source]) := listed.mpr (.inr same)
      simp only [if_pos same, if_pos now]
      rw [View.apply, View.trigger]
      by_cases before : file ∈ names files
      · rw [if_pos before] at runs stage
        rw [if_pos (by simp [View.setDocument, stage])]
        exact ⟨runs, stage⟩
      · rw [if_neg before] at runs stage
        rw [if_neg (by simp [View.setDocument, stage]), if_pos (by simp [View.setDocument])]
        exact ⟨congrArg (· + 1) runs, rfl⟩
    · simp only [listed, same, or_false, if_false]
      exact ⟨runs, stage⟩

/-- When the files are open, the analyzer has not been called. -/
theorem balanced_opened (settings : AnalyzerSettings) (files : List SourceFile) (file : String) :
    State.Balanced ((opened settings files).callsOf file) ((opened settings files).view file) := by
  induction files using List.reverseRecOn with
  | nil => exact ⟨.inr rfl, rfl⟩
  | append_singleton files source ih =>
    obtain ⟨orderly, -, -⟩ := opening_play settings files
    have none : .tree file ∉ (opened settings files).questions := by
      rw [questions_opened]
      exact List.not_mem_nil
    rw [opened_concat]
    exact State.balanced_act orderly trivial (State.ne_tree_of_questions none) nofun ih

namespace Execution

variable {analyzer : Analyzer} {settings : AnalyzerSettings} {files : List SourceFile}
  (execution : Execution analyzer settings files)

/-- How often the analyzer is called for a file. -/
def callsOf (file : String) : Nat := execution.batch.state.callsOf file

/-- The lookups of a file that find neither an index nor a run of it in flight, and analyze it
again. -/
def restarts (file : String) : List Pipeline.TaskId :=
  (opened settings files).starters file execution.actions

/-- A batch analyzes each of its files when it is opened, and again for each lookup that finds
neither an index nor a run in flight; there are no more of these than the file is named. A file
whose analysis has an index is analyzed once. -/
theorem analyzed_once_and_restarted (file : String) :
    execution.callsOf file =
        (if file ∈ names files then 1 else 0) + (execution.restarts file).length ∧
      (execution.restarts file).length ≤ (names files).count file ∧
      ((index? analyzer settings files file).isSome → execution.callsOf file = 1) := by
  have batched := batched_opened analyzer settings files
  have asked : .tree file ∉ (opened settings files).questions := by
    rw [questions_opened]
    exact List.not_mem_nil
  have counted : execution.callsOf file =
      (if file ∈ names files then 1 else 0) + (execution.restarts file).length := by
    have balanced := (batched.balanced_play asked (balanced_opened settings files file)
      execution.asks.inBatch).balance
    rw [State.Batched.uncalled_eq_zero execution.complete, Nat.add_zero,
      batched.runs_play file execution.asks.inBatch, (runs_opened settings files file).1] at balanced
    exact balanced
  refine ⟨counted, ?_, fun indexed => ?_⟩
  · have bound := State.length_starters_le (opened settings files) file execution.actions
    rw [State.questions_play execution.asks.inBatch, questions_opened, List.nil_append,
      execution.asks.asked, List.count_append, List.count_singleton] at bound
    have injective : Function.Injective Pipeline.Job.lookup := fun _ _ => Pipeline.Job.lookup.inj
    have lookups : (files.map fun source => Pipeline.Job.lookup source.id) =
      (names files).map Pipeline.Job.lookup := by simp [names]
    rw [lookups, List.count_map_of_injective _ _ injective file] at bound
    exact bound
  · have named : file ∈ names files := by
      by_contra other
      have idle := (runs_opened settings files file).2
      rw [if_neg other] at idle
      obtain ⟨-, -, opening⟩ := opening_play settings files
      rcases (opening file).queued with ⟨closed, -⟩ | queued
      · have absent : (opened settings files).documents.get? file = none := closed
        rw [index?, absent] at indexed
        cases indexed
      · cases queued.symm.trans idle
    have none : execution.restarts file = [] :=
      batched.starters_eq_nil indexed execution.asks.inBatch
    rw [counted, none, if_pos named]
    rfl

/-- An analyzer that finds the rule in one of two files and fails for the other. -/
def failingOnce : Analyzer := fun call =>
  if call.file = "/w/a.pl" then looping call else State.refusing call

/-- A batch that is run without delays is an execution of the two files. -/
theorem exists_execution_failingOnce : ∃ execution : Execution failingOnce {} twins,
    execution.batch.state = (run failingOnce {} twins).state :=
  exists_execution_run (by decide +kernel)

/-- The file with a tree is analyzed once and the other once more when it is waited for. -/
theorem analyzed_once_and_restarted_failingOnce :
    ∃ execution : Execution failingOnce {} twins,
      execution.callsOf "/w/a.pl" = 1 ∧ execution.callsOf "/w/b.pl" = 2 ∧
        (execution.restarts "/w/b.pl").length = 1 := by
  obtain ⟨execution, same⟩ := exists_execution_failingOnce
  have twice : execution.callsOf "/w/b.pl" = 2 := by
    rw [callsOf, same]
    decide +kernel
  obtain ⟨counted, -, -⟩ := execution.analyzed_once_and_restarted "/w/b.pl"
  refine ⟨execution, (execution.analyzed_once_and_restarted "/w/a.pl").2.2 (by decide +kernel),
    twice, ?_⟩
  rw [twice, if_pos (by decide)] at counted
  omega

/-- Not every batch analyzes each of its files once. -/
theorem not_forall_analyzed_once :
    ¬∀ (analyzer : Analyzer) (settings : AnalyzerSettings) (files : List SourceFile)
      (execution : Execution analyzer settings files) (file : String),
      file ∈ names files → execution.callsOf file = 1 := by
  intro once
  obtain ⟨execution, same⟩ := exists_execution_failingOnce
  have counted := once failingOnce {} twins execution "/w/b.pl" (by decide)
  rw [callsOf, same] at counted
  exact absurd counted (by decide +kernel)

end Execution

end PredicateIndex.Cli.Batch
