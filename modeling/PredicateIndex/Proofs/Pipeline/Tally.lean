import Mathlib.Data.List.Perm.Basic
import PredicateIndex.Proofs.Pipeline.SingleFlight
import PredicateIndex.Proofs.Pipeline.Staleness
import PredicateIndex.Proofs.Pipeline.Standing

/-!
# How often the analyzer is called

Every task is a run or was asked for, and runs are started by events, by requests that fire and by
lookups that find neither an index nor a run in flight. If no tree of a file is asked for, the calls
for the file are told from its runs: every run that has begun and does not wait for its settings has
made one.
-/
namespace PredicateIndex.Pipeline

/-- The jobs that were asked for. -/
def Desk.questions (desk : Desk) : List Job :=
  (desk.tasks.map Task.job).filter fun job => !job.isRun

/-- Changing a task without changing its job asks for nothing. -/
theorem Desk.questions_modify (desk : Desk) (task : TaskId) {change : Task → Task}
    (same : ∀ t, (change t).job = t.job) :
    ({ desk with tasks := desk.tasks.modify task change } : Desk).questions = desk.questions := by
  refine congrArg (List.filter _) (List.ext_getElem? fun k => ?_)
  simp only [List.getElem?_map, List.getElem?_modify]
  cases desk.tasks[k]? with
  | none => rfl
  | some t =>
    simp only [Option.map_eq_map, Option.map_some]
    split
    · rw [same]
    · rfl

/-- A move asks for nothing. -/
theorem Move.questions {desk desk' : Desk} (moved : Move desk desk') :
    desk'.questions = desk.questions := by
  have moves : ∀ (desk : Desk) (task : TaskId) (phase : Phase),
      (desk.setPhase task phase).questions = desk.questions :=
    fun desk task phase => desk.questions_modify task fun _ => rfl
  have listens : ∀ task work, (desk.addListener task work).questions = desk.questions :=
    fun task work => desk.questions_modify task fun _ => rfl
  cases moved with
  | start file idle => simp [Desk.questions, Desk.start, Desk.spawn, Job.isRun]
  | signal | write | discard | record | forget | settle => rfl
  | listen => exact listens _ _
  | call | await | drain | respond | drained | relay | finish => exact moves _ _ _
  | join => exact (moves _ _ _).trans (listens _ _)

/-- Moves ask for nothing. -/
theorem Moves.questions {desk desk' : Desk} (moves : Moves desk desk') :
    desk'.questions = desk.questions := by
  induction moves with
  | refl => rfl
  | tail _ moved ih => exact moved.questions.trans ih

/-- How many calls an effect makes. -/
def Effect.calls : Effect → Nat
  | .called _ _ => 1
  | _ => 0

/-- How many runs of a file are yet to call the analyzer. -/
def View.uncalled (view : View) : Nat :=
  match view.stage with
  | some .queued | some (.asking _) | some (.informed _) => 1
  | _ => 0

namespace State

variable (state : State)

/-- The jobs that were asked for. -/
def questions : List Job := (state.desk []).questions

/-- How often the analyzer was called for a file. -/
def callsOf (file : String) : Nat := state.calls.countP fun call => call.file == file

variable {state} {file : String} {action : Action}

/-- The call of the step of a task that asks for no tree of a file is that of its effect on it. -/
theorem countP_call? (analyzer : Analyzer) {t : Task} (other : t.job ≠ .tree file)
    (apart : t.phase.OfAsker t.job) :
    (state.call? t).toList.countP (fun call => call.file == file) =
      (stepEffect analyzer state t file).calls := by
  obtain ⟨job, phase, listeners⟩ := t
  cases phase with
  | fresh =>
    cases job with
    | run analyzed generation =>
      simp only [call?, stepEffect, runCall?]
      by_cases same : analyzed = file
      · subst same
        cases found : state.documents.get? analyzed with
        | none => simp [Effect.calls]
        | some document =>
          cases provided : state.provider analyzed <;> simp [callEffect, Effect.calls]
      · rw [if_neg same]
        split <;> simp [Effect.calls, same]
    | tree wanted =>
      have apart : wanted ≠ file := fun same => other (same ▸ rfl)
      simp only [call?, stepEffect, runCall?]
      split <;> simp [Effect.calls, apart]
    | lookup wanted =>
      simp only [call?, stepEffect]
      split <;> rfl
    | shutdown => rfl
  | informed asked text away answer =>
    rcases apart with ⟨generation, same⟩ | same
    · dsimp only at same
      subst same
      simp only [call?, stepEffect]
      split <;> simp_all [callEffect, Effect.calls]
    · dsimp only at same
      subst same
      have apart : asked ≠ file := fun same => other (same ▸ rfl)
      simp [call?, stepEffect, Effect.calls, apart]
  | answered call =>
    cases job with
    | run analyzed generation =>
      simp only [call?, stepEffect]
      split <;> rfl
    | _ => rfl
  | _ => cases job <;> rfl

/-- If no tree of a file was asked for, the calls for the file are those of the effects on it. -/
theorem callsOf_act (asked : ∀ t ∈ state.tasks, t.job ≠ .tree file)
    (apart : AsksApart (state.desk [])) (action : Action) :
    (state.act action).callsOf file =
      state.callsOf file + (state.effect action file).calls := by
  rw [callsOf, calls_act, List.countP_append]
  congr 1
  cases action with
  | tick analyzer =>
    simp only [made?, effect]
    cases queue : state.queue with
    | nil => rfl
    | cons work rest =>
      cases work with
      | step task =>
        simp only [workEffect]
        cases known : state.task? task with
        | none => rfl
        | some t =>
          exact countP_call? analyzer (asked t (List.mem_of_getElem? known)) (apart task t known)
      | settle settled run =>
        simp only [workEffect]
        split <;> rfl
      | alarm requested serial turns =>
        cases turns with
        | zero =>
          simp only [workEffect]
          split <;> rfl
        | succ turns => rfl
      | relay | drained => rfl
  | event event =>
    cases event <;> simp only [made?, effect, eventEffect] <;> split <;> rfl
  | trigger | alarm | release | respond | inform =>
    simp only [made?, effect]
    split <;> rfl
  | ask | cancel | clock | hold | provide => rfl

/-- When a lookup of a file starts a run, it takes its first step and finds neither an index nor a
run in flight. -/
theorem of_effect_started (started : state.effect action file = .started) :
    (∃ analyzer, action = .tick analyzer) ∧
      (∃ task t, state.queue.head? = some (.step task) ∧ state.task? task = some t ∧
        t.job = .lookup file ∧ t.phase = .fresh) ∧
      state.cache.get? file = none ∧ state.pending.get? file = none ∧ state.isOpen file := by
  cases action with
  | tick analyzer =>
    simp only [effect] at started
    cases queue : state.queue with
    | nil => simp [queue] at started
    | cons work rest =>
      simp only [queue] at started
      cases work with
      | step task =>
        simp only [workEffect] at started
        cases known : state.task? task with
        | none => simp [known] at started
        | some t =>
          simp only [known] at started
          unfold stepEffect at started
          split at started
          · split at started
            · split at started
              · cases started
              · split at started <;> cases started
            · cases started
          · split at started <;> cases started
          · split at started <;> cases started
          · rename_i wanted job fresh
            split at started
            · rename_i finds
              obtain ⟨rfl, uncached, idle, opened⟩ := finds
              exact ⟨⟨analyzer, rfl⟩, ⟨task, t, rfl, known, job, fresh⟩, uncached, idle, opened⟩
            · cases started
          · cases started
          · cases started
      | settle settled run =>
        simp only [workEffect] at started
        split at started <;> cases started
      | alarm requested serial turns =>
        cases turns with
        | zero =>
          simp only [workEffect] at started
          split at started <;> cases started
        | succ turns => cases started
      | relay | drained => cases started
  | event event =>
    cases event <;> simp only [effect, eventEffect] at started <;> split at started <;>
      cases started
  | trigger | alarm | release | respond | inform =>
    simp only [effect] at started
    split at started <;> cases started
  | ask | cancel | clock | hold | provide => cases started

/-- The calls for a file and its runs that are yet to call are all its runs. -/
structure Balanced (calls : Nat) (view : View) : Prop where
  /-- A file with runs is open. -/
  opened : view.document.isSome ∨ view.runs = 0
  /-- Every run calls the analyzer once. -/
  balance : calls + view.uncalled = view.runs

namespace Balanced

variable {calls : Nat} {view : View}

/-- A run that starts for an open document is yet to call the analyzer. -/
theorem start (balanced : Balanced calls view) (opened : view.document.isSome)
    (idle : view.stage = none) : Balanced calls view.start where
  opened := .inl opened
  balance := by
    have balance := balanced.balance
    simp only [View.uncalled, idle] at balance
    simp only [View.start, View.uncalled]
    omega

/-- A trigger keeps the balance. -/
theorem trigger (balanced : Balanced calls view) : Balanced calls view.trigger := by
  rw [View.trigger]
  split
  · exact ⟨balanced.opened, balanced.balance⟩
  · rename_i idle
    split
    · exact balanced.start ‹_› (Option.not_isSome_iff_eq_none.mp idle)
    · exact balanced

/-- Setting the document keeps the balance. -/
theorem setDocument (balanced : Balanced calls view) (document : Document) :
    Balanced calls (view.setDocument document) :=
  ⟨.inl rfl, balanced.balance⟩

/-- A request that fires keeps the balance. -/
theorem fire (balanced : Balanced calls view) : Balanced calls view.fire := by
  have silent : Balanced calls { view with waiting := false } :=
    ⟨balanced.opened, balanced.balance⟩
  exact silent.trigger

/-- The end of a run that has called the analyzer keeps the balance. -/
theorem finish (opened : view.document.isSome ∨ view.runs = 0) (balance : calls = view.runs) :
    Balanced calls view.finish :=
  ⟨opened, balance⟩

/-- An answer of the analyzer keeps the balance. -/
theorem respond (balanced : Balanced calls view) : Balanced calls view.respond := by
  refine ⟨balanced.opened, ?_⟩
  have balance := balanced.balance
  obtain ⟨document, waiting, stage, runs, index, published, dropped⟩ := view
  cases stage with
  | none => exact balance
  | some stage => cases stage <;> exact balance

/-- Settings keep the balance. -/
theorem inform (balanced : Balanced calls view) (file : String) (answer : SettingsAnswer) :
    Balanced calls (view.inform file answer) := by
  refine ⟨balanced.opened, ?_⟩
  have balance := balanced.balance
  obtain ⟨document, waiting, stage, runs, index, published, dropped⟩ := view
  cases stage with
  | none => exact balance
  | some stage => cases stage <;> exact balance

/-- Taking a reply in leaves the document and the runs. -/
theorem conclude (view : View) (file : String) (reply : Reply) :
    (view.conclude file reply).document = view.document ∧
      (view.conclude file reply).runs = view.runs := by
  rw [View.conclude]
  cases reply.result with
  | error crash =>
    simp only
    split <;> exact ⟨rfl, rfl⟩
  | ok outcome =>
    simp only [View.takeOutcome]
    split
    · split <;> exact ⟨rfl, rfl⟩
    · exact ⟨rfl, rfl⟩

end Balanced

/-- An action that does not close a file of which no tree was asked for keeps the balance of its
calls and runs. -/
theorem balanced_act (orderly : Orderly (state.desk [])) (scheduled : action.Scheduled)
    (asked : ∀ t ∈ state.tasks, t.job ≠ .tree file) (kept : action ≠ .event (.closed file))
    (balanced : Balanced (state.callsOf file) (state.view file)) :
    Balanced ((state.act action).callsOf file) ((state.act action).view file) := by
  rw [callsOf_act asked orderly.apart, view_act orderly scheduled]
  have balance := balanced.balance
  have occasion : Occasion state file action (state.effect action file) :=
    occasion_act orderly.flight action
  generalize at_ : state.effect action file = effect at occasion
  cases occasion with
  | nothing => exact balanced
  | opened text version => exact (balanced.setDocument _).trigger
  | changed text version => exact ⟨.inl rfl, balance⟩
  | saved text =>
    simp only [View.apply]
    split
    · exact (balanced.setDocument _).fire
    · exact balanced.fire
  | closed => exact (kept rfl).elim
  | triggered => exact balanced.trigger
  | fired => exact balanced.fire
  | started analyzer =>
    obtain ⟨-, -, -, idle, opened⟩ := of_effect_started at_
    refine balanced.start opened ?_
    simp [view, stage?, idle]
  | skipped analyzer closed =>
    -- a file without a document has no runs that could begin
    have runs : (state.view file).runs = 0 := by
      refine balanced.opened.resolve_left fun opened => ?_
      have document : (state.view file).document = none := closed
      rw [document] at opened
      cases opened
    refine .finish balanced.opened ?_
    simp only [Effect.calls]
    omega
  | consulted analyzer run text reads =>
    simp only [View.uncalled, (reads.inFlight orderly).2] at balance
    exact ⟨balanced.opened, balance⟩
  | informed task answer => exact balanced.inform file answer
  | called analyzer run call reply makes given =>
    have balance : state.callsOf file + 1 = (state.view file).runs := by
      rcases makes.reads_or_informed orderly with ⟨reads, -⟩ | ⟨stage, -⟩
      · simpa only [View.uncalled, (reads.inFlight orderly).2] using balance
      · simpa only [View.uncalled, stage] using balance
    cases reply with
    | none => exact ⟨balanced.opened, balance⟩
    | some reply =>
      obtain ⟨document, runs⟩ := Balanced.conclude (state.view file) file reply
      exact .finish (by rw [document, runs]; exact balanced.opened) (by rw [runs]; exact balance)
  | answered => exact balanced.respond
  | concluded analyzer call stage =>
    obtain ⟨document, runs⟩ := Balanced.conclude (state.view file) file (analyzer call)
    simp only [View.uncalled, stage] at balance
    exact .finish (by rw [document, runs]; exact balanced.opened) (by rw [runs]; exact balance)
  | settled analyzer stage =>
    simp only [View.uncalled, stage] at balance
    exact ⟨balanced.opened, balance⟩
  | silenced => exact ⟨balanced.opened, balance⟩

/-! ## Runs that lookups start -/

/-- The lookup of a file that starts a run of it in an action. -/
def starter? (state : State) (file : String) (action : Action) : Option TaskId :=
  match state.queue, state.effect action file with
  | .step task :: _, .started => some task
  | _, _ => none

/-- The lookups of a file that start runs of it, in order: each finds neither an index nor a run in
flight when it begins. -/
def starters (state : State) (file : String) : List Action → List TaskId
  | [] => []
  | action :: rest => (state.starter? file action).toList ++ (state.act action).starters file rest

/-- A lookup that starts a run takes its first step. -/
theorem starter?_eq_some {task : TaskId} (starts : state.starter? file action = some task) :
    state.effect action file = .started ∧ ∃ t, state.queue.head? = some (.step task) ∧
      state.task? task = some t ∧ t.job = .lookup file ∧ t.phase = .fresh := by
  unfold starter? at starts
  split at starts
  · rename_i stepped rest queue started
    cases starts
    obtain ⟨-, ⟨other, t, next, found⟩, -⟩ := of_effect_started started
    rw [queue] at next
    cases next
    exact ⟨started, t, by rw [queue]; rfl, found⟩
  · cases starts

/-- A lookup that has started a run has begun. -/
theorem begun_of_starter? {task : TaskId} (starts : state.starter? file action = some task) :
    (state.act action).Stands task (.lookup file) (· ≠ .fresh) := by
  obtain ⟨started, t, next, known, job, -⟩ := starter?_eq_some starts
  obtain ⟨⟨analyzer, rfl⟩, -⟩ := of_effect_started started
  obtain ⟨rest, queue⟩ := List.head?_eq_some_iff.mp next
  obtain ⟨u, found, same⟩ : ∃ u, (tick analyzer state).task? task = some u ∧ u.job = t.job := by
    refine Turns.keep (fun desk => ∃ u, desk.tasks[task]? = some u ∧ u.job = t.job) ?_
      (turns_tick state analyzer) ⟨t, known, rfl⟩
    rintro desk desk' ⟨u, listed, same⟩ turned
    obtain ⟨v, advance⟩ := turned.advance listed
    exact ⟨v, advance.known, advance.job.trans same⟩
  refine ⟨u, found, same.trans job, fun fresh => ?_⟩
  exact spent_tick queue analyzer u .cancelled found (by rw [fresh]; trivial)

/-- A task that has begun stays so. -/
theorem Stands.begun_act {task : TaskId} {job : Job} (begun : state.Stands task job (· ≠ .fresh))
    (action : Action) : (state.act action).Stands task job (· ≠ .fresh) := by
  refine begun.act_of_begun ?_ (fun fresh => fresh rfl) ?_ (by simp) (by simp) action
  · constructor <;> simp
  · simp

/-- A task that has begun stays so. -/
theorem Stands.begun_play {task : TaskId} {job : Job} (begun : state.Stands task job (· ≠ .fresh))
    (actions : List Action) : (state.play actions).Stands task job (· ≠ .fresh) :=
  List.foldlRecOn (motive := fun s : State => s.Stands task job (· ≠ .fresh)) actions State.act begun
    fun _ held action _ => held.begun_act action

/-- A lookup that starts a run has not begun before, and is a lookup of the file. -/
theorem mem_starters {actions : List Action} {task : TaskId}
    (inside : task ∈ state.starters file actions) :
    (∀ job, ¬state.Stands task job (· ≠ .fresh)) ∧
      (state.play actions).Stands task (.lookup file) (· ≠ .fresh) := by
  induction actions generalizing state with
  | nil => cases inside
  | cons action rest ih =>
    rw [starters, List.mem_append, Option.mem_toList] at inside
    rcases inside with starts | later
    · refine ⟨?_, (begun_of_starter? starts).begun_play rest⟩
      rintro job ⟨t, known, -, begun⟩
      obtain ⟨-, u, -, found, -, fresh⟩ := starter?_eq_some starts
      obtain rfl : t = u := Option.some.inj (known.symm.trans found)
      exact begun fresh
    · obtain ⟨unbegun, begun⟩ := ih later
      exact ⟨fun job earlier => unbegun job (earlier.begun_act action), begun⟩

/-- A lookup starts at most one run. -/
theorem nodup_starters (state : State) (file : String) (actions : List Action) :
    (state.starters file actions).Nodup := by
  induction actions generalizing state with
  | nil => exact List.nodup_nil
  | cons action rest ih =>
    rw [starters]
    cases starts : state.starter? file action with
    | none => exact ih (state.act action)
    | some task =>
      rw [Option.toList_some, List.singleton_append, List.nodup_cons]
      refine ⟨fun later => ?_, ih (state.act action)⟩
      exact (mem_starters later).1 _ (begun_of_starter? starts)

/-- There are no more lookups that start runs of a file than lookups of it. -/
theorem length_starters_le (state : State) (file : String) (actions : List Action) :
    (state.starters file actions).length ≤
      (state.play actions).questions.count (.lookup file) := by
  have asked : (state.play actions).questions.count (.lookup file) =
      (state.play actions).jobs.countP (· == .lookup file) := by
    refine (List.countP_filter ..).trans (List.countP_congr fun job _ => ?_)
    cases job <;> simp [Job.isRun]
  rw [asked, ← List.length_findIdxs]
  refine (List.subperm_of_subset (nodup_starters state file actions) fun task inside => ?_).length_le
  obtain ⟨t, known, job, -⟩ := (mem_starters inside).2
  have listed : (state.play actions).jobs[task]? = some (.lookup file) := by
    have found : (state.play actions).tasks[task]? = some t := known
    simp [jobs, found, job]
  obtain ⟨lt, at_⟩ := List.getElem?_eq_some_iff.mp listed
  exact List.mem_findIdxs_iff_exists_getElem_pos.mpr ⟨lt, by simp [at_]⟩

end State

end PredicateIndex.Pipeline
