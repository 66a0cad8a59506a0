import PredicateIndex.Pipeline.Schedule

/-!
# Interleavings

What can happen to the pipeline from outside, one thing at a time and in any order: an event of a
document, a trigger, a question, one turn of the queue of work, a reading of the clock, a request
that comes due, and an answer of the provider or the analyzer. The analyzer is given anew for every
turn, and the provider may change at any time, so their answers may change from call to call. The
drivers that do all the work at once, or let time pass, are interleavings of these.
-/
namespace PredicateIndex.Pipeline

/-- One thing that happens to the pipeline. -/
inductive Action where
  /-- Something happens to a document. -/
  | event (event : Event)
  /-- An analysis of a file is triggered. -/
  | trigger (file : String)
  /-- A task is asked for. -/
  | ask (job : Job)
  /-- A task is cancelled. -/
  | cancel (task : TaskId)
  /-- The first piece of work is done. -/
  | tick (analyzer : Analyzer)
  /-- The clock is set to a time. -/
  | clock (time : Nat)
  /-- The waiting request of a file fires if it is due. -/
  | alarm (file : String)
  /-- The analyzer calls of a file are held back from now on. -/
  | hold (file : String)
  /-- The analyzer calls of a file go on. -/
  | release (file : String)
  /-- The analyzer answers a task that waits with a call of a file. -/
  | respond (file : String) (task : TaskId)
  /-- The provider answers in this way from now on. -/
  | provide (provider : SettingsProvider)
  /-- The provider answers a task that waits for its settings. -/
  | inform (task : TaskId) (answer : SettingsAnswer)

namespace Action

/-- Whether an action starts no run by hand and cancels nothing: all runs are then started by the
pipeline and go on to their ends. -/
def Scheduled : Action → Prop
  | .ask (.run _ _) | .cancel _ => False
  | _ => True

/-- Whether an action sets the text of a file. -/
def SetsText (file : String) : Action → Prop
  | .event (.opened opened _ _) => opened = file
  | .event (.changed changed _ _) => changed = file
  | .event (.saved saved text) => saved = file ∧ text.isSome
  | _ => False

end Action

namespace State

/-- Whether the waiting request of a file is due. -/
def isDue (state : State) (file : String) : Bool :=
  (state.debouncer.alarms.get? file).any fun alarm => alarm.deadline ≤ state.now

/-- The state after an action. -/
def act (state : State) : Action → State
  | .event event => state.handle event
  | .trigger file => (state.trigger file).2
  | .ask job => (state.ask job).2
  | .cancel task => (state.cancel task).2
  | .tick analyzer => tick analyzer state
  | .clock time => { state with now := time }
  | .alarm file => if state.isDue file then state.fire file else state
  | .hold file => state.hold file
  | .release file => state.release file
  | .respond file task => letGo file state task
  | .provide provider => { state with provider }
  | .inform task answer => state.inform answer task

/-- The state after some actions. -/
def play (state : State) (actions : List Action) : State := actions.foldl act state

@[simp] theorem play_nil (state : State) : state.play [] = state := rfl

/-- Actions may be played in two parts. -/
theorem play_append (state : State) (first second : List Action) :
    state.play (first ++ second) = (state.play first).play second :=
  List.foldl_append

/-- The first action comes first. -/
theorem play_cons (state : State) (action : Action) (rest : List Action) :
    state.play (action :: rest) = (state.act action).play rest := rfl

/-- The last action comes last. -/
theorem play_snoc (state : State) (actions : List Action) (action : Action) :
    state.play (actions ++ [action]) = (state.play actions).act action :=
  play_append state actions [action]

/-- Among actions that are played from a state, one is done in the state `before`, and others follow
it. -/
def Occurs (start : State) (actions : List Action) (before : State) (action : Action)
    (rest : List Action) : Prop :=
  ∃ past, actions = past ++ action :: rest ∧ before = start.play past

/-- The last action is done in the state after all others. -/
theorem occurs_last (start : State) (actions : List Action) (action : Action) :
    Occurs start (actions ++ [action]) (start.play actions) action [] :=
  ⟨actions, rfl, rfl⟩

/-- What was done still was when something else follows. -/
theorem Occurs.snoc {start before : State} {actions rest : List Action} {action : Action}
    (occurs : Occurs start actions before action rest) (later : Action) :
    Occurs start (actions ++ [later]) before action (rest ++ [later]) := by
  obtain ⟨past, rfl, rfl⟩ := occurs
  exact ⟨past, by simp, rfl⟩

/-- What was done still was when something else came first. -/
theorem Occurs.cons {start before : State} {actions rest : List Action} {action first : Action}
    (occurs : Occurs (start.act first) actions before action rest) :
    Occurs start (first :: actions) before action rest := by
  obtain ⟨past, rfl, rfl⟩ := occurs
  exact ⟨first :: past, rfl, rfl⟩

/-- Doing several pieces of work is an interleaving. -/
theorem ticks_eq_play (analyzer : Analyzer) (n : Nat) (state : State) :
    ∃ k, ticks analyzer n state = state.play (List.replicate k (.tick analyzer)) := by
  induction n generalizing state with
  | zero => exact ⟨0, rfl⟩
  | succ n ih =>
    rw [ticks]
    split
    · exact ⟨0, rfl⟩
    · obtain ⟨k, equal⟩ := ih (tick analyzer state)
      exact ⟨k + 1, equal⟩

/-- The first request that is due fires as an action. -/
theorem alarm_of_due? {state : State} {file : String} {alarm : Alarm Unit} {time : Nat}
    (due : state.debouncer.due? time = some (file, alarm)) :
    { state with now := max state.now alarm.deadline }.fire file =
      state.play [.clock (max state.now alarm.deadline), .alarm file] := by
  have first : state.debouncer.alarms.get? file = some alarm := by
    cases listed : state.debouncer.alarms with
    | nil => simp [Debouncer.due?, listed] at due
    | cons pair rest =>
      obtain ⟨key, waiting⟩ := pair
      simp only [Debouncer.due?, listed, Option.ite_none_right_eq_some, Option.some.injEq,
        Prod.mk.injEq] at due
      obtain ⟨-, rfl, rfl⟩ := due
      simp [Ledger.get?]
  have reached : alarm.deadline ≤ max state.now alarm.deadline := Nat.le_max_right _ _
  simp only [play, List.foldl_cons, List.foldl_nil, act, isDue, first, Option.any_some,
    decide_eq_true reached, if_pos]

/-- Firing the requests that come due, with all the work in between, is an interleaving. -/
theorem fireDue_eq_play (analyzer : Analyzer) (time n : Nat) (state : State) :
    ∃ actions : List Action, (∀ action ∈ actions, action.Scheduled) ∧
      fireDue analyzer time n state = state.play actions := by
  induction n generalizing state with
  | zero => exact ⟨[], by simp, rfl⟩
  | succ n ih =>
    rw [fireDue]
    split
    · exact ⟨[], by simp, rfl⟩
    · rename_i file alarm due
      obtain ⟨k, worked⟩ := ticks_eq_play analyzer _
        ({ state with now := max state.now alarm.deadline }.fire file)
      obtain ⟨rest, scheduled, equal⟩ := ih (settle analyzer
        ({ state with now := max state.now alarm.deadline }.fire file))
      refine ⟨[.clock (max state.now alarm.deadline), .alarm file] ++
        (List.replicate k (.tick analyzer) ++ rest), ?_, ?_⟩
      · intro action inside
        simp only [List.mem_append, List.mem_cons, List.not_mem_nil, or_false,
          List.mem_replicate] at inside
        obtain (rfl | rfl) | ⟨-, rfl⟩ | inside := inside
        · trivial
        · trivial
        · trivial
        · exact scheduled action inside
      · rw [equal, settle, worked, alarm_of_due? due, play_append, play_append]

/-- Letting time pass is an interleaving. -/
theorem advance_eq_play (analyzer : Analyzer) (state : State) (milliseconds : Nat) :
    ∃ actions : List Action, (∀ action ∈ actions, action.Scheduled) ∧
      advance analyzer state milliseconds = state.play actions := by
  obtain ⟨actions, scheduled, equal⟩ := fireDue_eq_play analyzer (state.now + milliseconds)
    state.debouncer.alarms.length state
  refine ⟨actions ++ [.clock (state.now + milliseconds)], ?_, ?_⟩
  · intro action inside
    rcases List.mem_append.mp inside with inside | inside
    · exact scheduled action inside
    · rw [List.mem_singleton.mp inside]
      trivial
  · rw [play_snoc, ← equal]
    rfl

end State

end PredicateIndex.Pipeline
