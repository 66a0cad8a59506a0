import PredicateIndex.Proofs.Pipeline.Lane
import PredicateIndex.Proofs.Pipeline.Reopening

/-!
# The diagnostics agree with the index

The cache and the published diagnostics are two stores, and a run can end in four ways. What both
hold for an open file is known from how its runs ended since it was last opened, as long as no run
of it was given a generation by hand: the last run that ended while the document was open decides
what is published, and the index is its own, or that of the run before it if it gave no tree, or
none if it was broken off.
-/
namespace PredicateIndex.Pipeline

/-- How a run of a file ended. -/
structure Ending where
  /-- What the analyzer replied. -/
  reply : Reply
  /-- The index that the file had then. -/
  left : Option FileIndex

namespace Lane

/-- What can be seen of a file agrees with how its runs ended, of which the last one comes first. -/
def Agrees (lane : Lane) (file : String) : List Ending → Prop
  | [] => lane.index = none ∧ lane.published = []
  | last :: before =>
    match last.reply.result with
    | .error crash =>
      lane.index = none ∧
        lane.published =
          [{ range := .point 0 0, message := "Internal analysis error: " ++ crash.message,
             severity := .error, source := "clauseindex" }]
    | .ok outcome =>
      match outcome.tree with
      | none =>
        lane.index = before.head?.bind Ending.left ∧
          lane.published = outcome.diagnostics.map (·.toEditor "clauseindex")
      | some tree =>
        lane.index = some { tree.index (some file) with
            diagnostics := (tree.index (some file)).diagnostics ++ outcome.diagnostics } ∧
          lane.published = ((tree.index (some file)).diagnostics ++ outcome.diagnostics).map
            (·.toEditor "clauseindex")

/-- Only the index and the diagnostics are compared with how runs ended. -/
theorem Agrees.congr {lane lane' : Lane} {file : String} {endings : List Ending}
    (agrees : lane.Agrees file endings) (index : lane'.index = lane.index)
    (published : lane'.published = lane.published) : lane'.Agrees file endings := by
  unfold Agrees at agrees ⊢
  rw [index, published]
  exact agrees

/-- A reply that is taken in for an open document decides what can be seen of the file. -/
theorem agrees_conclude {lane : Lane} {file : String} {before : List Ending}
    (opened : lane.document.isSome) (index : lane.index = before.head?.bind Ending.left)
    (reply : Reply) (left : Option FileIndex) :
    (lane.conclude file reply).Agrees file (⟨reply, left⟩ :: before) := by
  obtain ⟨result, notices⟩ := reply
  cases result with
  | error crash =>
    have shown : lane.conclude file ⟨.error crash, notices⟩ =
        { lane with index := none, published := [internalDiagnostic crash] } := if_pos opened
    rw [shown]
    exact ⟨rfl, rfl⟩
  | ok outcome =>
    have shown : lane.conclude file ⟨.ok outcome, notices⟩ = lane.takeOutcome file outcome :=
      if_pos opened
    rw [shown]
    obtain ⟨tree, error, warning⟩ := outcome
    cases tree with
    | none => exact ⟨index, rfl⟩
    | some tree => exact ⟨rfl, rfl⟩

/-- A reply that comes when the document is closed changes nothing if there is no index. -/
theorem conclude_of_closed {lane : Lane} (closed : lane.document = none)
    (empty : lane.index = none) (file : String) (reply : Reply) :
    lane.conclude file reply = lane := by
  obtain ⟨document, waiting, busy, index, published⟩ := lane
  cases closed
  cases empty
  unfold conclude
  cases reply.result <;> rfl

/-- A reply leaves the document. -/
theorem document_conclude (lane : Lane) (file : String) (reply : Reply) :
    (lane.conclude file reply).document = lane.document := by
  unfold conclude takeOutcome
  split
  · split
    · split <;> rfl
    · rfl
  · split <;> rfl

end Lane

/-- Whether an incident is neither the end of a run nor that of a document. -/
def Incident.Quiet : Incident → Prop
  | .event (.closed _) | .concluded _ => False
  | _ => True

namespace Lane

/-- A quiet incident leaves the index and the diagnostics and closes no document. -/
theorem after_of_quiet {incident : Incident} (quiet : incident.Quiet) (lane : Lane)
    (file : String) :
    (lane.after file incident).index = lane.index ∧
      (lane.after file incident).published = lane.published ∧
      ((lane.after file incident).document = none → lane.document = none) := by
  cases incident with
  | event event =>
    cases event with
    | closed => exact quiet.elim
    | opened | changed => exact ⟨rfl, rfl, nofun⟩
    | saved => exact ⟨rfl, rfl, fun closed => (Option.or_eq_none_iff.mp closed).2⟩
    | configured | reanalyzed =>
      simp only [after, handle]
      split <;> exact ⟨rfl, rfl, id⟩
  | sought =>
    simp only [after]
    split <;> exact ⟨rfl, rfl, id⟩
  | concluded => exact quiet.elim
  | _ => exact ⟨rfl, rfl, id⟩

/-- What is kept while runs of a file end and its document is opened and closed. -/
structure Tallies (lane : Lane) (file : String) (endings : List Ending) : Prop where
  /-- What can be seen of the file agrees with how its runs ended. -/
  agrees : lane.Agrees file endings
  /-- The index is the one that the last of them left. -/
  index : lane.index = endings.head?.bind Ending.left
  /-- None ended since the document was closed. -/
  closed : lane.document = none → endings = []

variable {lane : Lane} {file : String} {endings : List Ending}

/-- A quiet incident is no end of a run. -/
theorem Tallies.after_of_quiet (tallies : lane.Tallies file endings) {incident : Incident}
    (quiet : incident.Quiet) : (lane.after file incident).Tallies file endings := by
  obtain ⟨index, published, document⟩ := Lane.after_of_quiet quiet lane file
  exact ⟨tallies.agrees.congr index published, index.trans tallies.index,
    fun closed => tallies.closed (document closed)⟩

/-- The end of a run counts if the document is open. -/
theorem Tallies.conclude (tallies : lane.Tallies file endings) (reply : Reply) :
    (lane.conclude file reply).Tallies file
      (if lane.document.isSome then ⟨reply, (lane.conclude file reply).index⟩ :: endings
        else endings) := by
  split
  · rename_i opened
    refine ⟨agrees_conclude opened tallies.index reply _, rfl, fun closed => ?_⟩
    rw [document_conclude] at closed
    simp [closed] at opened
  · rename_i hidden
    -- nothing has ended since the document was closed, so there is no index left to evict
    have closed : lane.document = none := Option.not_isSome_iff_eq_none.mp hidden
    obtain rfl := tallies.closed closed
    rw [conclude_of_closed closed tallies.index]
    exact tallies

end Lane

namespace State

/-- How the runs of a file ended since its document was last closed, after one more action. -/
def note (state : State) (file : String) (endings : List Ending) (action : Action) :
    List Ending :=
  match state.incident? action file with
  | some (.event (.closed _)) => []
  | some (.concluded reply) =>
    if state.isOpen file then ⟨reply, (state.act action).cache.get? file⟩ :: endings else endings
  | _ => endings

/-- How the runs of a file ended while its document was open, since it was last closed and on top of
those that ended before. A run that is cancelled takes no reply in and does not count. -/
def endings (state : State) (file : String) (before : List Ending) : List Action → List Ending
  | [] => before
  | action :: rest => (state.act action).endings file (state.note file before action) rest

variable {state : State} {file : String} {before : List Ending}

/-- Every action keeps what can be seen of a file in agreement with how its runs ended. -/
theorem tallies_act (tallies : (state.lane file).Tallies file before)
    (punctual : Punctual file (state.desk [])) (action : Action) :
    ((state.act action).lane file).Tallies file (state.note file before action) := by
  have seen := lane_act punctual action
  unfold note
  cases found : state.incident? action file with
  | none =>
    rw [found, laneAfter, Option.elim_none] at seen
    rw [seen]
    exact tallies
  | some incident =>
    rw [found, laneAfter, Option.elim_some] at seen
    have left : (state.act action).cache.get? file =
        ((state.lane file).after file incident).index := congrArg Lane.index seen
    rw [seen, left]
    cases incident with
    | concluded reply => exact tallies.conclude reply
    | event event =>
      cases event with
      | closed => exact ⟨⟨rfl, rfl⟩, rfl, fun _ => rfl⟩
      | _ => exact tallies.after_of_quiet trivial
    | _ => exact tallies.after_of_quiet trivial

/-- Every interleaving that gives the file no generation by hand keeps the agreement. -/
theorem tallies_play {actions : List Action} (tallies : (state.lane file).Tallies file before)
    (punctual : Punctual file (state.desk [])) (moored : Moored (state.desk []))
    (undated : ∀ action ∈ actions, ¬action.Dates file) :
    ((state.play actions).lane file).Tallies file (state.endings file before actions) := by
  induction actions generalizing state before with
  | nil => exact tallies
  | cons action rest ih =>
    rw [List.forall_mem_cons] at undated
    exact ih (tallies_act tallies punctual action) (punctual_act punctual moored undated.1)
      (moored_act moored action) undated.2

/-- What is cached and published for a file is what the runs left that ended since its document was
last opened, if no run of it was given a generation by hand. -/
theorem diagnostics_agree_with_index (provider : SettingsProvider) (delay : Nat)
    (actions : List Action) (file : String) (undated : ∀ action ∈ actions, ¬action.Dates file) :
    (((initial provider delay).play actions).lane file).Agrees file
      ((initial provider delay).endings file [] actions) := by
  have start : ((initial provider delay).lane file).Tallies file [] :=
    ⟨⟨rfl, rfl⟩, rfl, fun _ => rfl⟩
  have moored := moored_play provider delay []
  exact (tallies_play start (punctual_initial provider delay) moored undated).agrees

/-- A document is opened and analyzed, and saved with a text of which the analyzer makes no tree. -/
def failing : List Action :=
  [.event (.opened "a.pl" "p" 0), .tick echo, .tick echo, .event (.saved "a.pl" (some "q(")),
    .tick fun _ => { result := .ok (.failed "no tree") }]

/-- How the run ends that reads the first text. -/
def readable : Ending where
  reply := echo { file := "a.pl", text := "p", settings := {} }
  left := some (echoed "p")

/-- How the run ends that reads the second text. -/
def unreadable : Ending where
  reply := { result := .ok (.failed "no tree") }
  left := some (echoed "p")

/-- The index of the text that can be read is published with its warning; it stays when a text
cannot be read, and the failure is published. -/
theorem diagnostics_agree_with_index_failing :
    (∀ action ∈ failing, ¬action.Dates "a.pl") ∧
      (((initial (.fixed {}) 500).play (failing.take 3)).lane "a.pl").index =
        some (echoed "p") ∧
      (((initial (.fixed {}) 500).play (failing.take 3)).lane "a.pl").published =
        [{ range := .point 0 0, message := "p", severity := .warning, source := "clauseindex" }] ∧
      (((initial (.fixed {}) 500).play failing).lane "a.pl").index = some (echoed "p") ∧
      (((initial (.fixed {}) 500).play failing).lane "a.pl").published =
        [{ range := .point 0 0, message := "no tree", severity := .error,
           source := "clauseindex" }] := by
  have undated : ∀ action ∈ failing, ¬action.Dates "a.pl" := by simp [failing, Action.Dates]
  have undated' : ∀ action ∈ failing.take 3, ¬action.Dates "a.pl" :=
    fun action inside => undated action (List.mem_of_mem_take inside)
  have first : (initial (.fixed {}) 500).endings "a.pl" [] (failing.take 3) = [readable] := by
    with_unfolding_all rfl
  have second : (initial (.fixed {}) 500).endings "a.pl" [] failing = [unreadable, readable] := by
    with_unfolding_all rfl
  have agrees := diagnostics_agree_with_index (.fixed {}) 500 (failing.take 3) "a.pl" undated'
  have agrees' := diagnostics_agree_with_index (.fixed {}) 500 failing "a.pl" undated
  rw [first] at agrees
  rw [second] at agrees'
  exact ⟨undated, agrees.1.trans (by decide +kernel), agrees.2.trans (by decide +kernel),
    agrees'.1, agrees'.2⟩

end State

end PredicateIndex.Pipeline
