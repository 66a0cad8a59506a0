import PredicateIndex.Proofs.Pipeline.Closing
import PredicateIndex.Proofs.Pipeline.Conclusion
import PredicateIndex.Proofs.Pipeline.Occasion

/-!
# Results that come after a document was closed

A run reads the text of its document in its first step and looks at its end whether the document is
open. It does not look whether the document was closed in between. So a run that read its text
before a document was closed leaves no trace if the document is still closed when the run ends; but
if the document was opened again, the run installs the index of the text that it read and publishes
its diagnostics, as if the document had never been closed.
-/
namespace PredicateIndex

/-- The tree in a reply of the analyzer. -/
def Reply.tree? (reply : Reply) : Option Tree :=
  match reply.result with
  | .ok outcome => outcome.tree
  | .error _ => none

namespace Pipeline

/-- What a run can be at that has read a text. -/
inductive Phase.HasRead (file text : String) : Phase → Prop where
  /-- It waits for its settings. -/
  | asking (away : Nat) : HasRead file text (.asking file text away)
  /-- It has its settings. -/
  | informed (away : Nat) (answer : SettingsAnswer) :
    HasRead file text (.informed file text away answer)
  /-- It waits for the analyzer. -/
  | calling (call : AnalyzerCall) (own : call.file = file) (same : call.text = text) :
    HasRead file text (.calling call)
  /-- The analyzer has an answer for it. -/
  | answered (call : AnalyzerCall) (own : call.file = file) (same : call.text = text) :
    HasRead file text (.answered call)
  /-- It ends in its next step. -/
  | ending (result : Result) : HasRead file text (.ending result)
  /-- It has ended. -/
  | ended (result : Result) : HasRead file text (.ended result)

/-- A run that has read a text stays one when it gets an answer. -/
theorem Phase.HasRead.steady (file text : String) : Phase.Steady (HasRead file text) := by
  constructor
  case informed =>
    rintro asked read away answer ⟨⟩
    exact .informed away answer
  case answered =>
    rintro call (⟨⟩ | ⟨⟩ | ⟨_, own, same⟩)
    exact .answered call own same
  case told => nofun
  case fewer => nofun
  case drained => nofun

namespace State

variable {state : State} {file text : String} {run : TaskId} {call : AnalyzerCall}
  {generation : Option Int}

/-- The next piece of work is the last step of a run: its call has been answered, or it makes the
call and the analyzer answers at once. -/
structure Concludes (state : State) (file : String) (generation : Option Int) (run : TaskId)
    (call : AnalyzerCall) : Prop where
  /-- The run takes its step next. -/
  next : state.queue.head? = some (.step run)
  /-- It is a run of the file under the generation, and the answer to its call is there. -/
  replied : ∃ t, state.task? run = some t ∧ t.job = .run file generation ∧
    (t.phase = .answered call ∨
      state.runCall? file t.phase = some call ∧ ¬state.held.contains call.file)

/-- A run read the document of a file, then the document was closed, and after some further actions
the run comes to its end with a call. -/
structure Outlives (start : State) (actions since : List Action) (file : String)
    (generation : Option Int) (run : TaskId) (text : String) (call : AnalyzerCall) : Prop where
  /-- The run read the document before it was closed. -/
  read : ∃ past reader waiting,
    actions = past ++ .tick reader :: (waiting ++ .event (.closed file) :: since) ∧
      (start.play past).Reads file run text
  /-- The run ends after all actions. -/
  ends : (start.play actions).Concludes file generation run call

/-- A run that has read its document has done so afterwards. -/
theorem Reads.stands (reads : state.Reads file run text) (analyzer : Analyzer) :
    ∃ generation,
      (tick analyzer state).Stands run (.run file generation) (Phase.HasRead file text) := by
  obtain ⟨next, ⟨t, known, fresh, generation, job⟩, document, opened, rfl⟩ := reads
  obtain ⟨rest, queue⟩ := List.head?_eq_some_iff.mp next
  have found : ({ state with queue := rest } : State).task? run = some t := known
  refine ⟨generation, ?_⟩
  simp only [tick, queue, execute, found, stepTask, fresh, begin, job, opened, consult]
  split
  · rw [State.call]
    split
    · rw [← job]
      exact stands_setPhase known (.calling _ rfl rfl)
    · simp only [answer]
      obtain ⟨cache, published, journal, frame⟩ := conclude_frame _ file generation _
      rw [frame, ← job]
      exact stands_setPhase known (.ended _)
  · rw [← job]
    exact stands_setPhase known (.asking _)

/-- A run that has read a text has read it for good, and sends it to the analyzer. -/
theorem play_of_hasRead (stands : state.Stands run (.run file generation)
    (Phase.HasRead file text)) (actions : List Action) :
    (state.play actions).Stands run (.run file generation) (Phase.HasRead file text) := by
  induction actions generalizing state with
  | nil => exact stands
  | cons action rest ih =>
    have begun : ¬Phase.HasRead file text .fresh := nofun
    have calls : ∀ (s : State) {asked read : String} {away : Nat} {answer : SettingsAnswer},
        Phase.HasRead file text (.informed asked read away answer) →
        Phase.HasRead file text (.calling
          ⟨asked, s.textFor (.run file generation) asked read away, answer.settings⟩) := by
      rintro s asked read away answer ⟨⟩
      exact .calling _ rfl rfl
    exact ih (stands.act_of_begun (Phase.HasRead.steady file text) begun calls .ended (.ending _)
      action)

/-- A run that comes to its end takes the reply in. -/
theorem Concludes.takes (concludes : state.Concludes file generation run call)
    (analyzer : Analyzer) : state.Takes analyzer run file generation (analyzer call) := by
  obtain ⟨next, t, known, job, answered | ⟨makes, free⟩⟩ := concludes
  · refine ⟨next, t, known, job, ?_⟩
    rw [answered]
    rfl
  · refine ⟨next, t, known, job, ?_⟩
    rw [reply?_of_runCall? makes, if_neg free]

/-- A run of an open document that is broken off publishes once. -/
theorem publications_concludeCrash (opened : state.isOpen file) (crash : Crash) :
    (state.concludeCrash file crash).publications =
      state.publications ++ [(file, [internalDiagnostic crash])] := by
  have evicted : ((state.reportInRun (.internalError file)).evict file).isOpen file := by
    rw [isOpen_evict]
    exact opened
  have published : (state.concludeCrash file crash).shelf =
      { state.shelf with cache := state.cache.evict file }.publish file
        [internalDiagnostic crash] := by
    rw [concludeCrash, if_pos evicted, shelf_publish, shelf_evict, shelf_reportInRun]
    rfl
  exact congrArg Shelf.publications published

/-- An outcome for an open document is published once unless its tree is superseded. -/
theorem publications_concludeOutcome (opened : state.isOpen file) {outcome : Outcome}
    (taken : state.cache.isStale file generation → outcome.tree = none) :
    ∃ diagnostics, (state.concludeOutcome file generation outcome).2.publications =
      state.publications ++ [(file, diagnostics)] := by
  rw [concludeOutcome, if_pos opened]
  cases parsed : outcome.tree with
  | none =>
    have published := (shelf_reportInRun (state.publish file (forEditor outcome.diagnostics))
      (.toolFailed file outcome.error)).trans (shelf_publish state file _)
    exact ⟨_, congrArg Shelf.publications published⟩
  | some tree =>
    have timely : state.cache.isStale file generation = false := by
      rw [← Bool.not_eq_true]
      intro stale
      cases (taken stale).symm.trans parsed
    have reported := shelf_reports state .indexing tree.notices
    simp only
    generalize tree.notices.foldl (fun s notice => s.reportInRun (.indexing notice)) state = other
      at reported
    have current : other.cache.isStale file generation = false :=
      (congrArg (fun shelf => shelf.cache.isStale file generation) reported).trans timely
    exact ⟨_, (congrArg Shelf.publications (shelf_install current _)).trans
      (congrArg (fun shelf => shelf.publications ++ _) reported)⟩

/-- A run of an open document publishes once unless its tree is superseded. -/
theorem publications_conclude (opened : state.isOpen file) {reply : Reply}
    (taken : state.cache.isStale file generation → reply.tree? = none) :
    ∃ diagnostics, (state.conclude file generation reply).2.publications =
      state.publications ++ [(file, diagnostics)] := by
  have reported := shelf_reports state .analyzer reply.notices
  rw [conclude]
  generalize reply.notices.foldl (fun s notice => s.reportInRun (.analyzer notice)) state = other
    at reported
  have still : other.isOpen file :=
    (congrArg (fun shelf => (shelf.documents.get? file).isSome) reported).trans opened
  have same : other.publications = state.publications := congrArg Shelf.publications reported
  have stale : other.cache.isStale file generation = state.cache.isStale file generation :=
    congrArg (fun shelf => shelf.cache.isStale file generation) reported
  cases answered : reply.result with
  | error crash => exact ⟨_, same ▸ publications_concludeCrash still crash⟩
  | ok outcome =>
    rw [← same]
    refine publications_concludeOutcome still fun superseded => ?_
    have nothing := taken (stale ▸ superseded)
    rwa [Reply.tree?, answered] at nothing

/-- A run whose tree is superseded leaves the shelf. -/
theorem shelf_conclude_of_stale {reply : Reply} (parsed : reply.tree? ≠ none)
    (stale : state.cache.isStale file generation) :
    (state.conclude file generation reply).2.shelf = state.shelf := by
  have reported := shelf_reports state .analyzer reply.notices
  rw [conclude]
  generalize reply.notices.foldl (fun s notice => s.reportInRun (.analyzer notice)) state = other
    at reported
  have superseded : other.cache.isStale file generation :=
    (congrArg (fun shelf => shelf.cache.isStale file generation) reported).trans stale
  rw [Reply.tree?] at parsed
  cases answered : reply.result with
  | error crash => simp [answered] at parsed
  | ok outcome =>
    rw [← reported]
    simp only [concludeOutcome]
    split
    · cases found : outcome.tree with
      | none => simp [answered, found] at parsed
      | some tree =>
        have noticed := shelf_reports other .indexing tree.notices
        have still := (congrArg (fun shelf => shelf.cache.isStale file generation) noticed).trans
          superseded
        simp only
        rw [install_of_stale still, noticed]
    · rfl

/-- The end of a run publishes something for its file exactly if the document is open and no tree of
the reply is superseded. -/
theorem publicationsOf_conclude_ne_iff (state : State) (file : String) (generation : Option Int)
    (reply : Reply) :
    (state.conclude file generation reply).2.publicationsOf file ≠ state.publicationsOf file ↔
      state.isOpen file ∧ (state.cache.isStale file generation → reply.tree? = none) := by
  constructor
  · intro published
    by_contra hidden
    refine published ?_
    by_cases opened : state.isOpen file
    · simp only [opened, true_and, Classical.not_imp] at hidden
      have same : (state.conclude file generation reply).2.publications = state.publications :=
        congrArg Shelf.publications (shelf_conclude_of_stale hidden.2 hidden.1)
      rw [publicationsOf, same, publicationsOf]
    · exact publicationsOf_eq_of_deeds (deeds_conclude state file generation reply)
        (by simpa using opened)
  · rintro ⟨opened, taken⟩
    obtain ⟨diagnostics, published⟩ := publications_conclude opened taken
    simp [publicationsOf, published]

/-- The run ends with the answer to a call for the text that it read before its document was
closed. -/
theorem Outlives.sent {start : State} {actions since : List Action}
    (outlives : Outlives start actions since file generation run text call) :
    call.file = file ∧ call.text = text := by
  obtain ⟨⟨past, reader, waiting, rfl, reads⟩, -, t, known, job, replied⟩ := outlives
  obtain ⟨began, read⟩ := reads.stands reader
  have stands := play_of_hasRead read (waiting ++ .event (.closed file) :: since)
  rw [play_append, play_cons] at known replied
  obtain ⟨u, found, -, at_⟩ := stands
  obtain rfl : t = u := Option.some.inj (known.symm.trans found)
  rcases replied with answered | ⟨makes, -⟩
  · rw [answered] at at_
    cases at_ with
    | answered _ own same => exact ⟨own, same⟩
  · generalize t.phase = phase at at_ makes
    cases at_ <;> cases makes
    exact ⟨rfl, rfl⟩

/-- A document that is open when the run ends was opened again. -/
theorem Outlives.reopened {start : State} {actions since : List Action}
    (outlives : Outlives start actions since file generation run text call)
    (opened : (start.play actions).isOpen file) : ∃ action ∈ since, action.SetsText file := by
  obtain ⟨⟨past, reader, waiting, rfl, -⟩, -⟩ := outlives
  by_contra untouched
  push Not at untouched
  rw [play_append, play_cons, play_append, play_cons,
    isOpen_play_eq_false (isOpen_act_closed _ file) untouched] at opened
  cases opened

/-- A run that read a document before it was closed publishes something after that exactly if the
document is open again when it ends and the tree that it brings is not superseded. It leaves nothing
in the cache if the document is closed, and else the index of the text that it read. -/
theorem revived_iff_reopened (provider : SettingsProvider) (delay : Nat)
    (actions since : List Action) (file : String) (generation : Option Int) (run : TaskId)
    (text : String) (call : AnalyzerCall)
    (outlives : Outlives (initial provider delay) actions since file generation run text call)
    (analyzer : Analyzer) :
    (call.file = file ∧ call.text = text) ∧
    (((initial provider delay).play actions).isOpen file →
      ∃ action ∈ since, action.SetsText file) ∧
    ((tick analyzer ((initial provider delay).play actions)).publicationsOf file ≠
        ((initial provider delay).play actions).publicationsOf file ↔
      ((initial provider delay).play actions).isOpen file ∧
        (((initial provider delay).play actions).cache.isStale file generation →
          (analyzer call).tree? = none)) ∧
    (((initial provider delay).play actions).isOpen file = false →
      (tick analyzer ((initial provider delay).play actions)).cache.get? file = none) ∧
    (((initial provider delay).play actions).isOpen file →
      ((initial provider delay).play actions).cache.isStale file generation = false →
      ∀ outcome tree, (analyzer call).result = .ok outcome → outcome.tree = some tree →
        (tick analyzer ((initial provider delay).play actions)).cache.get? file =
          some { tree.index (some file) with
            diagnostics := (tree.index (some file)).diagnostics ++ outcome.diagnostics }) := by
  have opening := outlives.reopened
  have takes := outlives.ends.takes analyzer
  have tidy := tidy_play provider delay (actions ++ [.tick analyzer]) file
  rw [play_snoc] at tidy
  refine ⟨outlives.sent, opening, ?_⟩
  generalize (initial provider delay).play actions = state at *
  refine ⟨?_, fun closed => ?_, fun opened timely outcome tree replied parsed => ?_⟩
  · rw [← publicationsOf_conclude_ne_iff state file generation (analyzer call)]
    have same : (tick analyzer state).publicationsOf file =
        (state.conclude file generation (analyzer call)).2.publicationsOf file :=
      congrArg (fun shelf => (shelf.publications.filter fun publication =>
        publication.1 == file).map Prod.snd)
        (takes.shelf_tick.trans (shelf_conclude state file generation (analyzer call)).symm)
    rw [same]
  · have still := isOpen_act_eq_false state closed (id : ¬(Action.tick analyzer).SetsText file)
    rw [← Option.not_isSome_iff_eq_none]
    intro found
    exact absurd ((tidy (.index found)).symm.trans still) (by simp)
  · have offers : state.Offers analyzer run file generation _ :=
      ⟨_, outcome, tree, takes, opened, replied, parsed, rfl⟩
    exact congrArg Slot.index (offers.slot_tick timely)

/-- A document is opened while the analyzer is held back, closed, and opened again with a new text
before the analyzer answers. -/
def reopening : List Action :=
  [.hold "a.pl", .event (.opened "a.pl" "p" 0), .tick echo, .event (.closed "a.pl"),
    .event (.opened "a.pl" "q" 1), .release "a.pl"]

/-- The call that reads the old text. -/
def oldCall : AnalyzerCall where
  file := "a.pl"
  text := "p"
  settings := {}

/-- The run that read the old text ends when the document has been opened again. -/
theorem outlives_reopening :
    Outlives (initial (.fixed {}) 500) reopening (reopening.drop 4) "a.pl" (some 1) 0 "p"
      oldCall where
  read := ⟨reopening.take 2, _, [], rfl, rfl, ⟨_, rfl, rfl, some 1, rfl⟩, _, rfl, rfl⟩
  ends := ⟨rfl, _, rfl, rfl, .inl rfl⟩

/-- The document holds the new text, and the index of the old text is installed and published. -/
theorem revived_iff_reopened_reopening :
    Outlives (initial (.fixed {}) 500) reopening (reopening.drop 4) "a.pl" (some 1) 0 "p" oldCall ∧
      (((initial (.fixed {}) 500).play reopening).documents.get? "a.pl").map Document.text =
        some "q" ∧
      (tick echo ((initial (.fixed {}) 500).play reopening)).publicationsOf "a.pl" ≠
        ((initial (.fixed {}) 500).play reopening).publicationsOf "a.pl" ∧
      (tick echo ((initial (.fixed {}) 500).play reopening)).cache.get? "a.pl" =
        some (echoed "p") := by
  obtain ⟨-, -, publishes, -, installs⟩ := revived_iff_reopened (.fixed {}) 500 reopening
    (reopening.drop 4) "a.pl" (some 1) 0 "p" oldCall outlives_reopening echo
  refine ⟨outlives_reopening, rfl, publishes.mpr ⟨rfl, nofun⟩,
    (installs rfl rfl _ _ rfl rfl).trans ?_⟩
  decide +kernel

/-- Not every run that read a document before it was closed leaves the cache and the diagnostics of
the file alone after that. -/
theorem not_forall_outlives_silent :
    ¬∀ (provider : SettingsProvider) (delay : Nat) (actions since : List Action) (file : String)
      (generation : Option Int) (run : TaskId) (text : String) (call : AnalyzerCall),
      Outlives (initial provider delay) actions since file generation run text call →
      ∀ analyzer,
        (tick analyzer ((initial provider delay).play actions)).cache.get? file =
          ((initial provider delay).play actions).cache.get? file ∧
        (tick analyzer ((initial provider delay).play actions)).publicationsOf file =
          ((initial provider delay).play actions).publicationsOf file := by
  intro silent
  have same := (silent (.fixed {}) 500 reopening (reopening.drop 4) "a.pl" (some 1) 0 "p" oldCall
    outlives_reopening echo).1
  have installed : ((tick echo ((initial (.fixed {}) 500).play reopening)).cache.get?
    "a.pl").isSome := by decide +kernel
  rw [same] at installed
  cases installed

end State

end Pipeline

end PredicateIndex
