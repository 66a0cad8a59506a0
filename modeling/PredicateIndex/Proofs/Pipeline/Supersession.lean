import PredicateIndex.Proofs.Cache.Chronicle
import PredicateIndex.Proofs.Pipeline.Conclusion

/-!
# What a late run can do

Runs that are started by hand may end in any order. Once one of them has installed its index, a run
of the same file under an older generation that ends later should change nothing. If it brings a
tree, this is so: the recorded generation does not go down until the entry is dropped, so the tree
comes too late and nothing is published for it. But only the installation looks at the generation. A
late run whose analysis failed publishes its own diagnostics over those of the newer run, and one
that was broken off also evicts the newer index together with the recorded generation.
-/
namespace PredicateIndex.Pipeline.State

variable {state : State} {file : String}

/-- An action that does not drop the entry of a file does not lower its recorded generation. -/
theorem generation_act_of_kept {action : Action} {earlier : Int}
    (kept : ¬state.Evicts file action) (recorded : state.cache.generation? file = some earlier) :
    ∃ later, (state.act action).cache.generation? file = some later ∧ earlier ≤ later := by
  rcases cache_act state action with same | ⟨evicted, evicts, dropped⟩ |
    ⟨analyzer, run, offered, generation, index, rfl, offers⟩
  · rw [same]
    exact ⟨earlier, recorded, Int.le_refl _⟩
  · have other : ¬(Cache.Operation.evict evicted).Drops file := by
      rintro rfl
      exact kept evicts
    rw [dropped]
    exact Cache.generation_of_kept other recorded
  · have other : ¬(Cache.Operation.install offered index generation).Drops file := id
    rw [act, offers.cache_tick]
    exact Cache.generation_of_kept other recorded

/-- As long as nothing drops the entry of a file, an open document stays open and the recorded
generation does not go down. -/
theorem upheld_play {actions : List Action} {earlier : Int}
    (kept : ∀ before action rest, Occurs state actions before action rest →
      ¬before.Evicts file action)
    (opened : state.isOpen file) (recorded : state.cache.generation? file = some earlier) :
    (state.play actions).isOpen file ∧
      ∃ later, (state.play actions).cache.generation? file = some later ∧ earlier ≤ later := by
  induction actions generalizing state earlier with
  | nil => exact ⟨opened, earlier, recorded, Int.le_refl _⟩
  | cons action rest ih =>
    have now : ¬state.Evicts file action := kept state action rest ⟨[], rfl, rfl⟩
    have later : ∀ before next after, Occurs (state.act action) rest before next after →
        ¬before.Evicts file next := by
      rintro before next after ⟨past, rfl, rfl⟩
      exact kept _ next after ⟨action :: past, rfl, rfl⟩
    have still : (state.act action).isOpen file := by
      refine isOpen_act state opened ?_
      rintro rfl
      exact now .closed
    obtain ⟨between, recorded, bound⟩ := generation_act_of_kept now recorded
    obtain ⟨shown, last, recorded, further⟩ := ih later still recorded
    exact ⟨shown, last, recorded, Int.le_trans bound further⟩

/-- A run has just installed an index of a file under a generation, and after some further actions
that do not drop the entry of the file a run of it under an older generation takes a reply in. -/
structure Overtaken (start : State) (between : List Action) (file : String) (newer older : Int)
    (analyzer : Analyzer) (reply : Reply) : Prop where
  /-- The index was installed under the newer generation. -/
  installed : ∃ before first winner index, start = tick first before ∧
    before.Offers first winner file (some newer) index ∧
    before.cache.isStale file (some newer) = false
  /-- The entry of the file is not dropped in between. -/
  kept (before : State) (action : Action) (rest : List Action) :
    Occurs start between before action rest → ¬before.Evicts file action
  /-- The run under the older generation takes the reply in. -/
  late : ∃ run, (start.play between).Takes analyzer run file (some older) reply
  /-- Its generation is older. -/
  behind : older < newer

/-- When an overtaken run ends, the document is open and a newer generation is recorded. -/
theorem Overtaken.upheld {start : State} {between : List Action} {newer older : Int}
    {analyzer : Analyzer} {reply : Reply}
    (overtaken : Overtaken start between file newer older analyzer reply) :
    (start.play between).isOpen file ∧
      ∃ recorded, (start.play between).cache.generation? file = some recorded ∧
        newer ≤ recorded := by
  obtain ⟨before, first, winner, index, rfl, offers, timely⟩ := overtaken.installed
  have recorded : (tick first before).cache.generation? file = some newer :=
    congrArg Slot.generation (offers.slot_tick timely)
  have unclosed : Action.tick first ≠ .event (.closed file) := nofun
  obtain ⟨reply, outcome, tree, -, opened, -⟩ := offers
  exact upheld_play overtaken.kept (isOpen_act before opened unclosed) recorded

/-- When a run ends after a newer one has installed its index, the recorded generation is still at
least that of the newer run, unless the entry was dropped. If the late run brings a tree, nothing
changes for readers; if its analysis failed, its diagnostics are published and the cache stays; and
if it was broken off, the newer index and its generation are dropped and one error is published. -/
theorem late_run_effects (start : State) (between : List Action) (file : String)
    (newer older : Int) (analyzer : Analyzer) (reply : Reply)
    (overtaken : Overtaken start between file newer older analyzer reply) :
    (∃ recorded, (start.play between).cache.generation? file = some recorded ∧
      newer ≤ recorded) ∧
    (∀ outcome tree, reply.result = .ok outcome → outcome.tree = some tree →
      (tick analyzer (start.play between)).shelf = (start.play between).shelf) ∧
    (∀ outcome, reply.result = .ok outcome → outcome.tree = none →
      (tick analyzer (start.play between)).shelf =
        (start.play between).shelf.publish file
          (outcome.diagnostics.map (·.toEditor "clauseindex"))) ∧
    ∀ crash, reply.result = .error crash →
      (tick analyzer (start.play between)).shelf =
        { (start.play between).shelf with
          cache := (start.play between).cache.evict file }.publish file
            [{ range := .point 0 0, severity := .error, source := "clauseindex",
               message := (Failure.internal crash.message []).message }] := by
  obtain ⟨opened, recorded, known, bound⟩ := overtaken.upheld
  obtain ⟨run, late⟩ := overtaken.late
  have effect := late.shelf_tick
  have present : ((start.play between).shelf.documents.get? file).isSome := opened
  have stale : (start.play between).shelf.cache.isStale file (some older) := by
    have number : (start.play between).shelf.cache.generation? file = some recorded := known
    have behind := overtaken.behind
    simp only [Cache.isStale, number, decide_eq_true_eq]
    omega
  rw [Shelf.conclude] at effect
  refine ⟨⟨recorded, known, bound⟩, ?_, ?_, ?_⟩
  · intro outcome tree replied parsed
    simpa only [replied, parsed, present, stale, if_true] using effect
  · intro outcome replied failed
    simp only [replied, failed, present, if_true] at effect
    exact effect
  · intro crash replied
    simp only [replied, present, if_true] at effect
    exact effect

/-- A document is open and analyzed, a run under generation 10 and one under generation 9 are
started by hand, and the first of them ends. -/
def rivals : List Action :=
  [.event (.opened "a.pl" "p." 0), .tick blank, .tick blank, .ask (.run "a.pl" (some 10)),
    .ask (.run "a.pl" (some 9)), .tick blank]

/-- The run under generation 9 ends after that under generation 10, whatever the analyzer
answers. -/
theorem overtaken_rivals (analyzer : Analyzer) :
    Overtaken ((initial (.fixed {}) 500).play rivals) [] "a.pl" 10 9 analyzer
      (analyzer { file := "a.pl", text := "p.", settings := {} }) where
  installed := ⟨(initial (.fixed {}) 500).play (rivals.take 5), blank, 1, _, rfl,
    ⟨_, _, {}, ⟨rfl, _, rfl, rfl, rfl⟩, rfl, rfl, rfl, rfl⟩, rfl⟩
  kept before action rest occurs := by
    obtain ⟨past, split, -⟩ := occurs
    simp at split
  late := ⟨2, rfl, _, rfl, rfl, rfl⟩
  behind := by decide

/-- An analyzer that fails. -/
def refusing : Analyzer := fun _ => { result := .ok (.failed "bad") }

/-- An analyzer that is broken off. -/
def collapsing : Analyzer := fun _ => { result := .error (.analyzer "boom") }

/-- A late tree changes nothing, a late failure is published beside the newer index, and a late
crash leaves nothing of the newer index. -/
theorem late_run_effects_rivals :
    ((initial (.fixed {}) 500).play rivals).cache.generation? "a.pl" = some 10 ∧
      (tick blank ((initial (.fixed {}) 500).play rivals)).shelf =
        ((initial (.fixed {}) 500).play rivals).shelf ∧
      (tick refusing ((initial (.fixed {}) 500).play rivals)).shelf =
        ((initial (.fixed {}) 500).play rivals).shelf.publish "a.pl"
          [{ range := .point 0 0, severity := .error, source := "clauseindex", message := "bad" }] ∧
      (tick collapsing ((initial (.fixed {}) 500).play rivals)).cache.get? "a.pl" = none := by
  have effects := fun analyzer => late_run_effects ((initial (.fixed {}) 500).play rivals) []
    "a.pl" 10 9 analyzer _ (overtaken_rivals analyzer)
  refine ⟨rfl, (effects blank).2.1 _ {} rfl rfl, (effects refusing).2.2.1 _ rfl rfl, ?_⟩
  exact congrArg (fun shelf => shelf.cache.get? "a.pl") ((effects collapsing).2.2.2 _ rfl)

/-- Not every run that ends after a newer one has installed its index leaves the cache and the
diagnostics of the file alone. -/
theorem not_forall_overtaken_silent :
    ¬∀ (start : State) (between : List Action) (file : String) (newer older : Int)
      (analyzer : Analyzer) (reply : Reply),
      Overtaken start between file newer older analyzer reply →
      (tick analyzer (start.play between)).cache.get? file =
          (start.play between).cache.get? file ∧
        (tick analyzer (start.play between)).cache.generation? file =
          (start.play between).cache.generation? file ∧
        (tick analyzer (start.play between)).published.get? file =
          (start.play between).published.get? file := by
  intro silent
  have same := (silent _ [] "a.pl" 10 9 collapsing _ (overtaken_rivals collapsing)).2.1
  have recorded : ((initial (.fixed {}) 500).play rivals).cache.generation? "a.pl" = some 10 :=
    rfl
  have gone : (tick collapsing ((initial (.fixed {}) 500).play rivals)).cache.generation?
    "a.pl" = none := rfl
  cases (gone.symm.trans same).trans recorded

end PredicateIndex.Pipeline.State
