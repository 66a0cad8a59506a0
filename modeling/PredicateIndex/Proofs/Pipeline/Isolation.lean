import PredicateIndex.Proofs.Pipeline.Lane
import PredicateIndex.Proofs.Pipeline.Reopening

/-!
# Files do not interfere

The counter of generations, the cache, the runs in flight and the waiting requests are shared by all
files, yet what can be seen of one file does not show what was done for the others. Two
interleavings that agree on what happened to the file leave it alike. The generation of a run that
is started by hand is the one thing that breaks this: it is compared with generations that were
counted over all files.
-/
namespace PredicateIndex.Pipeline.State

/-- Two interleavings with the same incidents of a file leave the same to be seen of it, if no run
of the file was given a generation by hand. -/
theorem files_do_not_interfere (provider provider' : SettingsProvider) (delay delay' : Nat)
    (actions actions' : List Action) (file : String)
    (undated : ∀ action ∈ actions, ¬action.Dates file)
    (undated' : ∀ action ∈ actions', ¬action.Dates file)
    (agree : (initial provider delay).history file actions =
      (initial provider' delay').history file actions') :
    ((initial provider delay).play actions).lane file =
      ((initial provider' delay').play actions').lane file := by
  have moored := fun provider delay => moored_play provider delay []
  calc ((initial provider delay).play actions).lane file
    _ = ((initial provider delay).history file actions).foldl (Lane.after file)
          ((initial provider delay).lane file) :=
      lane_play (punctual_initial provider delay) (moored provider delay) undated
    _ = ((initial provider' delay').history file actions').foldl (Lane.after file)
          ((initial provider' delay').lane file) := by
      rw [agree]
      rfl
    _ = ((initial provider' delay').play actions').lane file :=
      (lane_play (punctual_initial provider' delay') (moored provider' delay') undated').symm

/-- A document is opened, analyzed and changed. -/
def alone : List Action :=
  [.event (.opened "a.pl" "p." 0), .tick echo, .tick echo, .event (.changed "a.pl" "q." none)]

/-- The same among other files: one whose run is cancelled, and one that is analyzed by hand under a
generation far ahead and closed. -/
def crowded : List Action :=
  [.event (.opened "b.pl" "r." 0), .cancel 0, .ask (.run "c.pl" (some 7)),
    .event (.opened "c.pl" "s." 3), .event (.opened "a.pl" "p." 0), .tick echo, .tick echo,
    .event (.changed "c.pl" "t." none), .tick echo, .tick echo, .event (.closed "c.pl"),
    .tick echo, .tick echo, .tick echo, .tick echo, .tick echo, .event (.changed "a.pl" "q." none)]

/-- A document that is alone and one among others are seen alike. -/
theorem files_do_not_interfere_crowded :
    (initial (.fixed {}) 500).history "a.pl" alone =
        (initial (.fixed {}) 0).history "a.pl" crowded ∧
      ((initial (.fixed {}) 500).play alone).lane "a.pl" =
        ((initial (.fixed {}) 0).play crowded).lane "a.pl" := by
  have agree : (initial (.fixed {}) 500).history "a.pl" alone =
      (initial (.fixed {}) 0).history "a.pl" crowded := by with_unfolding_all rfl
  refine ⟨agree, files_do_not_interfere _ _ _ _ alone crowded "a.pl" ?_ ?_ agree⟩
  · simp [alone, Action.Dates]
  · simp [crowded, Action.Dates]

/-- A document is opened and analyzed, changed, and analyzed again by hand under the generation that
comes next where there are no other files. -/
def ahead : List Action :=
  alone ++ [.ask (.run "a.pl" (some 2)), .tick echo]

/-- Two other documents are opened and analyzed. -/
def earlier : List Action :=
  [.event (.opened "b.pl" "r." 0), .tick echo, .tick echo,
    .event (.opened "c.pl" "s." 0), .tick echo, .tick echo]

/-- A generation that is given by hand can come in time where the file is alone and too late where
other files were analyzed before it. -/
theorem not_forall_files_do_not_interfere :
    ¬∀ (provider provider' : SettingsProvider) (delay delay' : Nat)
      (actions actions' : List Action) (file : String),
      (initial provider delay).history file actions =
        (initial provider' delay').history file actions' →
      ((initial provider delay).play actions).lane file =
        ((initial provider' delay').play actions').lane file := by
  intro isolated
  -- the first run of the file has generation 1 where it is alone and 3 after two other files
  have agree : (initial (.fixed {}) 500).history "a.pl" ahead =
      (initial (.fixed {}) 500).history "a.pl" (earlier ++ ahead) := by with_unfolding_all rfl
  have alike := isolated (.fixed {}) (.fixed {}) 500 500 ahead (earlier ++ ahead) "a.pl" agree
  have messages := congrArg (fun lane => lane.published.map EditorDiagnostic.message) alike
  have new : (((initial (.fixed {}) 500).play ahead).lane "a.pl").published.map
      EditorDiagnostic.message = ["q."] := by decide +kernel
  have old : (((initial (.fixed {}) 500).play (earlier ++ ahead)).lane "a.pl").published.map
      EditorDiagnostic.message = ["p."] := by decide +kernel
  exact absurd (new.symm.trans (messages.trans old)) (by decide)

end PredicateIndex.Pipeline.State
