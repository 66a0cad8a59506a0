import PredicateIndex.Proofs.Pipeline.Closing
import PredicateIndex.Proofs.Pipeline.Conclusion
import PredicateIndex.Proofs.Pipeline.Promptness
import PredicateIndex.Proofs.Pipeline.Supersession

/-!
# How a run ends

A run may wait twice, for its settings and for the analyzer, and either answer may be a value or a
failure. If it is not cancelled it always comes to its end with an index or without one, and its
last step does exactly one of five things. For a document that is not open it does nothing, also where the
analyzer was broken off: of a closed document nothing is kept, so there is nothing to evict. An
outcome without a tree is published and leaves the whole cache. An analysis that was broken off
drops the entry of the file and publishes one error. A tree is installed and published, or does
nothing if a newer generation is there; an index is there then, since generations are recorded
together with indexes.
-/
namespace PredicateIndex.Pipeline

/-- How a run ends. -/
inductive Verdict where
  /-- The document is not open. -/
  | closed
  /-- The analyzer gave an outcome without a tree. -/
  | failed (outcome : Outcome)
  /-- The analysis was broken off. -/
  | brokenOff (crash : Crash)
  /-- The index of the tree is installed. -/
  | installed (index : FileIndex)
  /-- The index of the tree comes too late. -/
  | superseded

/-- What a run of a file under a generation does to the shelf when it ends, and the index that it
ends with. -/
inductive Aftermath (before after : Shelf) (file : String) (generation : Option Int) :
    Verdict → Option FileIndex → Prop where
  /-- Nothing changes where the document is not open. -/
  | closed (absent : before.documents.get? file = none) (cache : after.cache = before.cache)
    (published : after.published = before.published) :
    Aftermath before after file generation .closed none
  /-- Only the diagnostics of the file are replaced, by those of the outcome. -/
  | failed (outcome : Outcome) (failed : outcome.tree = none) (cache : after.cache = before.cache)
    (published : (after.published.get? file).getD [] =
      outcome.diagnostics.map (·.toEditor "clauseindex"))
    (others : after.published.remove file = before.published.remove file) :
    Aftermath before after file generation (.failed outcome) none
  /-- The entry of the file and its generation are dropped, and its diagnostics are replaced by one
  error. -/
  | brokenOff (crash : Crash) (cache : after.cache = before.cache.evict file)
    (published : (after.published.get? file).getD [] =
      [{ range := .point 0 0, message := "Internal analysis error: " ++ crash.message,
         severity := .error, source := "clauseindex" }])
    (others : after.published.remove file = before.published.remove file) :
    Aftermath before after file generation (.brokenOff crash) none
  /-- The entry of the file, its generation and its diagnostics are replaced. -/
  | installed (index : FileIndex)
    (slot : after.cache.slot file =
      { index := some index, generation := generation.or (before.cache.generation? file) })
    (otherwise : after.cache.evict file = before.cache.evict file)
    (published : (after.published.get? file).getD [] =
      index.diagnostics.map (·.toEditor "clauseindex"))
    (others : after.published.remove file = before.published.remove file) :
    Aftermath before after file generation (.installed index) (some index)
  /-- Nothing changes where a newer generation is recorded, and the cached index is found. -/
  | superseded (cached : FileIndex) (stale : before.cache.isStale file generation)
    (found : before.cache.get? file = some cached) (cache : after.cache = before.cache)
    (published : after.published = before.published) :
    Aftermath before after file generation .superseded (some cached)

/-- The phases of a task that has not ended and was not cancelled. -/
def Phase.Underway : Phase → Prop
  | .ended _ | .ending .cancelled => False
  | _ => True

/-- The phases of a run that was not cancelled, also when it has ended; the number is that of the
answers that it may still have to wait for, first that of the provider and then the analyzer's. -/
def Phase.Unbroken (answers : Nat) : Phase → Prop
  | .fresh | .asking .. => 2 ≤ answers
  | .informed .. | .calling _ => 1 ≤ answers
  | .answered _ | .ended (.index _) => True
  | _ => False

/-- The phases in which a run waits for an answer. -/
def Phase.Waits : Phase → Prop
  | .asking .. | .calling _ => True
  | _ => False

/-- A run that was not cancelled is not broken by what the others do. -/
theorem Phase.steady_unbroken (answers : Nat) : Phase.Steady (Phase.Unbroken answers) := by
  constructor <;> simp [Phase.Unbroken]
  omega

/-- The others do not end a task. -/
theorem Phase.steady_unfinished : Phase.Steady fun phase => ∀ result, phase ≠ .ended result := by
  constructor <;> simp

namespace Shelf

variable {shelf shelf' : Shelf} {file : String} {generation : Option Int}

/-- How a run ends that takes a reply in. -/
def verdict (shelf : Shelf) (file : String) (generation : Option Int) (reply : Reply) : Verdict :=
  if (shelf.documents.get? file).isSome then
    match reply.result with
    | .error crash => .brokenOff crash
    | .ok outcome =>
      match outcome.tree with
      | none => .failed outcome
      | some tree =>
        if shelf.cache.isStale file generation then .superseded
        else .installed { tree.index (some file) with
          diagnostics := (tree.index (some file)).diagnostics ++ outcome.diagnostics }
  else .closed

/-- The index that a run ends with. -/
def found? (shelf : Shelf) (file : String) : Verdict → Option FileIndex
  | .installed index => some index
  | .superseded => shelf.cache.get? file
  | _ => none

/-- Every recorded generation is that of an index. -/
def Recorded (shelf : Shelf) : Prop :=
  ∀ file, (shelf.cache.generation? file).isSome → (shelf.cache.get? file).isSome

/-- A deed leaves every recorded generation with its index. -/
theorem Recorded.deed (recorded : shelf.Recorded) (done : Deed shelf shelf') :
    shelf'.Recorded := by
  cases done with
  | cancel | silence | publish => exact recorded
  | install installed index generation opened =>
    intro file known
    have slot := shelf.cache.slot_write installed file index generation
    have entry := congrArg Slot.index slot
    have number := congrArg Slot.generation slot
    simp only [Cache.slot] at entry number
    rw [entry]
    rw [number] at known
    split
    · rfl
    · rename_i other
      rw [if_neg other] at known
      exact recorded file known
  | evict evicted =>
    intro file known
    have slot := shelf.cache.slot_evict evicted file
    have entry := congrArg Slot.index slot
    have number := congrArg Slot.generation slot
    simp only [Cache.slot] at entry number
    rw [entry]
    rw [number] at known
    split
    · rename_i same
      rw [if_pos same] at known
      cases known
    · rename_i other
      rw [if_neg other] at known
      exact recorded file known

/-- A change leaves every recorded generation with its index. -/
theorem Recorded.change (recorded : shelf.Recorded) (changed : Change shelf shelf') :
    shelf'.Recorded := by
  cases changed with
  | deed done => exact recorded.deed done
  | write | request => exact recorded
  | close closed =>
    have evicted : ({ shelf with cache := shelf.cache.evict closed } : Shelf).Recorded :=
      recorded.deed (.evict shelf closed)
    exact evicted

/-- What is published for a file replaces its diagnostics and leaves those of the others. -/
theorem published_publish (shelf : Shelf) (file : String) (diagnostics : List EditorDiagnostic) :
    ((shelf.publish file diagnostics).published.get? file).getD [] = diagnostics ∧
      (shelf.publish file diagnostics).published.remove file = shelf.published.remove file := by
  simp only [publish]
  split
  · rename_i empty
    rw [Ledger.get?_remove_self, List.isEmpty_iff.mp empty]
    exact ⟨rfl, Ledger.remove_remove _ _⟩
  · rw [Ledger.get?_put_self]
    exact ⟨rfl, Ledger.remove_put _ _ _⟩

/-- Nothing is evicted of a document that is not open. -/
theorem Tidy.evict_eq (tidy : shelf.Tidy) (absent : shelf.documents.get? file = none) :
    shelf.cache.evict file = shelf.cache := by
  have gone : ∀ {keeps : Prop}, (keeps → shelf.Keeps file) → ¬keeps := by
    intro keeps kept holds
    simpa [absent] using tidy file (kept holds)
  have entries : shelf.cache.entries.get? file = none :=
    Option.not_isSome_iff_eq_none.mp (gone .index)
  have generations : shelf.cache.generations.get? file = none :=
    Option.not_isSome_iff_eq_none.mp (gone .generation)
  rw [Cache.evict, Ledger.remove_of_absent entries, Ledger.remove_of_absent generations]

/-- A run that takes a reply in has the aftermath of its verdict. -/
theorem aftermath_conclude (tidy : shelf.Tidy) (recorded : shelf.Recorded) (file : String)
    (generation : Option Int) (reply : Reply) :
    Aftermath shelf (shelf.conclude file generation reply) file generation
      (shelf.verdict file generation reply)
      (shelf.found? file (shelf.verdict file generation reply)) := by
  by_cases opened : (shelf.documents.get? file).isSome
  · simp only [conclude, verdict, opened, if_true]
    cases reply.result with
    | error crash =>
      obtain ⟨published, others⟩ := published_publish
        { shelf with cache := shelf.cache.evict file } file [internalDiagnostic crash]
      exact .brokenOff crash rfl published others
    | ok outcome =>
      cases parsed : outcome.tree with
      | none =>
        obtain ⟨published, others⟩ :=
          published_publish shelf file (forEditor outcome.diagnostics)
        simp only [parsed]
        exact .failed outcome parsed rfl published others
      | some tree =>
        simp only [parsed]
        split
        · rename_i stale
          -- what comes too late is behind a recorded generation
          have known : (shelf.cache.generation? file).isSome := by
            unfold Cache.isStale at stale
            split at stale
            · rename_i number
              simp [number]
            · cases stale
          obtain ⟨cached, found⟩ := Option.isSome_iff_exists.mp (recorded file known)
          rw [found?, found]
          exact .superseded cached stale found rfl rfl
        · obtain ⟨published, others⟩ := published_publish { shelf with
            cache := shelf.cache.write file (installedIndex file tree outcome) generation } file
            (forEditor (installedIndex file tree outcome).diagnostics)
          refine .installed _ ?_ (Cache.evict_write _ _ _ _) published others
          exact (Cache.slot_write _ _ _ _ _).trans (if_pos rfl)
  · have absent := Option.not_isSome_iff_eq_none.mp opened
    simp only [conclude, verdict, absent, Option.isSome_none, Bool.false_eq_true, if_false]
    cases reply.result with
    | ok outcome => exact .closed absent rfl rfl
    | error crash => exact .closed absent (tidy.evict_eq absent) rfl

end Shelf

namespace State

variable {state : State} {run : TaskId} {file : String} {generation : Option Int}

/-- Every interleaving leaves every recorded generation with its index. -/
theorem recorded_play (provider : SettingsProvider) (delay : Nat) (actions : List Action) :
    ((initial provider delay).play actions).shelf.Recorded := by
  refine keep_play _ Shelf.Recorded (fun recorded changed => recorded.change changed) ?_ actions
  intro file known
  cases known

/-- A run that takes a reply in ends with the index of its verdict. -/
theorem conclude_fst (state : State) (file : String) (generation : Option Int) (reply : Reply) :
    (state.conclude file generation reply).1 =
      state.shelf.found? file (state.shelf.verdict file generation reply) := by
  have reported := shelf_reports state .analyzer reply.notices
  rw [conclude, ← reported]
  generalize reply.notices.foldl (fun s notice => s.reportInRun (.analyzer notice)) state = other
  have opened : (other.shelf.documents.get? file).isSome = other.isOpen file := rfl
  simp only [Shelf.verdict, opened]
  cases reply.result with
  | error crash =>
    simp only
    split <;> rfl
  | ok outcome =>
    simp only [concludeOutcome]
    split
    · cases outcome.tree with
      | none => rfl
      | some tree =>
        simp only
        have again := shelf_reports other .indexing tree.notices
        rw [← again]
        generalize tree.notices.foldl (fun s notice => s.reportInRun (.indexing notice)) other =
          last
        have cache : last.shelf.cache = last.cache := rfl
        rw [cache]
        split
        · rename_i stale
          simp only [install, Cache.install, if_pos stale]
          rfl
        · rename_i timely
          rw [install, Cache.install_of_timely _ _ _ _ (Bool.eq_false_iff.mpr timely)]
          rfl
    · rfl

/-- A task that is ended has ended. -/
theorem stands_finish {task : TaskId} {t : Task} (known : state.task? task = some t)
    (result : Result) : (state.finish task result).Stands task t.job (· = .ended result) := by
  have moved : (state.setPhase task (.ended result)).Stands task t.job (· = .ended result) :=
    stands_setPhase known rfl
  exact moved

/-- How a run of a file under a generation ends in its next step, if it does. -/
def verdictOf (analyzer : Analyzer) (state : State) (file : String) (generation : Option Int)
    (phase : Phase) : Verdict :=
  match reply? analyzer state file phase with
  | none => .closed
  | some reply => state.shelf.verdict file generation reply

/-- The step of a run that was not cancelled leads to a phase in which it waits, or ends the run with
the aftermath of its verdict. -/
theorem stepTask_run (tidy : state.shelf.Tidy) (recorded : state.shelf.Recorded)
    (analyzer : Analyzer) {t : Task} (known : state.task? run = some t)
    (job : t.job = .run file generation) (underway : t.phase.Underway)
    (course : t.phase.OfRun file) :
    (∃ phase : Phase, phase.Waits ∧ (∀ answers, t.phase.Unbroken answers → phase.Unbroken answers) ∧
        (stepTask analyzer state run t).Stands run t.job (· = phase)) ∨
      ∃ found, (stepTask analyzer state run t).Stands run t.job (· = .ended (.index found)) ∧
        Aftermath state.shelf (stepTask analyzer state run t).shelf file generation
          (verdictOf analyzer state file generation t.phase) found := by
  cases replied : reply? analyzer state file t.phase with
  | some reply =>
    obtain ⟨taken, shelf, tasks, step⟩ := stepTask_of_reply analyzer job replied run
    refine .inr ⟨(taken.conclude file generation reply).1, ?_, ?_⟩
    · obtain ⟨cache, published, journal, frame⟩ := conclude_frame taken file generation reply
      have same : ({ taken with cache, published, journal } : State).task? run = some t := by
        rw [← known]
        exact congrArg (·[run]?) tasks
      rw [step, frame]
      exact stands_finish same _
    · rw [step, shelf_finish, shelf_conclude, conclude_fst, shelf, verdictOf, replied]
      exact Shelf.aftermath_conclude tidy recorded file generation reply
  | none =>
    rw [verdictOf, replied]
    cases makes : state.runCall? file t.phase with
    | some call =>
      -- the call that it makes is held back
      obtain ⟨before, given, -, tasks, held, -, step⟩ := stepTask_of_runCall? analyzer job makes run
      have waits : before.held.contains call.file := by
        rw [reply?_of_runCall? makes] at replied
        simpa [held] using replied
      have same : before.task? run = some t := known ▸ congrArg (·[run]?) tasks
      have fewer : ∀ answers, t.phase.Unbroken answers → 1 ≤ answers := by
        intro answers unbroken
        unfold runCall? at makes
        split at makes
        · rename_i fresh
          rw [fresh] at unbroken
          exact Nat.le_of_succ_le unbroken
        · rename_i informed
          rw [informed] at unbroken
          exact unbroken
        · cases makes
      have moved : (before.setPhase run (.calling ⟨call.file, call.text, given.settings⟩)).Stands
          run t.job (· = .calling ⟨call.file, call.text, given.settings⟩) :=
        stands_setPhase same rfl
      rw [step, State.call, if_pos waits]
      exact .inl ⟨.calling _, trivial, fewer, moved⟩
    | none =>
      cases phase : t.phase with
      | fresh =>
        simp only [stepTask, phase, begin, job]
        cases found : state.documents.get? file with
        | none => exact .inr ⟨none, job ▸ stands_finish known _, .closed found rfl rfl⟩
        | some document =>
          have unprovided : (state.reportInRun (.runStarted file generation)).provider file =
              none := by
            cases provided : state.provider file with
            | none => exact provided
            | some answer => simp [phase, runCall?, found, provided] at makes
          have moved : ∀ (other : State) (phase : Phase), other.tasks = state.tasks →
              (other.setPhase run phase).Stands run t.job (· = phase) :=
            fun other phase same => stands_setPhase (known ▸ congrArg (·[run]?) same) rfl
          simp only [consult, unprovided]
          rw [← job]
          exact .inl ⟨.asking _ _ _, trivial, fun _ => id, moved _ _ rfl⟩
      | asking asked text away =>
        simp only [stepTask, phase]
        exact .inl ⟨.asking asked text away, trivial, fun _ => id, t, known, rfl, phase⟩
      | calling call =>
        simp only [stepTask, phase]
        exact .inl ⟨.calling call, trivial, fun _ => id, t, known, rfl, phase⟩
      | informed asked text away answer => simp [phase, runCall?] at makes
      | answered call => simp [phase, reply?] at replied
      | joined | draining | ending => simp [phase, Phase.OfRun] at course
      | ended => simp [phase, Phase.Underway] at underway

/-- A run that goes on is in a phase of a run. -/
theorem Stands.ofRun (underway : state.Stands run (.run file generation) Phase.Underway)
    (apart : RunsApart (state.desk [])) {t : Task} (known : state.task? run = some t) :
    t.job = .run file generation ∧ t.phase.Underway ∧ t.phase.OfRun file := by
  obtain ⟨u, found, job, going⟩ := underway
  obtain rfl : t = u := Option.some.inj (known.symm.trans found)
  refine ⟨job, going, (apart run t file known ⟨generation, job⟩).resolve_right fun cancelled => ?_⟩
  rw [cancelled] at going
  exact going

/-- When the step of a run that goes on is due, it leads to a phase in which the run waits, or ends
the run with the aftermath of its verdict. -/
theorem tick_run (tidy : state.shelf.Tidy) (recorded : state.shelf.Recorded)
    (apart : RunsApart (state.desk []))
    (underway : state.Stands run (.run file generation) Phase.Underway)
    (next : state.queue.head? = some (.step run)) (analyzer : Analyzer) {t : Task}
    (known : state.task? run = some t) :
    (∃ phase : Phase, phase.Waits ∧ (∀ answers, t.phase.Unbroken answers → phase.Unbroken answers) ∧
        (tick analyzer state).Stands run (.run file generation) (· = phase)) ∨
      ∃ found, (tick analyzer state).Stands run (.run file generation) (· = .ended (.index found)) ∧
        Aftermath state.shelf (tick analyzer state).shelf file generation
          (verdictOf analyzer state file generation t.phase) found := by
  obtain ⟨rest, queue⟩ := List.head?_eq_some_iff.mp next
  obtain ⟨job, going, course⟩ := underway.ofRun apart known
  have found : ({ state with queue := rest } : State).task? run = some t := known
  have tidied : ({ state with queue := rest } : State).shelf.Tidy := tidy
  have step := stepTask_run tidied recorded analyzer found job going course
  simp only [tick, queue, execute, found]
  rwa [job] at step

/-- A run that goes on is ended by its own step only. -/
theorem Stands.ends_by_tick {task : TaskId} {job : Job} {action : Action} {result : Result}
    (unfinished : state.Stands task job fun phase => ∀ result, phase ≠ .ended result)
    (ended : (state.act action).Stands task job (· = .ended result)) :
    state.queue.head? = some (.step task) ∧ ∃ analyzer, action = .tick analyzer := by
  by_contra other
  have still : (state.act action).Stands task job fun phase => ∀ result, phase ≠ .ended result := by
    by_cases cancelled : ∃ task, action = .cancel task
    · obtain ⟨cancelled, rfl⟩ := cancelled
      exact unfinished.cancel Phase.steady_unfinished nofun cancelled
    · exact unfinished.act Phase.steady_unfinished
        (fun analyzer same next => other ⟨next, analyzer, same⟩)
        fun task same => cancelled ⟨task, same⟩
  obtain ⟨t, known, -, at_⟩ := ended
  obtain ⟨u, found, -, running⟩ := still
  obtain rfl : t = u := Option.some.inj (known.symm.trans found)
  exact running result at_

section Reachable

variable (provider : SettingsProvider) (delay : Nat) (actions : List Action)

/-- Work does not break a run that was not cancelled. -/
theorem unbroken_tick {answers : Nat}
    (unbroken : ((initial provider delay).play actions).Stands run (.run file generation)
      (Phase.Unbroken answers)) (analyzer : Analyzer) :
    (tick analyzer ((initial provider delay).play actions)).Stands run (.run file generation)
      (Phase.Unbroken answers) := by
  have apart := (prompt_play provider delay actions).2
  have tidy := tidy_play provider delay actions
  have recorded := recorded_play provider delay actions
  generalize (initial provider delay).play actions = state at *
  by_cases next : state.queue.head? = some (.step run)
  · obtain ⟨t, known, job, at_⟩ := id unbroken
    by_cases finished : ∃ found, t.phase = .ended (.index found)
    · obtain ⟨found, finished⟩ := finished
      obtain ⟨rest, queue⟩ := List.head?_eq_some_iff.mp next
      have same : ({ state with queue := rest } : State).task? run = some t := known
      simp only [tick, queue, execute, same, stepTask, finished]
      exact ⟨t, known, job, at_⟩
    · have underway : state.Stands run (.run file generation) Phase.Underway := by
        refine ⟨t, known, job, ?_⟩
        cases phase : t.phase with
        | fresh | asking | informed | calling | answered => trivial
        | joined | draining | ending => simp [phase, Phase.Unbroken] at at_
        | ended result =>
          cases result with
          | index found => exact (finished ⟨found, phase⟩).elim
          | _ => simp [phase, Phase.Unbroken] at at_
      rcases tick_run tidy recorded apart underway next analyzer known with
        ⟨phase, -, kept, u, found, ofJob, waits⟩ | ⟨index, ⟨u, found, ofJob, ended⟩, -⟩
      · exact ⟨u, found, ofJob, waits ▸ kept answers at_⟩
      · refine ⟨u, found, ofJob, ?_⟩
        rw [ended]
        trivial
  · exact unbroken.tick (Phase.steady_unbroken answers) analyzer next

/-- If only the work is done, a run that was not cancelled comes to wait for an answer that it may
still have to wait for, or to its end with an index or without one. -/
theorem exists_unbroken {answers : Nat}
    (unbroken : ((initial provider delay).play actions).Stands run (.run file generation)
      (Phase.Unbroken answers)) (analyzer : Analyzer) :
    ∃ n, (ticks analyzer n ((initial provider delay).play actions)).Stands run
      (.run file generation) fun phase =>
        (2 ≤ answers ∧ ∃ text away, phase = .asking file text away) ∨
          (1 ≤ answers ∧ ∃ call, phase = .calling call) ∨ ∃ found, phase = .ended (.index found) := by
  obtain ⟨n, idle⟩ := exists_not_mayEnd (prompt_play provider delay actions).1 analyzer run
  obtain ⟨k, same⟩ := ticks_eq_play analyzer n ((initial provider delay).play actions)
  have kept : ((initial provider delay).play (actions ++ List.replicate k (.tick analyzer))).Stands
      run (.run file generation) (Phase.Unbroken answers) := by
    clear same
    induction k with
    | zero => simpa using unbroken
    | succ k ih =>
      rw [List.replicate_succ', ← List.append_assoc, play_snoc]
      exact unbroken_tick provider delay _ ih analyzer
  have apart := (prompt_play provider delay (actions ++ List.replicate k (.tick analyzer))).2
  rw [play_append, ← same] at kept apart
  obtain ⟨t, known, job, at_⟩ := kept
  have course := apart run t file known ⟨generation, job⟩
  refine ⟨n, t, known, job, ?_⟩
  cases phase : t.phase with
  | fresh | informed | answered =>
    exact (idle t .cancelled known (by simp [phase, Phase.MayEnd])).elim
  | asking asked text away =>
    rw [phase] at at_ course
    obtain rfl : asked = file := course.resolve_right (by simp)
    exact .inl ⟨at_, text, away, rfl⟩
  | calling call => exact .inr (.inl ⟨by simpa [phase, Phase.Unbroken] using at_, call, rfl⟩)
  | joined | draining | ending => simp [phase, Phase.Unbroken] at at_
  | ended result =>
    cases result with
    | index found => exact .inr (.inr ⟨found, rfl⟩)
    | _ => simp [phase, Phase.Unbroken] at at_

/-- A run that waits for its settings is given them. -/
theorem act_inform {asked text : String} {away : Nat}
    (waits : state.Stands run (.run file generation) (· = .asking asked text away))
    (answer : SettingsAnswer) :
    (state.act (.inform run answer)).Stands run (.run file generation)
      (· = .informed asked text away answer) := by
  obtain ⟨t, known, job, asking⟩ := waits
  have moved : (state.setPhase run (.informed asked text away answer)).Stands run t.job
      (· = .informed asked text away answer) := stands_setPhase known rfl
  rw [job] at moved
  simp only [act, inform, known, Option.map_some, asking]
  exact moved

/-- A run of a file that waits for the analyzer is answered. -/
theorem act_respond (apart : RunsApart (state.desk [])) {call : AnalyzerCall}
    (waits : state.Stands run (.run file generation) (· = .calling call)) :
    (state.act (.respond file run)).Stands run (.run file generation) (· = .answered call) := by
  obtain ⟨t, known, job, calling⟩ := waits
  have own : call.file = file := by
    have course := apart run t file known ⟨generation, job⟩
    rw [calling] at course
    exact course.resolve_right (by simp)
  have moved : (state.setPhase run (.answered call)).Stands run t.job (· = .answered call) :=
    stands_setPhase known rfl
  rw [job] at moved
  simp only [act, letGo, known, Option.map_some, calling, own, beq_self_eq_true, if_true]
  exact moved

/-- What holds of a run that goes on. -/
structure EndsAtomically (state : State) (run : TaskId) (file : String) (generation : Option Int) :
    Prop where
  /-- Whatever is done when it ends, it is its own step; it ends with an index or without one, and
  the step has the aftermath of its verdict and no other. -/
  lastStep (action : Action) (result : Result) (t : Task) : state.task? run = some t →
    (state.act action).Stands run (.run file generation) (· = .ended result) →
    ∃ analyzer found, action = .tick analyzer ∧ result = .index found ∧
      Aftermath state.shelf (state.act action).shelf file generation
        (verdictOf analyzer state file generation t.phase) found
  /-- It comes to wait for its settings, to wait for the analyzer, or to its end, if only the work is
  done. -/
  goesOn (analyzer : Analyzer) : ∃ n, (ticks analyzer n state).Stands run (.run file generation)
    fun phase => (∃ text away, phase = .asking file text away) ∨ (∃ call, phase = .calling call) ∨
      ∃ found, phase = .ended (.index found)
  /-- If it waits for its settings, it comes to wait for the analyzer or to its end after the
  provider has given them or failed to. -/
  provided (analyzer : Analyzer) (asked text : String) (away : Nat) (answer : SettingsAnswer) :
    state.Stands run (.run file generation) (· = .asking asked text away) →
    ∃ n, (ticks analyzer n (state.act (.inform run answer))).Stands run (.run file generation)
      fun phase => (∃ call, phase = .calling call) ∨ ∃ found, phase = .ended (.index found)
  /-- If it waits for the analyzer, it comes to its end after the answer. -/
  returns (analyzer : Analyzer) (call : AnalyzerCall) :
    state.Stands run (.run file generation) (· = .calling call) →
    ∃ n, (ticks analyzer n (state.act (.respond file run))).Stands run (.run file generation)
      fun phase => ∃ found, phase = .ended (.index found)

/-- Whatever was done before, a run that has not ended and was not cancelled comes to its end with
an index or without one, however the provider and the analyzer answer, and its last step does one of
five things as a whole: nothing for a document that is not open; publish an outcome without a tree;
evict the entry of the file and publish one error; install an index and publish its diagnostics; or
nothing where a newer generation is recorded. -/
theorem run_ends_atomically (run : TaskId) (file : String) (generation : Option Int)
    (underway : ((initial provider delay).play actions).Stands run (.run file generation)
      Phase.Underway) :
    ((initial provider delay).play actions).EndsAtomically run file generation := by
  have apart := (prompt_play provider delay actions).2
  have unbroken : ((initial provider delay).play actions).Stands run (.run file generation)
      (Phase.Unbroken 2) := by
    obtain ⟨t, known, -⟩ := id underway
    obtain ⟨job, going, course⟩ := underway.ofRun apart known
    refine ⟨t, known, job, ?_⟩
    cases phase : t.phase with
    | fresh | asking | informed | calling | answered => simp [Phase.Unbroken]
    | joined | draining | ending => simp [phase, Phase.OfRun] at course
    | ended => simp [phase, Phase.Underway] at going
  constructor
  case lastStep =>
    intro action result t known ended
    have unfinished : ((initial provider delay).play actions).Stands run (.run file generation)
        fun phase => ∀ result, phase ≠ .ended result := by
      obtain ⟨u, found, job, going⟩ := id underway
      refine ⟨u, found, job, fun result finished => ?_⟩
      rw [finished] at going
      exact going
    obtain ⟨next, analyzer, rfl⟩ := unfinished.ends_by_tick ended
    obtain ⟨u, found, -, finished⟩ := ended
    rcases tick_run (tidy_play provider delay actions) (recorded_play provider delay actions) apart
      underway next analyzer known with
      ⟨phase, waits, -, v, same, -, at_⟩ | ⟨index, ⟨v, same, -, at_⟩, aftermath⟩
    · obtain rfl : u = v := Option.some.inj (found.symm.trans same)
      rw [← at_, finished] at waits
      exact waits.elim
    · obtain rfl : u = v := Option.some.inj (found.symm.trans same)
      cases finished.symm.trans at_
      exact ⟨analyzer, index, rfl, rfl, aftermath⟩
  case goesOn =>
    intro analyzer
    obtain ⟨n, t, known, job, at_⟩ := exists_unbroken provider delay actions unbroken analyzer
    exact ⟨n, t, known, job, at_.imp And.right (Or.imp_left And.right)⟩
  case provided =>
    intro analyzer asked text away answer waits
    have informed := act_inform waits answer
    rw [← play_snoc] at informed ⊢
    have soon : ((initial provider delay).play (actions ++ [.inform run answer])).Stands run
        (.run file generation) (Phase.Unbroken 1) := by
      obtain ⟨t, known, job, at_⟩ := informed
      exact ⟨t, known, job, by rw [at_]; exact Nat.le_refl 1⟩
    obtain ⟨n, t, known, job, at_⟩ := exists_unbroken provider delay _ soon analyzer
    refine ⟨n, t, known, job, ?_⟩
    exact (at_.resolve_left fun asks => absurd asks.1 (by decide)).imp_left And.right
  case returns =>
    intro analyzer call waits
    have answered := act_respond apart waits
    rw [← play_snoc] at answered ⊢
    have soon : ((initial provider delay).play (actions ++ [.respond file run])).Stands run
        (.run file generation) (Phase.Unbroken 0) := by
      obtain ⟨t, known, job, at_⟩ := answered
      exact ⟨t, known, job, by rw [at_]; trivial⟩
    obtain ⟨n, t, known, job, at_⟩ := exists_unbroken provider delay _ soon analyzer
    refine ⟨n, t, known, job, ?_⟩
    exact (at_.resolve_left fun asks => absurd asks.1 (by decide)).resolve_left
      fun calls => absurd calls.1 (by decide)

end Reachable

/-- A document is opened, and its run waits for its settings until the provider fails. -/
def unsettled : List Action :=
  [.provide fun _ => none, .event (.opened "a.pl" "p" 0), .tick echo,
    .inform 0 (.failed "no settings")]

/-- The run that hears then that there are no settings. -/
def unsettledRun : Task where
  job := .run "a.pl" (some 1)
  phase := .informed "a.pl" "p" 0 (.failed "no settings")
  listeners := [.settle "a.pl" 0]

/-- A run whose settings could not be had installs its index, publishes why there is none, or drops
the entry and publishes one error. Of two runs that were started by hand, the one under generation 9
comes too late after the one under generation 10. -/
theorem run_ends_atomically_rivals :
    (∃ n, (ticks echo n ((initial (.fixed {}) 500).play unsettled)).Stands 0 (.run "a.pl" (some 1))
      fun phase => (∃ call, phase = .calling call) ∨ ∃ found, phase = .ended (.index found)) ∧
    (Aftermath ((initial (.fixed {}) 500).play unsettled).shelf
        (tick echo ((initial (.fixed {}) 500).play unsettled)).shelf "a.pl" (some 1)
        (.installed (echoed "p")) (some (echoed "p")) ∧
      (tick echo ((initial (.fixed {}) 500).play unsettled)).published.get? "a.pl" = some
        [{ range := .point 0 0, message := "p", severity := .warning, source := "clauseindex" }]) ∧
    (Aftermath ((initial (.fixed {}) 500).play unsettled).shelf
        (tick refusing ((initial (.fixed {}) 500).play unsettled)).shelf "a.pl" (some 1)
        (.failed (.failed "bad")) none ∧
      (tick refusing ((initial (.fixed {}) 500).play unsettled)).published.get? "a.pl" = some
        [{ range := .point 0 0, message := "bad", severity := .error, source := "clauseindex" }]) ∧
    (Aftermath ((initial (.fixed {}) 500).play unsettled).shelf
        (tick collapsing ((initial (.fixed {}) 500).play unsettled)).shelf "a.pl" (some 1)
        (.brokenOff (.analyzer "boom")) none ∧
      (tick collapsing ((initial (.fixed {}) 500).play unsettled)).published.get? "a.pl" = some
        [{ range := .point 0 0, message := "Internal analysis error: boom", severity := .error,
           source := "clauseindex" }]) ∧
    ∃ found, Aftermath ((initial (.fixed {}) 500).play rivals).shelf
      (tick blank ((initial (.fixed {}) 500).play rivals)).shelf "a.pl" (some 9) .superseded
        found := by
  have asks : ((initial (.fixed {}) 500).play (unsettled.take 3)).EndsAtomically 0 "a.pl" (some 1) :=
    run_ends_atomically (.fixed {}) 500 (unsettled.take 3) 0 "a.pl" (some 1) ⟨_, rfl, rfl, trivial⟩
  have ends : ((initial (.fixed {}) 500).play unsettled).EndsAtomically 0 "a.pl" (some 1) :=
    run_ends_atomically (.fixed {}) 500 unsettled 0 "a.pl" (some 1) ⟨_, rfl, rfl, trivial⟩
  have overtaken : ((initial (.fixed {}) 500).play rivals).EndsAtomically 2 "a.pl" (some 9) :=
    run_ends_atomically (.fixed {}) 500 rivals 2 "a.pl" (some 9) ⟨_, rfl, rfl, trivial⟩
  obtain ⟨_, late, ticked, -, superseded⟩ := overtaken.lastStep (.tick blank) _ _ rfl
    ⟨_, rfl, rfl, rfl⟩
  cases ticked
  have found : (tick echo ((initial (.fixed {}) 500).play unsettled)).task? 0 = some
      { unsettledRun with phase := .ended (.index (some (echoed "p"))) } := by
    with_unfolding_all rfl
  have verdict : verdictOf echo ((initial (.fixed {}) 500).play unsettled) "a.pl" (some 1)
      unsettledRun.phase = .installed (echoed "p") := by with_unfolding_all rfl
  obtain ⟨_, _, ticked, index, installed⟩ := ends.lastStep (.tick echo) _ unsettledRun rfl
    ⟨_, found, rfl, rfl⟩
  cases ticked
  cases index
  rw [verdict] at installed
  obtain ⟨_, _, ticked, nothing, failed⟩ := ends.lastStep (.tick refusing) (.index none)
    unsettledRun rfl ⟨_, rfl, rfl, rfl⟩
  cases ticked
  cases nothing
  obtain ⟨_, _, ticked, nothing, brokenOff⟩ := ends.lastStep (.tick collapsing) (.index none)
    unsettledRun rfl ⟨_, rfl, rfl, rfl⟩
  cases ticked
  cases nothing
  exact ⟨asks.provided echo "a.pl" "p" 0 (.failed "no settings") ⟨_, rfl, rfl, rfl⟩,
    ⟨installed, by decide +kernel⟩, ⟨failed, by decide +kernel⟩, ⟨brokenOff, by decide +kernel⟩,
    late, superseded⟩

end State

end PredicateIndex.Pipeline
