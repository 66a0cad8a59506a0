import PredicateIndex.Proofs.Pipeline.Conclusion
import PredicateIndex.Proofs.Pipeline.Flight

/-!
# Scheduled runs are not superseded

The pipeline numbers its runs as it starts them, and a file has one run at a time. So when a run
offers its index, every generation that was ever recorded for the file belongs to a run that has
ended, and all of these were started before it: the index is taken, under a generation above all
earlier ones. Closing a document or breaking a run off drops the recorded generation but not the
run that recorded it, so this holds across them. Tasks may be cancelled; only a run that is started
by hand can break the order.
-/
namespace PredicateIndex.Pipeline

/-- Whether an action starts a run by hand. -/
def Action.StartsRun : Action → Prop
  | .ask (.run _ _) => True
  | _ => False

/-- Runs are numbered in the order in which they were started. -/
structure Numbered (desk : Desk) : Prop where
  /-- A run has a generation that was given out. -/
  given {k : TaskId} {t : Task} {file : String} {generation : Option Int} :
    desk.tasks[k]? = some t → t.job = .run file generation →
    ∃ number, generation = some number ∧ number < desk.next
  /-- A later run has a higher generation, be it of the same file or of another. -/
  rising {i j : TaskId} {t u : Task} {one other : String} {m n : Int} :
    desk.tasks[i]? = some t → desk.tasks[j]? = some u → t.job = .run one (some m) →
    u.job = .run other (some n) → i < j → m < n

namespace Numbered

variable {desk desk' : Desk}

/-- Where no run is created and no generation given out, the numbering is kept. -/
theorem touch (numbered : Numbered desk) (next : desk'.next = desk.next)
    (known : ∀ {k : TaskId} {u : Task} {file : String} {generation : Option Int},
      desk'.tasks[k]? = some u → u.job = .run file generation →
      ∃ t : Task, desk.tasks[k]? = some t ∧ t.job = .run file generation) : Numbered desk' := by
  constructor
  · intro k u file generation found job
    obtain ⟨t, found, job⟩ := known found job
    rw [next]
    exact numbered.given found job
  · intro i j u v one other m n first second job job' less
    obtain ⟨t, first, job⟩ := known first job
    obtain ⟨w, second, job'⟩ := known second job'
    exact numbered.rising first second job job' less

/-- A run that is started is numbered above all others. -/
theorem start (numbered : Numbered desk) (file : String) : Numbered (desk.start file) := by
  have known : ∀ {k : TaskId} {u : Task} {other : String} {generation : Option Int},
      (desk.start file).tasks[k]? = some u → u.job = .run other generation →
      desk.tasks[k]? = some u ∨ k = desk.tasks.length ∧ generation = some desk.next := by
    intro k u other generation found job
    rcases desk.of_tasks_spawn found with known | ⟨rfl, rfl⟩
    · exact .inl known
    · cases job
      exact .inr ⟨rfl, rfl⟩
  have inside : ∀ {k : TaskId} {u : Task}, desk.tasks[k]? = some u → k < desk.tasks.length :=
    fun found => (List.getElem?_eq_some_iff.mp found).1
  have next : (desk.start file).next = desk.next + 1 := rfl
  constructor
  · intro k u other generation found job
    rcases known found job with found | ⟨-, rfl⟩
    · obtain ⟨number, same, bound⟩ := numbered.given found job
      exact ⟨number, same, by omega⟩
    · exact ⟨desk.next, rfl, by omega⟩
  · intro i j u v one other m n first second job job' less
    rcases known second job' with second | ⟨rfl, newest⟩
    · rcases known first job with first | ⟨rfl, -⟩
      · exact numbered.rising first second job job' less
      · exact absurd less (Nat.not_lt.mpr (Nat.le_of_lt (inside second)))
    · cases newest
      rcases known first job with first | ⟨rfl, -⟩
      · obtain ⟨number, same, bound⟩ := numbered.given first job
        cases same
        exact bound
      · exact absurd less (Nat.lt_irrefl _)

/-- A turn keeps the runs numbered. -/
theorem turn (numbered : Numbered desk) (turned : Turn desk desk') : Numbered desk' := by
  have quiet : desk'.next = desk.next → Numbered desk' := by
    intro next
    refine numbered.touch next fun {k u file generation} found job => ?_
    rcases turned.origin found with ⟨t, known, advance⟩ | ⟨-, created⟩
    · exact ⟨t, known, advance.job.symm.trans job⟩
    · have given := (created file generation job).2
      omega
  cases turned with
  | ask | drop => exact quiet rfl
  | move moved =>
    cases moved with
    | start file idle => exact numbered.start file
    | _ => exact quiet rfl

/-- A task may be moved to any phase. -/
theorem setPhase (numbered : Numbered desk) (task : TaskId) (phase : Phase) :
    Numbered (desk.setPhase task phase) := by
  refine numbered.touch rfl fun {k u file generation} found job => ?_
  rw [Desk.tasks_setPhase, Option.map_eq_some_iff] at found
  obtain ⟨t, found, rfl⟩ := found
  exact ⟨t, found, job⟩

/-- Two runs do not share a generation. -/
theorem unique (numbered : Numbered desk) {i j : TaskId} {t u : Task} {one other : String}
    {generation : Option Int} (first : desk.tasks[i]? = some t) (second : desk.tasks[j]? = some u)
    (job : t.job = .run one generation) (job' : u.job = .run other generation) : i = j := by
  obtain ⟨number, rfl, -⟩ := numbered.given first job
  rcases Nat.lt_trichotomy i j with less | same | greater
  · exact absurd (numbered.rising first second job job' less) (Int.lt_irrefl _)
  · exact same
  · exact absurd (numbered.rising second first job' job greater) (Int.lt_irrefl _)

end Numbered

namespace State

variable {state : State} {action : Action}

/-- Every action that starts no run by hand keeps the runs in order and numbered. -/
theorem numbered_act (flight : Flight (state.desk [])) (numbered : Numbered (state.desk []))
    (unaided : ¬action.StartsRun) :
    Flight ((state.act action).desk []) ∧ Numbered ((state.act action).desk []) := by
  by_cases scheduled : action.Scheduled
  · exact Turns.keep (fun desk => Flight desk ∧ Numbered desk)
      (fun kept turned => ⟨kept.1.turn turned, kept.2.turn turned⟩) (turns_act state scheduled)
      ⟨flight, numbered⟩
  · cases action with
    | ask job =>
      cases job with
      | run file generation => exact (unaided trivial).elim
      | _ => exact (scheduled trivial).elim
    | cancel task =>
      refine keep_cancel state (fun desk => Flight desk ∧ Numbered desk) ?_ ?_ ⟨flight, numbered⟩
        task
      · intro desk id t phase kept known unfinished going
        exact ⟨kept.1.setPhase known rfl unfinished going, kept.2.setPhase id phase⟩
      · intro desk id kept
        exact ⟨kept.1.enqueue (by simp), kept.2.touch rfl fun found job => ⟨_, found, job⟩⟩
    | _ => exact (scheduled trivial).elim

/-- Every interleaving that starts no run by hand keeps the runs in order and numbered. -/
theorem numbered_play (provider : SettingsProvider) (delay : Nat) {actions : List Action}
    (unaided : ∀ action ∈ actions, ¬action.StartsRun) :
    Flight (((initial provider delay).play actions).desk []) ∧
      Numbered (((initial provider delay).play actions).desk []) := by
  have flight : Flight ((initial provider delay).desk []) := by
    constructor <;> simp [initial, desk]
  have numbered : Numbered ((initial provider delay).desk []) := by
    constructor <;> simp [initial, desk]
  exact List.foldlRecOn (motive := fun s : State => Flight (s.desk []) ∧ Numbered (s.desk []))
    actions act ⟨flight, numbered⟩
    fun s kept action inside => numbered_act kept.1 kept.2 (unaided action inside)

/-- A generation that is recorded for a file is that of a run of it that has ended. -/
def Attributed (state : State) : Prop :=
  ∀ file number, state.cache.generation? file = some number →
    ∃ run, state.HasEnded run (.run file (some number))

/-- Whatever is done, recorded generations are those of runs that have ended. -/
theorem Attributed.act (attributed : state.Attributed) (action : Action) :
    (state.act action).Attributed := by
  intro file number recorded
  have before : state.cache.generation? file = some number →
      ∃ run, (state.act action).HasEnded run (.run file (some number)) := by
    intro known
    obtain ⟨run, ended⟩ := attributed file number known
    exact ⟨run, ended.act action⟩
  rcases cache_act state action with same | ⟨evicted, -, dropped⟩ |
    ⟨analyzer, run, offered, generation, index, rfl, offers⟩
  · rw [same] at recorded
    exact before recorded
  · have slot := congrArg Slot.generation (state.cache.slot_evict evicted file)
    rw [← dropped] at slot
    split at slot
    · cases recorded.symm.trans slot
    · exact before (slot.symm.trans recorded)
  · have slot := congrArg Slot.generation
      (state.cache.slot_install offered file index generation)
    rw [← offers.cache_tick] at slot
    split at slot
    · rename_i same
      subst same
      rcases Slot.generation_of_receive (slot.symm.trans recorded) with own | known
      · subst own
        obtain ⟨reply, outcome, tree, takes, -⟩ := offers
        exact ⟨run, takes.hasEnded⟩
      · exact before known
    · exact before (slot.symm.trans recorded)

/-- Recorded generations are those of runs that have ended. -/
theorem attributed_play (provider : SettingsProvider) (delay : Nat) (actions : List Action) :
    ((initial provider delay).play actions).Attributed :=
  List.foldlRecOn (motive := Attributed) actions State.act nofun
    fun _ attributed action _ => attributed.act action

/-- A run that takes a reply in has a generation above those of all runs of its file that have
ended. -/
theorem Takes.lt_of_hasEnded {analyzer : Analyzer} {run other : TaskId} {file : String}
    {number older : Int} {reply : Reply} (flight : Flight (state.desk []))
    (numbered : Numbered (state.desk []))
    (takes : state.Takes analyzer run file (some number) reply)
    (ended : state.HasEnded other (.run file (some older))) : older < number := by
  obtain ⟨t, known, job, going⟩ := takes.unfinished
  obtain ⟨u, found, job', finished⟩ := ended
  -- the run that has not ended is in flight, so it is the latest of its file
  have inFlight := flight.pending known ⟨_, job⟩ going
  have least : other ≤ run := flight.latest inFlight found ⟨_, job'⟩
  have apart : other ≠ run := by
    rintro rfl
    obtain rfl : t = u := Option.some.inj (known.symm.trans found)
    simp [going] at finished
  exact numbered.rising found known job' job (Nat.lt_of_le_of_ne least apart)

/-- Where no run is started by hand, every index that a run offers to the cache is taken, under a
generation above all that were recorded for the file before, and no two runs share a generation. -/
theorem scheduled_never_superseded (provider : SettingsProvider) (delay : Nat)
    (actions : List Action) (unaided : ∀ action ∈ actions, ¬action.StartsRun) :
    (∀ analyzer run file generation index,
      ((initial provider delay).play actions).Offers analyzer run file generation index →
      ∃ number, generation = some number ∧
        (((initial provider delay).play actions).cache.install file index generation).1 = true ∧
        (tick analyzer ((initial provider delay).play actions)).cache.get? file = some index ∧
        (tick analyzer ((initial provider delay).play actions)).cache.generation? file =
          some number ∧
        ∀ past rest older, actions = past ++ rest →
          ((initial provider delay).play past).cache.generation? file = some older →
          older < number) ∧
    ∀ i j t u one other generation, ((initial provider delay).play actions).task? i = some t →
      ((initial provider delay).play actions).task? j = some u →
      t.job = .run one generation → u.job = .run other generation → i = j := by
  obtain ⟨flight, numbered⟩ := numbered_play provider delay unaided
  refine ⟨fun analyzer run file generation index offers => ?_,
    fun i j t u one other generation first second job job' =>
      numbered.unique first second job job'⟩
  obtain ⟨reply, outcome, tree, takes, -⟩ := id offers
  obtain ⟨t, known, job, -⟩ := takes.unfinished
  obtain ⟨number, rfl, -⟩ := numbered.given known job
  have above : ∀ past rest older, actions = past ++ rest →
      ((initial provider delay).play past).cache.generation? file = some older →
      older < number := by
    rintro past rest older rfl recorded
    -- the record may be gone by now, but the run that made it is still among the tasks
    obtain ⟨earlier, ended⟩ := attributed_play provider delay past file older recorded
    have still := ended.play rest
    rw [← play_append] at still
    exact takes.lt_of_hasEnded flight numbered still
  have timely :
      ((initial provider delay).play actions).cache.isStale file (some number) = false := by
    unfold Cache.isStale
    split
    · rename_i offered recorded given listed
      cases given
      have bound := above actions [] recorded (List.append_nil _).symm listed
      rw [decide_eq_false_iff_not]
      omega
    · rfl
  have slot := offers.slot_tick timely
  exact ⟨number, rfl, congrArg Prod.fst (Cache.install_of_timely _ file index _ timely),
    congrArg Slot.index slot, congrArg Slot.generation slot, above⟩

/-- A document is opened and its run ends; then it is closed and opened again. -/
def openedTwice : List Action :=
  [.event (.opened "a.pl" "p." 0), .tick blank, .tick blank, .event (.closed "a.pl"),
    .event (.opened "a.pl" "q." 1)]

/-- The first generation was recorded and dropped; the second run records a higher one. -/
theorem scheduled_never_superseded_openedTwice :
    ((initial (.fixed {}) 500).play (openedTwice.take 3)).cache.generation? "a.pl" = some 1 ∧
      ((initial (.fixed {}) 500).play openedTwice).cache.generation? "a.pl" = none ∧
      ∃ number, 1 < number ∧
        (tick blank ((initial (.fixed {}) 500).play openedTwice)).cache.generation? "a.pl" =
          some number := by
  have unaided : ∀ action ∈ openedTwice, ¬action.StartsRun := by
    simp [openedTwice, Action.StartsRun]
  have offers : ((initial (.fixed {}) 500).play openedTwice).Offers blank 1 "a.pl" (some 2) _ :=
    ⟨_, _, {}, ⟨rfl, _, rfl, rfl, rfl⟩, rfl, rfl, rfl, rfl⟩
  obtain ⟨number, -, -, -, recorded, above⟩ :=
    (scheduled_never_superseded (.fixed {}) 500 openedTwice unaided).1 _ _ _ _ _ offers
  exact ⟨rfl, rfl, number, above (openedTwice.take 3) (openedTwice.drop 3) 1 rfl rfl, recorded⟩

end State

end PredicateIndex.Pipeline
