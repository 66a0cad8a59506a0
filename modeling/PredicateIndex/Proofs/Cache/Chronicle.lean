import Mathlib.Data.List.Induction
import Mathlib.Data.Nat.Find
import PredicateIndex.Proofs.Cache.Slot

/-!
# The cache tells its history

A cache is filled by installing indexes, some under a generation and some without, and it is emptied
file by file or at once. What it holds is told here from the list of these operations. An index was
taken for a file at a time if the installation at that place of the list was accepted and the entry
of the file was not dropped after it. The files of the cache are those of which an index was taken,
in the order of the first time; what is found under a file is what was taken last; and a generation
is recorded for no other files.
-/
namespace PredicateIndex.Cache

/-- What can be done to the entries of a cache. -/
inductive Operation where
  /-- An index is installed for a file, perhaps under a generation. -/
  | install (file : String) (index : FileIndex) (generation : Option Int)
  /-- The entry of a file is dropped. -/
  | evict (file : String)
  /-- All entries are dropped. -/
  | clear

namespace Operation

/-- Whether an operation drops the entry of a file. -/
def Drops (file : String) : Operation → Prop
  | .install _ _ _ => False
  | .evict dropped => dropped = file
  | .clear => True

/-- Whether an operation is one on a file or on all files. -/
def Concerns (file : String) : Operation → Prop
  | .install named _ _ | .evict named => named = file
  | .clear => True

end Operation

/-- The cache after an operation. -/
def operate (cache : Cache) : Operation → Cache
  | .install file index generation => (cache.install file index generation).2
  | .evict file => cache.evict file
  | .clear => .empty

/-- The cache after some operations. -/
def ofOperations (history : List Operation) : Cache := history.foldl operate .empty

/-- An operation installs an index of a file, and it is accepted. -/
def Takes (cache : Cache) (operation : Operation) (file : String) (index : FileIndex) : Prop :=
  ∃ generation, operation = .install file index generation ∧
    (cache.install file index generation).1 = true

/-! ## One operation -/

section Step

variable {cache : Cache} {operation : Operation} {file : String} {index : FileIndex}

/-- An index that is taken is written. -/
theorem Takes.operate_eq (takes : cache.Takes operation file index) :
    ∃ generation, cache.operate operation = cache.write file index generation := by
  obtain ⟨generation, rfl, accepted⟩ := takes
  refine ⟨generation, ?_⟩
  unfold install at accepted
  split at accepted
  · cases accepted
  · rename_i timely
    exact congrArg Prod.snd (if_neg timely)

/-- An index that is taken is found. -/
theorem Takes.get?_eq (takes : cache.Takes operation file index) :
    (cache.operate operation).get? file = some index := by
  obtain ⟨generation, written⟩ := takes.operate_eq
  rw [written]
  exact Ledger.get?_put_self _ _ _

/-- A file of which an index is taken keeps its place or goes to the end. -/
theorem Takes.files_eq (takes : cache.Takes operation file index) :
    (cache.operate operation).files =
      if file ∈ cache.files then cache.files else cache.files ++ [file] := by
  obtain ⟨generation, written⟩ := takes.operate_eq
  rw [written]
  exact Ledger.keys_put _ _ _

/-- An operation that takes an index drops nothing. -/
theorem Takes.not_drops (takes : cache.Takes operation file index) (other : String) :
    ¬operation.Drops other := by
  obtain ⟨generation, rfl, -⟩ := takes
  exact id

/-- An operation takes at most one index. -/
theorem Takes.unique (takes : cache.Takes operation file index) {other : String}
    {found : FileIndex} (again : cache.Takes operation other found) :
    other = file ∧ found = index := by
  obtain ⟨generation, rfl, -⟩ := takes
  obtain ⟨generation', same, -⟩ := again
  cases same
  exact ⟨rfl, rfl⟩

/-- An operation that drops the entry of a file leaves nothing of it. -/
theorem slot_of_drops (drops : operation.Drops file) :
    (cache.operate operation).slot file = {} := by
  cases operation with
  | install => exact drops.elim
  | evict dropped => exact (slot_evict cache dropped file).trans (if_pos drops)
  | clear => rfl

/-- An operation on one file leaves what there is of another. -/
theorem slot_of_not_concerns (other : ¬operation.Concerns file) :
    (cache.operate operation).slot file = cache.slot file := by
  cases operation with
  | install named index generation =>
    exact (slot_install cache named file index generation).trans (if_neg other)
  | evict named => exact (slot_evict cache named file).trans (if_neg other)
  | clear => exact (other trivial).elim

/-- An installation that is not accepted leaves the whole cache. -/
theorem operate_of_refused {generation : Option Int}
    (refused : ¬cache.Takes (.install file index generation) file index) :
    cache.operate (.install file index generation) = cache := by
  refine install_of_refused _ _ _ _ (Bool.eq_false_iff.mpr fun accepted => refused ?_)
  exact ⟨generation, rfl, accepted⟩

/-- An operation that neither takes an index of a file nor drops its entry leaves what there is. -/
theorem slot_of_idle (idle : ∀ index, ¬cache.Takes operation file index)
    (kept : ¬operation.Drops file) : (cache.operate operation).slot file = cache.slot file := by
  by_cases here : operation.Concerns file
  · cases operation with
    | install named index generation =>
      obtain rfl : named = file := here
      rw [operate_of_refused (idle index)]
    | evict dropped => exact (kept here).elim
    | clear => exact (kept trivial).elim
  · exact slot_of_not_concerns here

/-- A recorded generation stays or goes up until the entry of the file is dropped. -/
theorem generation_of_kept {earlier : Int} (kept : ¬operation.Drops file)
    (known : cache.generation? file = some earlier) :
    ∃ later, (cache.operate operation).generation? file = some later ∧ earlier ≤ later := by
  by_cases here : operation.Concerns file
  · cases operation with
    | install named index generation =>
      obtain rfl : named = file := here
      have received : (cache.install named index generation).2.slot named = _ :=
        (slot_install cache named named index generation).trans (if_pos rfl)
      have before : (cache.slot named).generation = some earlier := known
      obtain ⟨later, recorded, bound⟩ := Slot.generation_le_receive before index generation
      exact ⟨later, (congrArg Slot.generation received).trans recorded, bound⟩
    | evict dropped => exact (kept here).elim
    | clear => exact (kept trivial).elim
  · exact ⟨earlier, (congrArg Slot.generation (slot_of_not_concerns here)).trans known,
      Int.le_refl _⟩

end Step

/-- A recorded generation does not go down until the entry of the file is dropped. -/
theorem generation_of_all_kept {cache : Cache} {operations : List Operation} {file : String}
    {earlier : Int} (kept : ∀ operation ∈ operations, ¬operation.Drops file)
    (known : cache.generation? file = some earlier) :
    ∃ later, (operations.foldl operate cache).generation? file = some later ∧ earlier ≤ later := by
  induction operations generalizing cache earlier with
  | nil => exact ⟨earlier, known, Int.le_refl _⟩
  | cons operation rest ih =>
    rw [List.forall_mem_cons] at kept
    obtain ⟨between, recorded, bound⟩ := generation_of_kept kept.1 known
    obtain ⟨later, recorded, further⟩ := ih kept.2 recorded
    exact ⟨later, recorded, Int.le_trans bound further⟩

/-! ## What was taken -/

/-- In a history, an index of a file was taken at a time, and the entry of the file was not dropped
after that. -/
def TakenAt (history : List Operation) (file : String) (time : Nat) (index : FileIndex) : Prop :=
  ∃ past operation later, history = past ++ operation :: later ∧ time = past.length ∧
    (ofOperations past).Takes operation file index ∧ ∀ after ∈ later, ¬after.Drops file

/-- An index of a file was taken at a time, and none before it since the entry was last dropped. -/
def FirstTaken (history : List Operation) (file : String) (time : Nat) : Prop :=
  (∃ index, TakenAt history file time index) ∧
    ∀ earlier index, TakenAt history file earlier index → time ≤ earlier

/-- An index of a file was taken, and none after it. -/
def LastTaken (history : List Operation) (file : String) (index : FileIndex) : Prop :=
  ∃ time, TakenAt history file time index ∧
    ∀ later other, TakenAt history file later other → later ≤ time

section History

variable {history : List Operation} {operation : Operation} {file : String} {time : Nat}
variable {index : FileIndex}

/-- The last operation comes last. -/
theorem ofOperations_snoc (history : List Operation) (operation : Operation) :
    ofOperations (history ++ [operation]) = (ofOperations history).operate operation :=
  List.foldl_append

/-- What was taken was taken at a time of the history. -/
theorem TakenAt.lt_length (taken : TakenAt history file time index) : time < history.length := by
  obtain ⟨past, operation, later, rfl, rfl, -⟩ := taken
  simp

/-- What is taken after one more operation was taken before and is not dropped, or is taken now. -/
theorem takenAt_snoc : TakenAt (history ++ [operation]) file time index ↔
    TakenAt history file time index ∧ ¬operation.Drops file ∨
      time = history.length ∧ (ofOperations history).Takes operation file index := by
  constructor
  · rintro ⟨past, taking, later, split, rfl, takes, kept⟩
    -- the last operation takes the index itself or comes after the one that does
    rcases List.eq_nil_or_concat later with rfl | ⟨between, last, rfl⟩
    · obtain ⟨rfl, same⟩ := List.append_inj' split rfl
      cases same
      exact .inr ⟨rfl, takes⟩
    · rw [List.concat_eq_append, ← List.cons_append, ← List.append_assoc] at split
      obtain ⟨rfl, same⟩ := List.append_inj' split rfl
      cases same
      simp only [List.concat_eq_append, List.mem_append, List.mem_singleton] at kept
      exact .inl ⟨⟨past, taking, between, rfl, rfl, takes, fun after inside =>
        kept after (.inl inside)⟩, kept operation (.inr rfl)⟩
  · rintro (⟨⟨past, taking, later, rfl, rfl, takes, kept⟩, spared⟩ | ⟨rfl, takes⟩)
    · refine ⟨past, taking, later ++ [operation], by simp, rfl, takes, fun after inside => ?_⟩
      rcases List.mem_append.mp inside with inside | last
      · exact kept after inside
      · rw [List.mem_singleton.mp last]
        exact spared
    · exact ⟨history, operation, [], rfl, rfl, takes, by simp⟩

/-- If anything was taken, something was taken first. -/
theorem TakenAt.exists_first (taken : TakenAt history file time index) :
    ∃ first, FirstTaken history file first := by
  classical
  have ever : ∃ time index, TakenAt history file time index := ⟨time, index, taken⟩
  exact ⟨Nat.find ever, Nat.find_spec ever,
    fun earlier other before => Nat.find_min' ever ⟨other, before⟩⟩

/-- The first time stays the first until the entry of the file is dropped. -/
theorem FirstTaken.snoc (first : FirstTaken history file time) (kept : ¬operation.Drops file) :
    FirstTaken (history ++ [operation]) file time := by
  obtain ⟨⟨index, taken⟩, least⟩ := first
  refine ⟨⟨index, takenAt_snoc.mpr (.inl ⟨taken, kept⟩)⟩, fun earlier other before => ?_⟩
  rcases takenAt_snoc.mp before with ⟨before, -⟩ | ⟨rfl, -⟩
  · exact least earlier other before
  · exact Nat.le_of_lt taken.lt_length

/-- What is taken of a file of which nothing was taken is taken first. -/
theorem firstTaken_of_takes (takes : (ofOperations history).Takes operation file index)
    (fresh : ¬∃ time, FirstTaken history file time) :
    FirstTaken (history ++ [operation]) file history.length := by
  refine ⟨⟨index, takenAt_snoc.mpr (.inr ⟨rfl, takes⟩)⟩, fun earlier other before => ?_⟩
  rcases takenAt_snoc.mp before with ⟨before, -⟩ | ⟨rfl, -⟩
  · exact (fresh before.exists_first).elim
  · exact Nat.le_refl _

/-- What is taken of a file is taken last. -/
theorem lastTaken_of_takes (takes : (ofOperations history).Takes operation file index)
    (found : FileIndex) : LastTaken (history ++ [operation]) file found ↔ found = index := by
  have now : TakenAt (history ++ [operation]) file history.length index :=
    takenAt_snoc.mpr (.inr ⟨rfl, takes⟩)
  constructor
  · rintro ⟨time, taken, greatest⟩
    have bound := greatest _ _ now
    rcases takenAt_snoc.mp taken with ⟨before, -⟩ | ⟨-, again⟩
    · exact absurd before.lt_length (Nat.not_lt.mpr bound)
    · exact (takes.unique again).2
  · rintro rfl
    refine ⟨history.length, now, fun later other taken => ?_⟩
    have bound := taken.lt_length
    simp only [List.length_append, List.length_singleton] at bound
    omega

/-- Nothing is taken of a file whose entry is dropped. -/
theorem not_takenAt_of_drops (drops : operation.Drops file) :
    ¬TakenAt (history ++ [operation]) file time index := by
  intro taken
  rcases takenAt_snoc.mp taken with ⟨-, kept⟩ | ⟨-, takes⟩
  · exact kept drops
  · exact takes.not_drops file drops

/-- What was taken of a file stays if an operation neither takes an index nor drops the entry. -/
theorem takenAt_of_idle (idle : ∀ index, ¬(ofOperations history).Takes operation file index)
    (kept : ¬operation.Drops file) (time : Nat) (index : FileIndex) :
    TakenAt (history ++ [operation]) file time index ↔ TakenAt history file time index := by
  simp [takenAt_snoc, kept, idle index]

end History

/-! ## What the cache holds -/

/-- A cache holds of a file what is told by a history. -/
structure Tells (history : List Operation) (cache : Cache) (file : String) : Prop where
  /-- If a generation is recorded, there is an entry. -/
  recorded : (cache.generation? file).isSome → (cache.get? file).isSome
  /-- There is an entry if an index was taken. -/
  known : (cache.get? file).isSome ↔ ∃ time, FirstTaken history file time
  /-- The entry is what was taken last. -/
  index (found : FileIndex) : cache.get? file = some found ↔ LastTaken history file found

/-- What one operation leaves of a file is told by the longer history. -/
theorem Tells.snoc {history : List Operation} {file : String}
    (tells : Tells history (ofOperations history) file) (operation : Operation) :
    Tells (history ++ [operation]) ((ofOperations history).operate operation) file := by
  -- the operation takes an index of the file, drops its entry, or leaves the file alone
  by_cases takes : ∃ index, (ofOperations history).Takes operation file index
  · obtain ⟨index, takes⟩ := takes
    have found := takes.get?_eq
    have now : TakenAt (history ++ [operation]) file history.length index :=
      takenAt_snoc.mpr (.inr ⟨rfl, takes⟩)
    constructor
    · simp [found]
    · simp [found, now.exists_first]
    · intro other
      rw [found, lastTaken_of_takes takes, Option.some.injEq, eq_comm]
  · push Not at takes
    by_cases drops : operation.Drops file
    · have gone : ((ofOperations history).operate operation).slot file = {} := slot_of_drops drops
      have entry : ((ofOperations history).operate operation).get? file = none :=
        congrArg Slot.index gone
      have number : ((ofOperations history).operate operation).generation? file = none :=
        congrArg Slot.generation gone
      constructor
      · simp [number]
      · simp [entry, FirstTaken, not_takenAt_of_drops drops]
      · simp [entry, LastTaken, not_takenAt_of_drops drops]
    · have left := slot_of_idle takes drops
      have entry : ((ofOperations history).operate operation).get? file =
        (ofOperations history).get? file := congrArg Slot.index left
      have number : ((ofOperations history).operate operation).generation? file =
        (ofOperations history).generation? file := congrArg Slot.generation left
      constructor
      · rw [entry, number]
        exact tells.recorded
      · simp only [entry, tells.known, FirstTaken, takenAt_of_idle takes drops]
      · simp only [entry, tells.index, LastTaken, takenAt_of_idle takes drops, implies_true]

/-- The cache after a history holds what the history tells. -/
theorem tells_ofOperations (history : List Operation) (file : String) :
    Tells history (ofOperations history) file := by
  induction history using List.reverseRecOn with
  | nil =>
    have nothing : ∀ time index, ¬TakenAt [] file time index :=
      fun time index taken => Nat.not_lt_zero time taken.lt_length
    constructor
    · exact nofun
    · simp [ofOperations, empty, get?, FirstTaken, nothing]
    · simp [ofOperations, empty, get?, LastTaken, nothing]
  | append_singleton earlier operation ih =>
    rw [ofOperations_snoc]
    exact ih.snoc operation

/-- The files of the cache are those of which an index was taken. -/
theorem mem_files_ofOperations (history : List Operation) (file : String) :
    file ∈ (ofOperations history).files ↔ ∃ time, FirstTaken history file time :=
  (Ledger.mem_keys_iff _ _).trans (tells_ofOperations history file).known

/-- One file came in before another. -/
def Precedes (history : List Operation) (one other : String) : Prop :=
  ∃ s t, FirstTaken history one s ∧ FirstTaken history other t ∧ s < t

/-- Files of which neither is dropped stay in their order. -/
theorem Precedes.snoc {history : List Operation} {operation : Operation} {one other : String}
    (precedes : Precedes history one other) (first : ¬operation.Drops one)
    (second : ¬operation.Drops other) : Precedes (history ++ [operation]) one other := by
  obtain ⟨s, t, before, after, less⟩ := precedes
  exact ⟨s, t, before.snoc first, after.snoc second, less⟩

/-- The files of the cache are in the order in which they came in. -/
theorem files_ofOperations_pairwise (history : List Operation) :
    (ofOperations history).files.Pairwise (Precedes history) := by
  induction history using List.reverseRecOn with
  | nil => exact .nil
  | append_singleton earlier operation ih =>
    rw [ofOperations_snoc]
    cases operation with
    | install file index generation =>
      have still : (ofOperations earlier).files.Pairwise
          (Precedes (earlier ++ [.install file index generation])) :=
        ih.imp fun precedes => precedes.snoc id id
      by_cases takes : (ofOperations earlier).Takes (.install file index generation) file index
      · rw [takes.files_eq]
        split
        · exact still
        · -- a new file is taken now, and all that is listed was taken before
          rename_i absent
          refine List.pairwise_append.mpr ⟨still, List.pairwise_singleton _ _, ?_⟩
          intro one inside other last
          rw [List.mem_singleton] at last
          subst last
          rw [mem_files_ofOperations] at absent
          obtain ⟨s, first⟩ := (mem_files_ofOperations earlier one).mp inside
          obtain ⟨found, taken⟩ := first.1
          exact ⟨s, earlier.length, first.snoc id, firstTaken_of_takes takes absent,
            taken.lt_length⟩
      · rw [operate_of_refused takes]
        exact still
    | evict dropped =>
      have files : ((ofOperations earlier).evict dropped).files =
        (ofOperations earlier).files.filter (· != dropped) := Ledger.keys_remove _ _
      rw [operate, files]
      refine (ih.filter _).imp_of_mem fun {one other} inside also precedes => ?_
      have first : one ≠ dropped := by simpa using (List.mem_filter.mp inside).2
      have second : other ≠ dropped := by simpa using (List.mem_filter.mp also).2
      exact precedes.snoc first.symm second.symm
    | clear => exact .nil

/-- A file does not come in before itself. -/
theorem Precedes.ne {history : List Operation} {one other : String}
    (precedes : Precedes history one other) : one ≠ other := by
  rintro rfl
  obtain ⟨s, t, ⟨⟨index, first⟩, -⟩, ⟨-, least⟩, less⟩ := precedes
  exact absurd (least s index first) (Nat.not_le.mpr less)

/-- After every history of a cache, a file for which a generation is recorded has an entry; the
files are listed without repetition, those of which an index was taken, in the order in which one
was first taken since the entry was last dropped; what is found under a file is what was taken last;
and a recorded generation does not go down until the entry is dropped. An installation that is
refused leaves the whole cache, and an operation on one file leaves what there is of another. -/
theorem history_told (history : List Operation) :
    (∀ file, ((ofOperations history).generation? file).isSome →
      ((ofOperations history).get? file).isSome) ∧
    (ofOperations history).files.Nodup ∧
    (∀ file, file ∈ (ofOperations history).files ↔ ∃ time, FirstTaken history file time) ∧
    (ofOperations history).files.Pairwise (Precedes history) ∧
    (∀ file index, (ofOperations history).get? file = some index ↔
      LastTaken history file index) ∧
    (∀ past rest file earlier, history = past ++ rest →
      (∀ operation ∈ rest, ¬operation.Drops file) →
      (ofOperations past).generation? file = some earlier →
      ∃ later, (ofOperations history).generation? file = some later ∧ earlier ≤ later) ∧
    (∀ (cache : Cache) (file : String) (index : FileIndex) (generation : Option Int),
      (cache.install file index generation).1 = false →
      (cache.install file index generation).2 = cache) ∧
    ∀ (cache : Cache) (operation : Operation) (file : String), ¬operation.Concerns file →
      (cache.operate operation).get? file = cache.get? file ∧
      (cache.operate operation).generation? file = cache.generation? file := by
  have tells := tells_ofOperations history
  have ordered := files_ofOperations_pairwise history
  refine ⟨fun file => (tells file).recorded, ordered.imp Precedes.ne,
    mem_files_ofOperations history, ordered, fun file => (tells file).index, ?_,
    install_of_refused, fun cache operation file other => ?_⟩
  · rintro past rest file earlier rfl kept known
    rw [ofOperations, List.foldl_append]
    exact generation_of_all_kept kept known
  · have left : (cache.operate operation).slot file = cache.slot file :=
      slot_of_not_concerns other
    exact ⟨congrArg Slot.index left, congrArg Slot.generation left⟩

/-- Two files come in, an older index of the first is refused and a newer one replaces it; then its
entry is dropped and it comes in again. -/
def comingsAndGoings : List Operation :=
  [.install "a.pl" { filePath := "second" } (some 2),
    .install "b.pl" { filePath := "untagged" } none,
    .install "a.pl" { filePath := "first" } (some 1),
    .install "a.pl" { filePath := "third" } (some 3), .evict "a.pl",
    .install "a.pl" { filePath := "again" } none]

/-- Before its entry is dropped the first file keeps its place and its newest index, and its
generation has gone up; when it comes in again it stands behind the other. -/
theorem history_told_comingsAndGoings :
    (ofOperations (comingsAndGoings.take 4)).files = ["a.pl", "b.pl"] ∧
      LastTaken (comingsAndGoings.take 4) "a.pl" { filePath := "third" } ∧
      (∃ later, (ofOperations (comingsAndGoings.take 4)).generation? "a.pl" = some later ∧
        2 ≤ later) ∧
      (ofOperations comingsAndGoings).files = ["b.pl", "a.pl"] ∧
      Precedes comingsAndGoings "b.pl" "a.pl" ∧
      LastTaken comingsAndGoings "a.pl" { filePath := "again" } := by
  obtain ⟨-, -, -, -, last, rising, -⟩ := history_told (comingsAndGoings.take 4)
  obtain ⟨-, -, -, ordered, again, -⟩ := history_told comingsAndGoings
  have kept : ∀ operation ∈ (comingsAndGoings.take 4).drop 1, ¬operation.Drops "a.pl" := by
    simp [comingsAndGoings, Operation.Drops]
  have files : (ofOperations comingsAndGoings).files = ["b.pl", "a.pl"] := rfl
  rw [files] at ordered
  exact ⟨rfl, (last _ _).mp rfl, rising (comingsAndGoings.take 1) _ "a.pl" 2 rfl kept rfl, files,
    List.pairwise_pair.mp ordered, (again _ _).mp rfl⟩

end PredicateIndex.Cache
