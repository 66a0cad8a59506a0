import Mathlib.Data.List.Forall2
import PredicateIndex.Cache.Lookup
import PredicateIndex.Proofs.Index.Grouping
import PredicateIndex.Proofs.Index.Occurrence
import PredicateIndex.Proofs.Ledger

/-!
# Answers about definitions and calls

The cache answers from records, in which the calls of all clauses of a predicate are merged. What it
answers is told here from the trees that were installed: a tree refers to a predicate at every place
in the body of an accepted clause where a compound of its name and declared arity stands. The calls
that the cache finds in a file correspond to these places one by one, each with the record of the
predicate in whose clause it stands, and the definitions are those of the files with an accepted
clause of the predicate.
-/
namespace PredicateIndex

/-- A place in the bodies of the accepted clauses of a tree. -/
structure Place where
  /-- The number of the clause. -/
  clause : Nat
  /-- The number of the goal in its body. -/
  goal : Nat
  /-- The path below the goal. -/
  path : List Step
  deriving DecidableEq, Repr

/-- A node at a place, with the clause in which it stands. -/
structure Visit where
  /-- The place. -/
  place : Place
  /-- The clause. -/
  clause : AcceptedClause
  /-- The node. -/
  node : Term

/-- The record of a predicate in a tree, merged from all its accepted clauses. -/
def Tree.merged? (tree : Tree) (predicate : String × Int) : Option PredicateRecord :=
  groupRecord? (tree.acceptedClauses.filter (·.predicate = predicate))

/-- A tree of a file refers to a predicate at a place, and a match of the call says so: a compound
of that name and declared arity stands there, and the match has its range and the merged record of
the clause in which it stands. -/
structure Tree.RefersAt (tree : Tree) (file name : String) (arity : Int) (place : Place)
    (found : CallMatch) : Prop where
  /-- Where the compound stands and what the match tells of it. -/
  stands : ∃ clause goal mark declared params,
    tree.acceptedClauses[place.clause]? = some clause ∧
    clause.goals[place.goal]? = some goal ∧
    goal.at? place.path = some (.compound mark name declared params) ∧
    Term.declaredArity declared params = arity ∧
    found.call = ⟨name, arity, (Term.compound mark name declared params).range⟩ ∧
    tree.merged? clause.predicate = some found.caller
  /-- The match names the file. -/
  here : found.file = file

/-- The nodes at all places in the body of a clause. -/
def AcceptedClause.visits (clause : AcceptedClause) (number : Nat) : List Visit :=
  clause.goals.zipIdx.flatMap fun (goal, index) =>
    goal.visits.map fun (path, node) => { place := ⟨number, index, path⟩, clause, node }

/-- The nodes at all places in the bodies of a tree. -/
def Tree.visits (tree : Tree) : List Visit :=
  tree.acceptedClauses.zipIdx.flatMap fun (clause, number) => clause.visits number

/-- The nodes in a body are those at its places. -/
theorem AcceptedClause.mem_visits {clause : AcceptedClause} {number : Nat} {visit : Visit} :
    visit ∈ clause.visits number ↔ visit.clause = clause ∧ visit.place.clause = number ∧
      ∃ goal, clause.goals[visit.place.goal]? = some goal ∧
        goal.at? visit.place.path = some visit.node := by
  obtain ⟨⟨k, i, path⟩, c, node⟩ := visit
  simp only [visits, List.mem_flatMap, List.mem_map, Prod.exists, List.mem_zipIdx_iff_getElem?,
    Visit.mk.injEq, Place.mk.injEq]
  constructor
  · rintro ⟨goal, index, found, path', node', visited, ⟨rfl, rfl, rfl⟩, rfl, rfl⟩
    exact ⟨rfl, rfl, goal, found, Term.mem_visits.mp visited⟩
  · rintro ⟨rfl, rfl, goal, found, leads⟩
    exact ⟨goal, i, found, path, node, Term.mem_visits.mpr leads, ⟨rfl, rfl, rfl⟩, rfl, rfl⟩

/-- The nodes in the bodies of a tree are those at its places. -/
theorem Tree.mem_visits {tree : Tree} {visit : Visit} :
    visit ∈ tree.visits ↔ tree.acceptedClauses[visit.place.clause]? = some visit.clause ∧
      ∃ goal, visit.clause.goals[visit.place.goal]? = some goal ∧
        goal.at? visit.place.path = some visit.node := by
  simp only [visits, List.mem_flatMap, Prod.exists, List.mem_zipIdx_iff_getElem?]
  constructor
  · rintro ⟨clause, number, listed, inside⟩
    obtain ⟨rfl, rfl, leads⟩ := AcceptedClause.mem_visits.mp inside
    exact ⟨listed, leads⟩
  · rintro ⟨listed, leads⟩
    exact ⟨_, _, listed, AcceptedClause.mem_visits.mpr ⟨rfl, rfl, leads⟩⟩

/-- Different nodes in a body stand at different places. -/
theorem AcceptedClause.nodup_visits (clause : AcceptedClause) (number : Nat) :
    ((clause.visits number).map Visit.place).Nodup := by
  have numbers : (clause.goals.zipIdx.map Prod.snd).Nodup := by
    rw [List.zipIdx_map_snd]
    exact List.nodup_range'
  rw [visits, List.map_flatMap]
  refine nodup_flatMap_of_key Place.goal numbers (fun item _ => ?_) fun item _ place found => ?_
  · have paths : Function.Injective fun path => Place.mk number item.2 path :=
      fun _ _ same => (Place.mk.inj same).2.2
    have places := item.1.nodup_visits.map paths
    rw [List.map_map] at places ⊢
    exact places
  · simp only [List.map_map, List.mem_map, Function.comp_apply] at found
    obtain ⟨visit, -, rfl⟩ := found
    rfl

/-- Different nodes in the bodies of a tree stand at different places. -/
theorem Tree.nodup_visits (tree : Tree) : (tree.visits.map Visit.place).Nodup := by
  have numbers : (tree.acceptedClauses.zipIdx.map Prod.snd).Nodup := by
    rw [List.zipIdx_map_snd]
    exact List.nodup_range'
  rw [visits, List.map_flatMap]
  refine nodup_flatMap_of_key Place.clause numbers (fun item _ => item.1.nodup_visits item.2)
    fun item _ place found => ?_
  obtain ⟨visit, inside, rfl⟩ := List.mem_map.mp found
  exact (AcceptedClause.mem_visits.mp inside).2.1

/-- The calls in a body are those of its nodes. -/
theorem AcceptedClause.visits_ownCall? (clause : AcceptedClause) (number : Nat) :
    (clause.visits number).filterMap (fun visit => visit.node.ownCall?) =
      Calls.inTerms clause.goals := by
  calc (clause.visits number).filterMap (fun visit => visit.node.ownCall?)
    _ = clause.goals.zipIdx.flatMap fun item => item.1.placedCalls := by
      rw [visits, List.filterMap_flatMap]
      simp only [List.filterMap_map]
      rfl
    _ = (clause.goals.zipIdx.map Prod.fst).flatMap Term.placedCalls :=
      (List.flatMap_map _ _ _).symm
    _ = Calls.inTerms clause.goals := by
      rw [List.zipIdx_map_fst, Calls.inTerms, Calls.collect_eq, List.filterMap_map]
      simp

/-- The calls of the clauses of a predicate are those of the nodes in their bodies. -/
theorem Tree.visits_ownCall? (tree : Tree) (predicate : String × Int) :
    (tree.visits.filter (·.clause.predicate = predicate)).filterMap
        (fun visit => visit.node.ownCall?) =
      (tree.acceptedClauses.filter (·.predicate = predicate)).flatMap fun clause =>
        Calls.inTerms clause.goals := by
  have body : ∀ item : AcceptedClause × Nat,
      ((item.1.visits item.2).filter (·.clause.predicate = predicate)).filterMap
        (fun visit => visit.node.ownCall?) =
      if item.1.predicate = predicate then Calls.inTerms item.1.goals else [] := by
    intro item
    split
    · rename_i same
      rw [List.filter_eq_self.mpr, AcceptedClause.visits_ownCall?]
      intro visit inside
      rw [(AcceptedClause.mem_visits.mp inside).1]
      exact decide_eq_true same
    · rename_i other
      rw [List.filter_eq_nil_iff.mpr, List.filterMap_nil]
      intro visit inside
      rw [(AcceptedClause.mem_visits.mp inside).1]
      simpa using other
  have chosen : ∀ clauses : List AcceptedClause, (clauses.flatMap fun clause =>
      if clause.predicate = predicate then Calls.inTerms clause.goals else []) =
      (clauses.filter (·.predicate = predicate)).flatMap fun clause =>
        Calls.inTerms clause.goals := by
    intro clauses
    induction clauses with
    | nil => rfl
    | cons clause rest ih =>
      rw [List.flatMap_cons, ih, List.filter_cons]
      by_cases same : clause.predicate = predicate <;> simp [same]
  calc (tree.visits.filter (·.clause.predicate = predicate)).filterMap
        (fun visit => visit.node.ownCall?)
    _ = tree.acceptedClauses.zipIdx.flatMap fun item =>
        if item.1.predicate = predicate then Calls.inTerms item.1.goals else [] := by
      rw [visits, List.filter_flatMap, List.filterMap_flatMap]
      exact List.flatMap_congr fun item _ => body item
    _ = (tree.acceptedClauses.zipIdx.map Prod.fst).flatMap fun clause =>
        if clause.predicate = predicate then Calls.inTerms clause.goals else [] := by
      rw [List.flatMap_map]
    _ = _ := by rw [List.zipIdx_map_fst, chosen]

/-- The calls of a merged record are those of the nodes in the bodies of its clauses. -/
theorem Tree.calls_of_merged? {tree : Tree} {predicate : String × Int} {record : PredicateRecord}
    (merged : tree.merged? predicate = some record) :
    record.calls = (tree.visits.filter (·.clause.predicate = predicate)).filterMap
      fun visit => visit.node.ownCall? := by
  rw [visits_ownCall?]
  rw [merged?] at merged
  generalize tree.acceptedClauses.filter (·.predicate = predicate) = clauses at merged
  cases clauses with
  | nil => cases merged
  | cons first rest =>
    cases merged
    rfl

/-- The match that a node gives, if it calls a predicate. -/
def Tree.matchAt? (tree : Tree) (file name : String) (arity : Int) (visit : Visit) :
    Option CallMatch :=
  (visit.node.ownCall?.filter fun call => call.calls name arity).bind fun call =>
    (tree.merged? visit.clause.predicate).map fun caller => { file, call, caller }

/-- A node gives a match exactly if the tree refers to the predicate at its place. -/
theorem Tree.matchAt?_eq_some {tree : Tree} {file name : String} {arity : Int} {visit : Visit}
    {found : CallMatch} (inside : visit ∈ tree.visits) :
    tree.matchAt? file name arity visit = some found ↔
      tree.RefersAt file name arity visit.place found := by
  obtain ⟨listed, goal, asked, leads⟩ := Tree.mem_visits.mp inside
  simp only [matchAt?, Option.bind_eq_some_iff, Option.map_eq_some_iff, Option.filter_eq_some_iff]
  constructor
  · rintro ⟨call, ⟨own, calls⟩, caller, merged, rfl⟩
    cases node : visit.node with
    | compound mark called declared params =>
      rw [node] at own leads
      cases own
      simp only [CallSite.calls, Bool.and_eq_true, beq_iff_eq] at calls
      obtain ⟨rfl, rfl⟩ := calls
      exact ⟨⟨_, goal, mark, declared, params, listed, asked, leads, rfl, rfl, merged⟩, rfl⟩
    | _ =>
      rw [node] at own
      cases own
  · rintro ⟨⟨clause, goal', mark, declared, params, listed', asked', leads', rfl, called, merged⟩,
      rfl⟩
    obtain rfl := Option.some.inj (listed.symm.trans listed')
    obtain rfl := Option.some.inj (asked.symm.trans asked')
    have node : visit.node = _ := Option.some.inj (leads.symm.trans leads')
    refine ⟨found.call, ⟨?_, ?_⟩, found.caller, merged, rfl⟩
    · rw [node, called]
      rfl
    · rw [called]
      simp [CallSite.calls]

/-- The predicates of the accepted clauses of a tree, each once. -/
def Tree.predicates (tree : Tree) : List (String × Int) :=
  (tree.acceptedClauses.map AcceptedClause.predicate).eraseDups

/-- The nodes of a tree that give matches, with the matches, predicate by predicate. -/
def Tree.matched (tree : Tree) (file name : String) (arity : Int) : List (Place × CallMatch) :=
  tree.predicates.flatMap fun predicate =>
    (tree.visits.filter (·.clause.predicate = predicate)).filterMap fun visit =>
      (tree.matchAt? file name arity visit).map fun found => (visit.place, found)

/-- The index of a tree has the merged records of its predicates. -/
theorem Tree.predicates_index (tree : Tree) (path : Option String) :
    (tree.index path).predicates = tree.predicates.filterMap tree.merged? := by
  simp only [index, clauses_eq, foldl_addClause_eq_groupRecords]
  rfl

/-- Every predicate of a tree has a merged record. -/
theorem Tree.exists_merged? {tree : Tree} {predicate : String × Int}
    (inside : predicate ∈ tree.predicates) : ∃ record, tree.merged? predicate = some record ∧
      (record.name, record.arity) = predicate :=
  exists_groupRecord? (List.mem_eraseDups.mp inside)

/-- A predicate has a merged record exactly if a clause of it was accepted. -/
theorem Tree.isSome_merged? (tree : Tree) (predicate : String × Int) :
    (tree.merged? predicate).isSome ↔ predicate ∈ tree.predicates := by
  constructor
  · intro found
    rw [predicates, List.mem_eraseDups, List.mem_map]
    rw [merged?] at found
    cases group : tree.acceptedClauses.filter (·.predicate = predicate) with
    | nil =>
      rw [group] at found
      cases found
    | cons first rest =>
      have inside : first ∈ tree.acceptedClauses.filter (·.predicate = predicate) := by simp [group]
      obtain ⟨accepted, same⟩ := List.mem_filter.mp inside
      exact ⟨first, accepted, by simpa using same⟩
  · intro inside
    obtain ⟨record, merged, -⟩ := exists_merged? inside
    simp [merged]

/-- The record that the index of a tree has of a predicate is its merged record. -/
theorem Tree.predicate?_index (tree : Tree) (path : Option String) (name : String) (arity : Int) :
    (tree.index path).predicate? name arity = tree.merged? (name, arity) := by
  have found : ∀ predicates : List (String × Int),
      (∀ predicate ∈ predicates, ∃ record, tree.merged? predicate = some record ∧
        (record.name, record.arity) = predicate) →
      (predicates.filterMap tree.merged?).find?
          (fun record => record.name == name && record.arity == arity) =
        if (name, arity) ∈ predicates then tree.merged? (name, arity) else none := by
    intro predicates
    induction predicates with
    | nil => exact fun _ => rfl
    | cons predicate rest ih =>
      intro named
      obtain ⟨record, merged, rfl⟩ := named predicate (by simp)
      have later := ih fun other inside => named other (by simp [inside])
      rw [List.filterMap_cons_some merged, List.find?_cons, later]
      by_cases same : (record.name, record.arity) = (name, arity)
      · obtain ⟨rfl, rfl⟩ := Prod.mk.inj same
        simp [merged]
      · have other : (record.name == name && record.arity == arity) = false := by
          simpa [Prod.ext_iff] using same
        simp [other, Ne.symm same]
  rw [FileIndex.predicate?, predicates_index, found _ fun _ => exists_merged?]
  split
  · rfl
  · rename_i absent
    rw [← isSome_merged?, Option.not_isSome_iff_eq_none] at absent
    exact absent.symm

/-- The calls of a predicate that the index of a tree has are those of the nodes that give
matches. -/
theorem Tree.callMatches_index (tree : Tree) (path : Option String) (file name : String)
    (arity : Int) :
    ((tree.index path).predicates.flatMap fun record =>
        (record.callMatches file).filter fun found => found.call.calls name arity) =
      (tree.matched file name arity).map Prod.snd := by
  rw [predicates_index, List.filterMap_eq_flatMap_toList, List.flatMap_assoc, matched,
    List.map_flatMap]
  refine List.flatMap_congr fun predicate inside => ?_
  obtain ⟨record, merged, -⟩ := exists_merged? inside
  have given : ∀ visit ∈ tree.visits.filter (·.clause.predicate = predicate),
      tree.matchAt? file name arity visit =
        (visit.node.ownCall?.filter fun call => call.calls name arity).map fun call =>
          { file, call, caller := record } := by
    intro visit inside
    obtain rfl : visit.clause.predicate = predicate := by simpa using (List.mem_filter.mp inside).2
    rw [matchAt?, merged]
    cases visit.node.ownCall?.filter fun call => call.calls name arity <;> rfl
  rw [merged, List.map_filterMap]
  simp only [Option.toList_some, List.flatMap_cons, List.flatMap_nil, List.append_nil,
    PredicateRecord.callMatches]
  rw [List.filter_map, calls_of_merged? merged, List.filter_filterMap, List.map_filterMap]
  refine List.filterMap_congr fun visit inside => ?_
  rw [given visit inside, Option.map_map, Option.map_map]
  rfl

/-- The places where matches are found are those where the tree refers to the predicate. -/
theorem Tree.mem_matched {tree : Tree} {file name : String} {arity : Int} {place : Place}
    {found : CallMatch} :
    (place, found) ∈ tree.matched file name arity ↔ tree.RefersAt file name arity place found := by
  simp only [matched, List.mem_flatMap, List.mem_filterMap, List.mem_filter, Option.map_eq_some_iff,
    Prod.mk.injEq, decide_eq_true_eq]
  constructor
  · rintro ⟨predicate, -, visit, ⟨inside, -⟩, found, matched, rfl, rfl⟩
    exact (matchAt?_eq_some inside).mp matched
  · intro refers
    obtain ⟨clause, goal, mark, declared, params, listed, asked, leads, -⟩ := refers.stands
    have inside : Visit.mk place clause (.compound mark name declared params) ∈ tree.visits :=
      Tree.mem_visits.mpr ⟨listed, goal, asked, leads⟩
    have known : clause.predicate ∈ tree.predicates :=
      List.mem_eraseDups.mpr (List.mem_map_of_mem (List.mem_of_getElem? listed))
    exact ⟨_, known, _, ⟨inside, rfl⟩, found, (matchAt?_eq_some inside).mpr refers, rfl, rfl⟩

/-- Matches are found once at each place. -/
theorem Tree.nodup_matched (tree : Tree) (file name : String) (arity : Int) :
    ((tree.matched file name arity).map Prod.fst).Nodup := by
  rw [matched, List.map_flatMap]
  have distinct : (tree.predicates.map some).Nodup :=
    (nodup_eraseDups _).map fun _ _ => Option.some.inj
  -- a place tells its clause, and so the predicate under which it is listed
  refine nodup_flatMap_of_key
    (fun place => tree.acceptedClauses[place.clause]?.map AcceptedClause.predicate) distinct
    (fun predicate _ => ?_) fun predicate _ place found => ?_
  · have places := List.Pairwise.filter (fun visit => visit.clause.predicate = predicate)
      (List.pairwise_map.mp tree.nodup_visits)
    have told : ∀ {visit : Visit} {place : Place},
        ((tree.matchAt? file name arity visit).map fun found => (visit.place, found)).map Prod.fst =
          some place → visit.place = place := by
      intro visit place given
      obtain ⟨_, paired, rfl⟩ := Option.map_eq_some_iff.mp given
      obtain ⟨_, -, rfl⟩ := Option.map_eq_some_iff.mp paired
      rfl
    rw [List.map_filterMap]
    refine List.pairwise_filterMap.mpr
      (places.imp fun different place first other second same => ?_)
    exact different ((told first).trans (same.trans (told second).symm))
  · obtain ⟨⟨_, found⟩, inside, rfl⟩ := List.mem_map.mp found
    obtain ⟨visit, kept, matched⟩ := List.mem_filterMap.mp inside
    obtain ⟨visited, same⟩ := List.mem_filter.mp kept
    obtain ⟨found', -, pair⟩ := Option.map_eq_some_iff.mp matched
    cases pair
    rw [(Tree.mem_visits.mp visited).1, Option.map_some]
    exact congrArg some (by simpa using same)

/-- What is done to a cache: the index of a tree is installed, or the entry of a file is dropped. -/
inductive Upkeep where
  /-- The index of a tree is installed for a file, perhaps under a generation. -/
  | install (file : String) (tree : Tree) (path : Option String) (generation : Option Int)
  /-- The entry of a file is dropped. -/
  | evict (file : String)

/-- What the cache has of a file, told by its tree. -/
structure Held where
  /-- The tree whose index is there. -/
  tree : Option Tree := none
  /-- The generation that is recorded. -/
  generation : Option Int := none

/-- An installation is refused if its generation is older than the recorded one. -/
def Held.refuses (held : Held) : Option Int → Bool
  | some offered => held.generation.any fun recorded => offered < recorded
  | none => false

/-- What the cache has of a file after something is done: the latest tree that was not refused since
its entry was dropped, and the latest generation. -/
def Held.after (file : String) (held : Held) : Upkeep → Held
  | .install name tree _ generation =>
    if name = file ∧ held.refuses generation = false then
      { tree := some tree, generation := generation.or held.generation }
    else held
  | .evict name => if name = file then {} else held

/-- What the cache has of a file after a history. -/
def Held.ofHistory (history : List Upkeep) (file : String) : Held :=
  history.foldl (Held.after file) {}

namespace Cache

/-- The cache after something is done. -/
def after (cache : Cache) : Upkeep → Cache
  | .install file tree path generation => (cache.install file (tree.index path) generation).2
  | .evict file => cache.evict file

/-- The cache after a history. -/
def ofHistory (history : List Upkeep) : Cache := history.foldl after .empty

/-- A cache has of every file what is held of it. -/
structure Reflects (cache : Cache) (held : String → Held) : Prop where
  /-- Every file has one entry. -/
  distinct : cache.files.Nodup
  /-- The index of a file is that of the tree that is held of it. -/
  index (file : String) : Option.Rel (fun index tree => ∃ path, index = Tree.index tree path)
    (cache.get? file) (held file).tree
  /-- The recorded generation is the one that is held. -/
  generation (file : String) : cache.generation? file = (held file).generation

variable {cache : Cache} {held : String → Held}

/-- An installation comes too late exactly if it is refused. -/
theorem Reflects.isStale (reflects : cache.Reflects held) (file : String)
    (generation : Option Int) :
    cache.isStale file generation = (held file).refuses generation := by
  cases generation with
  | none => rfl
  | some offered =>
    simp only [Cache.isStale, Held.refuses, reflects.generation]
    cases (held file).generation <;> rfl

/-- An index that is written is that of the tree that is held then. -/
theorem Reflects.write (reflects : cache.Reflects held) (name : String) (tree : Tree)
    (path : Option String) (generation : Option Int)
    (timely : (held name).refuses generation = false) :
    (cache.write name (tree.index path) generation).Reflects fun file =>
      (held file).after file (.install name tree path generation) := by
  constructor
  · exact Ledger.nodup_keys_put reflects.distinct name _
  · intro file
    have entry : (cache.write name (tree.index path) generation).get? file =
      if name = file then some (tree.index path) else cache.get? file := Ledger.get?_put _ _ _ _
    rw [entry, Held.after]
    by_cases same : name = file
    · subst same
      rw [if_pos rfl, if_pos ⟨rfl, timely⟩]
      exact .some ⟨path, rfl⟩
    · rw [if_neg same, if_neg fun both => same both.1]
      exact reflects.index file
  · intro file
    have recorded : (cache.write name (tree.index path) generation).generation? file =
        if name = file then generation.or (cache.generation? file) else cache.generation? file := by
      cases generation with
      | none =>
        simp only [Option.none_or, ite_self]
        rfl
      | some number => exact Ledger.get?_put _ _ _ _
    rw [recorded, Held.after, reflects.generation]
    by_cases same : name = file
    · subst same
      rw [if_pos rfl, if_pos ⟨rfl, timely⟩]
    · rw [if_neg same, if_neg fun both => same both.1]

/-- What is done to a cache is done to what is held. -/
theorem Reflects.after (reflects : cache.Reflects held) (upkeep : Upkeep) :
    (cache.after upkeep).Reflects fun file => (held file).after file upkeep := by
  cases upkeep with
  | install name tree path generation =>
    rw [Cache.after, install, reflects.isStale]
    split
    · rename_i refused
      have kept : (fun file => (held file).after file (.install name tree path generation)) =
          held := by
        funext file
        refine if_neg ?_
        rintro ⟨rfl, timely⟩
        cases refused.symm.trans timely
      rw [kept]
      exact reflects
    · rename_i timely
      exact reflects.write name tree path generation (by simpa using timely)
  | evict name =>
    constructor
    · exact Ledger.nodup_keys_remove reflects.distinct name
    · intro file
      have entry : (cache.evict name).get? file = if name = file then none else cache.get? file :=
        Ledger.get?_remove _ _ _
      rw [Cache.after, entry, Held.after]
      split
      · exact .none
      · exact reflects.index file
    · intro file
      have recorded : (cache.evict name).generation? file =
        if name = file then none else cache.generation? file := Ledger.get?_remove _ _ _
      rw [Cache.after, recorded, Held.after]
      split
      · rfl
      · exact reflects.generation file

/-- Every cache reflects its history. -/
theorem reflects_ofHistory (history : List Upkeep) :
    (ofHistory history).Reflects (Held.ofHistory history) := by
  have all : ∀ {cache : Cache} {held : String → Held}, cache.Reflects held →
      (history.foldl Cache.after cache).Reflects fun file =>
        history.foldl (Held.after file) (held file) := by
    induction history with
    | nil => exact fun reflects => reflects
    | cons upkeep rest ih => exact fun reflects => ih (reflects.after upkeep)
  exact all ⟨List.nodup_nil, fun _ => .none, fun _ => rfl⟩

/-- The calls that are found are those in the trees that are held, file by file. -/
theorem Reflects.references_eq (reflects : cache.Reflects held) (name : String) (arity : Int) :
    cache.references name arity = cache.files.flatMap fun file =>
      (held file).tree.toList.flatMap fun tree => (tree.matched file name arity).map Prod.snd := by
  rw [references, Ledger.flatMap_eq_keys reflects.distinct]
  refine List.flatMap_congr fun file _ => ?_
  have same : Option.Rel _ (cache.entries.get? file) _ := reflects.index file
  generalize cache.entries.get? file = entry at same ⊢
  generalize (held file).tree = installed at same ⊢
  cases same with
  | none => rfl
  | some indexed =>
    obtain ⟨path, rfl⟩ := indexed
    simp only [Option.toList_some, List.flatMap_cons, List.flatMap_nil, List.append_nil]
    exact Tree.callMatches_index _ path file name arity

/-- The definitions that are found are those of the trees that are held, file by file. -/
theorem Reflects.definitions_eq (reflects : cache.Reflects held) (name : String) (arity : Int) :
    cache.definitions name arity = cache.files.filterMap fun file =>
      (held file).tree.bind fun tree =>
        (tree.merged? (name, arity)).map fun record => { file, record } := by
  rw [definitions, List.filterMap_eq_flatMap_toList, List.filterMap_eq_flatMap_toList,
    Ledger.flatMap_eq_keys reflects.distinct]
  refine List.flatMap_congr fun file _ => ?_
  have same : Option.Rel _ (cache.entries.get? file) _ := reflects.index file
  generalize cache.entries.get? file = entry at same ⊢
  generalize (held file).tree = installed at same ⊢
  cases same with
  | none => rfl
  | some indexed =>
    obtain ⟨path, rfl⟩ := indexed
    simp [Tree.predicate?_index]

/-- The files of a cache are those of which a tree is held. -/
theorem Reflects.mem_files (reflects : cache.Reflects held) (file : String) :
    file ∈ cache.files ↔ (held file).tree.isSome := by
  have same := reflects.index file
  rw [files, Ledger.mem_keys_iff]
  generalize (held file).tree = installed at same ⊢
  rw [Cache.get?] at same
  generalize cache.entries.get? file = entry at same ⊢
  cases same <;> rfl

/-- The cache has one entry for each file of which a tree is held. The calls of a predicate that it
finds, file by file, correspond one by one to the places in the bodies of the accepted clauses of
its trees where the predicate is referred to; the definitions that it finds are the merged records
of the files with an accepted clause of the predicate, in the order of the files; and the definition
that it finds is the first of them. -/
theorem queries_reflect_trees (history : List Upkeep) (name : String) (arity : Int) :
    (ofHistory history).files.Nodup ∧
    (∀ file, file ∈ (ofHistory history).files ↔ (Held.ofHistory history file).tree.isSome) ∧
    (∃ hits : String → List CallMatch,
      (ofHistory history).references name arity = (ofHistory history).files.flatMap hits ∧
      ∀ file tree, (Held.ofHistory history file).tree = some tree →
        ∃ places : List Place, places.Nodup ∧
          (∀ place, place ∈ places ↔ ∃ found, tree.RefersAt file name arity place found) ∧
          List.Forall₂ (tree.RefersAt file name arity) places (hits file)) ∧
    ((ofHistory history).definitions name arity = (ofHistory history).files.filterMap fun file =>
      (Held.ofHistory history file).tree.bind fun tree =>
        (tree.merged? (name, arity)).map fun record => { file, record }) ∧
    (∀ tree : Tree, (tree.merged? (name, arity)).isSome ↔
      ∃ clause ∈ tree.acceptedClauses, clause.predicate = (name, arity)) ∧
    (ofHistory history).definition? name arity =
      ((ofHistory history).definitions name arity).head? := by
  have reflects := reflects_ofHistory history
  refine ⟨reflects.distinct, reflects.mem_files, ⟨_, reflects.references_eq name arity, ?_⟩,
    reflects.definitions_eq name arity, fun tree => ?_, rfl⟩
  · intro file tree installed
    refine ⟨(tree.matched file name arity).map Prod.fst, tree.nodup_matched file name arity,
      fun place => ?_, ?_⟩
    · simp [Tree.mem_matched]
    · simp only [installed, Option.toList_some, List.flatMap_cons, List.flatMap_nil,
        List.append_nil]
      rw [List.forall₂_map_left_iff, List.forall₂_map_right_iff, List.forall₂_same]
      exact fun pair inside => Tree.mem_matched.mp inside
  · rw [Tree.isSome_merged?, Tree.predicates, List.mem_eraseDups, List.mem_map]

/-- A rule of `p` whose only goal calls `q` with a parameter that calls `q` again. -/
def nested : Tree :=
  let inner : Term := .compound {} "q" none [.var {} false "X"]
  let goal : Term := .compound {} "q" none [inner]
  { items := [{ body := .rule (some (.atom {} "p")) [goal] }] }

/-- Installing an older generation changes nothing, and both calls of the rule are found at their
places. -/
theorem queries_reflect_trees_nested :
    (Held.ofHistory [.install "a.pl" nested none (some 2), .install "a.pl" {} none (some 1)]
      "a.pl").tree = some nested ∧
    ∃ places : List Place, places.Nodup ∧
      (∀ place, place ∈ places ↔ ∃ found, nested.RefersAt "a.pl" "q" 1 place found) ∧
      ⟨0, 0, []⟩ ∈ places ∧ ⟨0, 0, [.param 0]⟩ ∈ places := by
  obtain ⟨-, -, ⟨hits, -, placed⟩, -⟩ := queries_reflect_trees
    [.install "a.pl" nested none (some 2), .install "a.pl" {} none (some 1)] "q" 1
  obtain ⟨places, distinct, complete, -⟩ := placed "a.pl" nested rfl
  have caller : ∃ record, nested.merged? ("p", 0) = some record := ⟨_, rfl⟩
  obtain ⟨record, merged⟩ := caller
  refine ⟨rfl, places, distinct, complete, (complete _).mpr ?_, (complete _).mpr ?_⟩
  · exact ⟨⟨"a.pl", _, record⟩, ⟨_, _, _, _, _, rfl, rfl, rfl, rfl, rfl, merged⟩, rfl⟩
  · exact ⟨⟨"a.pl", _, record⟩, ⟨_, _, _, _, _, rfl, rfl, rfl, rfl, rfl, merged⟩, rfl⟩

end Cache

end PredicateIndex
