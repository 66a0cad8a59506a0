import PredicateIndex.Index.Build
import PredicateIndex.Proofs.Index.Indicator

/-!
# The index groups the clauses of a tree

An index is built in one pass over the items, which finds the record of each clause by the written
form of its predicate. `Tree.grouped` says what comes out without a pass: the clauses that name a
predicate are grouped by name and arity, and each group gives one record. The two are equal for
every tree, because a written form determines the predicate.
-/
namespace PredicateIndex

/-- The predicate that a head names: a compound or an atom whose name is not empty. -/
def Term.named? : Term → Option (String × Int)
  | .compound _ name arity params =>
    if name = "" then none else some (name, Term.declaredArity arity params)
  | .atom _ text => if text = "" then none else some (text, 0)
  | _ => none

/-- An item that is accepted as a clause of a predicate. -/
structure AcceptedClause where
  /-- The name and the arity of the predicate. -/
  predicate : String × Int
  /-- The item. -/
  item : Item
  /-- The head of the item. -/
  head : Term
  /-- The goals of the item; a fact has none. -/
  goals : List Term

/-- A rule or a fact is accepted if its head names a predicate. -/
def Item.accepted? (item : Item) : Option AcceptedClause :=
  match item.body with
  | .rule (some head) goals => head.named?.map fun predicate => { predicate, item, head, goals }
  | .fact (some head) => head.named?.map fun predicate => { predicate, item, head, goals := [] }
  | _ => none

/-- What an accepted clause covers. -/
def AcceptedClause.full (clause : AcceptedClause) : SourceRange :=
  clause.item.fullRange clause.head.range

/-- The record of the clauses of one predicate: the first fixes the definition, and all of them
together give the full range and the calls. -/
def groupRecord? : List AcceptedClause → Option PredicateRecord
  | [] => none
  | first :: rest => some {
      name := first.predicate.1
      arity := first.predicate.2
      definition := first.head.range
      full := rest.foldl (fun range clause => range.union clause.full) first.full
      calls := (first :: rest).flatMap fun clause => Calls.inTerms clause.goals }

/-- The error that is reported for a place that could not be read. -/
def Item.readError? (item : Item) : Option Diagnostic :=
  match item.body with
  | .parseError kind => some {
      line := (item.mark.line.filter (· ≠ 0)).getD 1
      character := max ((item.mark.column.filter (· ≠ 0)).getD 1 - 1) 0
      message := kind ++ " error"
      severity := .error }
  | _ => none

/-- The accepted clauses of a tree, in order. -/
def Tree.acceptedClauses (tree : Tree) : List AcceptedClause := tree.items.filterMap Item.accepted?

/-- The records of a sequence of clauses: one for each distinct predicate, in the order of first
occurrence. -/
def groupRecords (clauses : List AcceptedClause) : List PredicateRecord :=
  (clauses.map AcceptedClause.predicate).eraseDups.filterMap fun predicate =>
    groupRecord? (clauses.filter (·.predicate = predicate))

/-- The index of a tree by grouping its accepted clauses, with one error for each place that could
not be read. -/
def Tree.grouped (tree : Tree) (filePath : Option String) : FileIndex where
  filePath := filePath.getD tree.file
  predicates := groupRecords tree.acceptedClauses
  diagnostics := tree.items.filterMap Item.readError?

/-- An accepted clause as the pass sees it. -/
def AcceptedClause.clause (accepted : AcceptedClause) : Clause where
  name := accepted.predicate.1
  arity := accepted.predicate.2
  definition := accepted.head.range
  full := accepted.full
  calls := Calls.inTerms accepted.goals

/-- The head of a clause names the same predicate on both sides. -/
theorem headPredicate?_eq_named? (t : Term) : t.headPredicate? = t.named? := by
  cases t with
  | compound mark name arity params => simp [Term.headPredicate?, Term.named?]
  | atom mark text => simp [Term.headPredicate?, Term.named?]
  | _ => rfl

/-- The pass takes in exactly the accepted clauses. -/
theorem toClause?_eq_accepted? (item : Item) :
    item.toClause? = item.accepted?.map AcceptedClause.clause := by
  obtain ⟨mark, span, body⟩ := item
  cases body with
  | rule head goals =>
    cases head with
    | none => rfl
    | some head =>
      simp only [Item.toClause?, Item.accepted?, ItemBody.clause?, Option.bind_eq_bind,
        Option.bind_some, headPredicate?_eq_named?]
      cases head.named? <;> rfl
  | fact head =>
    cases head with
    | none => rfl
    | some head =>
      simp only [Item.toClause?, Item.accepted?, ItemBody.clause?, Option.bind_eq_bind,
        Option.bind_some, headPredicate?_eq_named?]
      cases head.named? <;> rfl
  | _ => rfl

/-- The clauses of a tree are its accepted clauses, in order. -/
theorem clauses_eq (tree : Tree) :
    tree.clauses = tree.acceptedClauses.map AcceptedClause.clause := by
  rw [Tree.clauses, Tree.acceptedClauses, List.map_filterMap]
  exact congrArg (List.filterMap · tree.items) (funext toClause?_eq_accepted?)

/-- A record and a clause have the same written form exactly when they are of one predicate. -/
theorem key_eq_key_iff (record : PredicateRecord) (accepted : AcceptedClause) :
    record.key = accepted.clause.key ↔ (record.name, record.arity) = accepted.predicate := by
  rw [PredicateRecord.key, Clause.key, indicator_inj]
  simp [AcceptedClause.clause, Prod.ext_iff]

/-- A further clause widens the record of its group, or starts a record. -/
theorem groupRecord?_append (clauses : List AcceptedClause) (accepted : AcceptedClause) :
    groupRecord? (clauses ++ [accepted]) =
      some (((groupRecord? clauses).map (·.extend accepted.clause)).getD
        accepted.clause.toRecord) := by
  cases clauses with
  | nil => simp [groupRecord?, Clause.toRecord, AcceptedClause.clause]
  | cons first rest =>
    simp [groupRecord?, PredicateRecord.extend, AcceptedClause.clause, List.foldl_append]

/-- Adding a clause changes the record of its predicate and no other, and adds a record at the end
if there was none. -/
theorem addClause_filterMap (record? : String × Int → Option PredicateRecord)
    (accepted : AcceptedClause) (predicates : List (String × Int))
    (distinct : predicates.Nodup)
    (named : ∀ predicate ∈ predicates, ∃ record, record? predicate = some record ∧
      (record.name, record.arity) = predicate) :
    addClause (predicates.filterMap record?) accepted.clause =
      (predicates.filterMap fun predicate =>
        if predicate = accepted.predicate then (record? predicate).map (·.extend accepted.clause)
        else record? predicate) ++
      if accepted.predicate ∈ predicates then [] else [accepted.clause.toRecord] := by
  induction predicates with
  | nil => simp [addClause]
  | cons predicate rest ih =>
    obtain ⟨record, recorded, name⟩ := named predicate (by simp)
    obtain ⟨fresh, distinct⟩ := List.nodup_cons.mp distinct
    by_cases same : predicate = accepted.predicate
    · have others : rest.filterMap (fun predicate => if predicate = accepted.predicate then
            (record? predicate).map (·.extend accepted.clause) else record? predicate) =
          rest.filterMap record? := by
        refine List.filterMap_congr fun other inside => if_neg ?_
        rintro rfl
        exact fresh (same ▸ inside)
      have found : record.key = accepted.clause.key :=
        (key_eq_key_iff record accepted).mpr (name.trans same)
      simp [addClause, found, same ▸ recorded, others, same]
    · have other : record.key ≠ accepted.clause.key := fun found =>
        same (name.symm.trans ((key_eq_key_iff record accepted).mp found))
      simp [recorded, addClause, other, same, Ne.symm same,
        ih distinct fun p inside => named p (by simp [inside])]

/-- One more element is a new one at the end or adds nothing. -/
theorem eraseDups_snoc {α : Type} [BEq α] [LawfulBEq α] [DecidableEq α] (l : List α) (a : α) :
    (l ++ [a]).eraseDups = l.eraseDups ++ if a ∈ l then [] else [a] := by
  have single : [a].eraseDups = [a] := by rw [List.eraseDups_cons]; rfl
  rw [List.eraseDups_append]
  by_cases inside : a ∈ l <;> simp [List.removeAll, inside, single]

/-- Distinct elements are listed once. -/
theorem nodup_eraseDups {α : Type} [BEq α] [LawfulBEq α] [DecidableEq α] (l : List α) :
    l.eraseDups.Nodup := by
  induction l using List.reverseRecOn with
  | nil => simp
  | append_singleton l a ih =>
    rw [eraseDups_snoc]
    split
    · simpa using ih
    · rename_i outside
      refine List.nodup_append.mpr ⟨ih, by simp, ?_⟩
      rintro b inside c one rfl
      exact outside (List.mem_eraseDups.mp (List.mem_singleton.mp one ▸ inside))

/-- Every predicate of a sequence of clauses has a record of its name and arity. -/
theorem exists_groupRecord? {clauses : List AcceptedClause} {predicate : String × Int}
    (inside : predicate ∈ clauses.map AcceptedClause.predicate) :
    ∃ record, groupRecord? (clauses.filter (·.predicate = predicate)) = some record ∧
      (record.name, record.arity) = predicate := by
  obtain ⟨accepted, member, rfl⟩ := List.mem_map.mp inside
  have grouped : accepted ∈ clauses.filter (·.predicate = accepted.predicate) := by simp [member]
  cases group : clauses.filter (·.predicate = accepted.predicate) with
  | nil => simp [group] at grouped
  | cons first rest =>
    have head : first ∈ clauses.filter (·.predicate = accepted.predicate) := by simp [group]
    have same : first.predicate = accepted.predicate := by simpa using (List.mem_filter.mp head).2
    exact ⟨_, rfl, by simp [same]⟩

/-- One step of the pass is one more clause in the groups. -/
theorem addClause_groupRecords (clauses : List AcceptedClause) (accepted : AcceptedClause) :
    addClause (groupRecords clauses) accepted.clause = groupRecords (clauses ++ [accepted]) := by
  have named : ∀ predicate ∈ (clauses.map AcceptedClause.predicate).eraseDups, ∃ record,
      groupRecord? (clauses.filter (·.predicate = predicate)) = some record ∧
        (record.name, record.arity) = predicate :=
    fun predicate inside => exists_groupRecord? (List.mem_eraseDups.mp inside)
  rw [groupRecords, addClause_filterMap _ accepted _ (nodup_eraseDups _) named, groupRecords,
    List.map_append, List.map_singleton, eraseDups_snoc, List.filterMap_append]
  congr 1
  · refine List.filterMap_congr fun predicate inside => ?_
    split
    · rename_i same
      obtain ⟨record, grouped, -⟩ := named predicate inside
      subst same
      simp [groupRecord?_append, grouped]
    · rename_i other
      simp [Ne.symm other]
  · split
    · rename_i inside
      simp [List.mem_eraseDups.mp inside]
    · rename_i outside
      have absent : accepted.predicate ∉ clauses.map AcceptedClause.predicate :=
        fun inside => outside (List.mem_eraseDups.mpr inside)
      have empty : clauses.filter (·.predicate = accepted.predicate) = [] := by
        simpa using absent
      simp [absent, empty, groupRecord?, Clause.toRecord, AcceptedClause.clause]

/-- The pass gives the records of the groups. -/
theorem foldl_addClause_eq_groupRecords (clauses : List AcceptedClause) :
    (clauses.map AcceptedClause.clause).foldl addClause [] = groupRecords clauses := by
  induction clauses using List.reverseRecOn with
  | nil => rfl
  | append_singleton clauses accepted ih =>
    rw [List.map_append, List.foldl_append, ih]
    exact addClause_groupRecords clauses accepted

/-- The error of a place that could not be read is the same on both sides. -/
theorem diagnostic?_eq_readError? (item : Item) : item.diagnostic? = item.readError? := by
  obtain ⟨mark, span, body⟩ := item
  have orOne : ∀ n : Option Int, (if n.getD 0 == 0 then 1 else n.getD 0) =
      (n.filter (· ≠ 0)).getD 1 := by
    rintro (_ | n)
    · rfl
    · by_cases zero : n = 0 <;> simp [zero, Option.filter]
  cases body with
  | parseError kind => simp only [Item.diagnostic?, Item.readError?, orOne]
  | _ => rfl

/-- The index of a tree is the grouping of its clauses. -/
theorem Tree.index_eq_grouped (tree : Tree) (filePath : Option String) :
    tree.index filePath = tree.grouped filePath := by
  simp only [Tree.index, Tree.grouped, clauses_eq, foldl_addClause_eq_groupRecords,
    funext diagnostic?_eq_readError?]

end PredicateIndex
