import Mathlib.Algebra.BigOperators.Group.List.Lemmas
import PredicateIndex.Proofs.Index.Extent

/-!
# What indexing reports

Indexing a tree gives notices besides the index. What they have to be is told here item by item: a
rule or a fact whose head names no predicate is reported and nothing in it is looked at, and of an
accepted clause the head and the compounds in the body are reported that do not tell where they
stand. Main result: the notices of a tree are exactly these, in the order of the source, so each
rule or fact is either reported or one of the clauses from which a record is merged.
-/
namespace PredicateIndex

namespace Term

/-- A term tells where it stands: its line and its column are known, and neither is zero. -/
def Located (t : Term) : Prop :=
  ∃ line column, t.mark.line = some line ∧ t.mark.column = some column ∧ line ≠ 0 ∧ column ≠ 0

/-- The check of a position finds the terms that tell where they stand. -/
theorem hasPosition_iff_located (t : Term) : t.mark.hasPosition ↔ t.Located := by
  rw [Mark.hasPosition, Bool.and_eq_true, Option.any_eq_true, Option.any_eq_true]
  simp only [bne_iff_ne]
  constructor
  · rintro ⟨⟨line, hasLine, line_ne⟩, column, hasColumn, column_ne⟩
    exact ⟨line, column, hasLine, hasColumn, line_ne, column_ne⟩
  · rintro ⟨line, column, hasLine, hasColumn, line_ne, column_ne⟩
    exact ⟨⟨line, hasLine, line_ne⟩, column, hasColumn, column_ne⟩

instance : DecidablePred Located := fun t => decidable_of_iff _ t.hasPosition_iff_located

/-- Whether a term is a name applied to parameters. -/
def isCompound : Term → Bool
  | .compound .. => true
  | _ => false

/-- The compounds at all places below a term: a term comes before its parts, and the parts come from
left to right. -/
def compounds (t : Term) : List Term := (t.visits.map Prod.snd).filter isCompound

/-- The compounds below a term are itself, if it is one, and those below its children. -/
theorem compounds_eq (t : Term) :
    t.compounds = [t].filter isCompound ++ (t.children.filterMap id).flatMap compounds := by
  have below : (t.children.filterMap id).flatMap compounds =
      t.parts.flatMap fun part => part.2.compounds := by
    rw [← parts_map_snd, List.flatMap_map]
  rw [below, compounds, visits_eq, List.map_cons, List.map_flatMap, ← List.singleton_append,
    List.filter_append, List.filter_flatMap]
  simp only [List.map_map]
  rfl

end Term

/-- The notices about those among some terms that do not tell where they stand. -/
def missingPositions (terms : List Term) : List IndexNotice :=
  (terms.filter (¬ ·.Located)).map fun t => .missingPosition t.tag

/-- Notices about terms in two rows come one after the other. -/
theorem missingPositions_append (a b : List Term) :
    missingPositions (a ++ b) = missingPositions a ++ missingPositions b := by
  rw [missingPositions, List.filter_append, List.map_append]
  rfl

/-- The notice about one term is the one of its check. -/
theorem missingPositions_singleton (t : Term) : missingPositions [t] = t.positionNotices := by
  have checked := t.hasPosition_iff_located
  by_cases located : t.Located
  · simp [missingPositions, Term.positionNotices, located, checked.mpr located]
  · have unchecked : t.mark.hasPosition = false := by simpa [located] using checked
    simp [missingPositions, Term.positionNotices, located, unchecked]

/-- A work list gives notices about the compounds below its terms, term by term. -/
theorem Calls.notices_eq (work : List (Option Term)) :
    notices work = missingPositions ((work.filterMap id).flatMap Term.compounds) := by
  fun_induction notices work with
  | case1 => rfl
  | case2 rest ih => simpa using ih
  | case3 t rest ih =>
    have own : (if t.ownCall?.isSome then t.positionNotices else []) =
        missingPositions ([t].filter Term.isCompound) := by
      cases t with
      | compound mark name arity params => exact (missingPositions_singleton _).symm
      | _ => rfl
    have first : (some t :: rest).filterMap id = t :: rest.filterMap id := rfl
    rw [ih, own, first, List.flatMap_cons, Term.compounds_eq t, List.filterMap_append,
      List.flatMap_append, ← missingPositions_append, List.append_assoc]

/-- The terms of an accepted clause whose places are asked for: its head, then the compounds in its
body. -/
def AcceptedClause.placed (clause : AcceptedClause) : List Term :=
  clause.head :: clause.goals.flatMap Term.compounds

/-- Whether an item is a rule or a fact. -/
def Item.isClause (item : Item) : Bool :=
  match item.body with
  | .rule .. | .fact .. => true
  | _ => false

/-- What has to be reported of an item of a file: of an accepted clause the terms that do not tell
where they stand, and a rule or a fact that is not accepted itself. -/
def Item.owed (file : String) (item : Item) : List IndexNotice :=
  match item.accepted?, item.body with
  | some clause, _ => missingPositions clause.placed
  | none, .rule head _ | none, .fact head =>
    [.unsupportedHead file item.mark.line (head.map Term.tag)]
  | none, _ => []

/-- Whether a notice reports a clause that was left out. -/
def IndexNotice.isUnsupportedHead : IndexNotice → Bool
  | .unsupportedHead .. => true
  | .missingPosition _ => false

/-- The notices of a head and of a body are those about the places of the clause. -/
theorem AcceptedClause.notices_placed (clause : AcceptedClause) :
    clause.head.positionNotices ++ Calls.noticesInTerms clause.goals =
      missingPositions clause.placed := by
  have goals : (clause.goals.map some).filterMap id = clause.goals := by simp
  rw [Calls.noticesInTerms, Calls.notices_eq, goals, ← missingPositions_singleton,
    ← missingPositions_append]
  rfl

/-- An item gives the notices that it has to give. -/
theorem Item.notices_eq_owed (file : String) (item : Item) :
    item.notices file = item.owed file := by
  obtain ⟨mark, span, body⟩ := item
  -- a rule and a fact differ only in their goals
  cases body with
  | rule head goals | fact head =>
    rcases head with _ | head
    · rfl
    · cases named : head.named? with
      | none =>
        simp [Item.notices, Item.owed, Item.accepted?, ItemBody.clause?, Option.filter,
          headPredicate?_eq_named?, named]
      | some predicate =>
        simp only [Item.notices, Item.owed, Item.accepted?, ItemBody.clause?, Option.filter,
          headPredicate?_eq_named?, named, Option.isSome_some, if_true, Option.map_some]
        exact AcceptedClause.notices_placed ⟨predicate, _, head, _⟩
  | _ => rfl

/-- Notices about terms without a place report no clause as left out. -/
theorem countP_missingPositions (terms : List Term) :
    (missingPositions terms).countP IndexNotice.isUnsupportedHead = 0 := by
  rw [missingPositions, List.countP_map, List.countP_eq_zero]
  exact fun _ _ => Bool.false_ne_true

/-- A rule or a fact is either reported as left out or accepted, and no other item is. -/
theorem Item.countP_isClause (file : String) (item : Item) :
    [item].countP Item.isClause =
      (item.owed file).countP IndexNotice.isUnsupportedHead + item.accepted?.toList.length := by
  obtain ⟨mark, span, body⟩ := item
  cases body with
  | rule head goals | fact head =>
    rcases head with _ | head
    · rfl
    · cases named : head.named? with
      | none =>
        simp [Item.owed, Item.accepted?, Item.isClause, IndexNotice.isUnsupportedHead, named]
      | some predicate =>
        simp [Item.owed, Item.accepted?, Item.isClause, named, countP_missingPositions]
  | _ => rfl

/-- Among items in a row, those that are rules or facts are reported as left out or accepted. -/
theorem countP_isClause_items (file : String) (items : List Item) :
    items.countP Item.isClause =
      (items.flatMap (Item.owed file)).countP IndexNotice.isUnsupportedHead +
        (items.filterMap Item.accepted?).length := by
  induction items with
  | nil => rfl
  | cons item rest ih =>
    have one := item.countP_isClause file
    rw [← List.singleton_append, List.countP_append, List.flatMap_append, List.countP_append,
      List.filterMap_append, List.length_append, List.flatMap_singleton, one, ih]
    have accepted : ([item].filterMap Item.accepted?).length = item.accepted?.toList.length := by
      cases found : item.accepted? <;> simp [found]
    omega

/-- Items grouped by the keys that they have, each key listed once, are all items. -/
theorem sum_length_filter_key {α κ : Type} [DecidableEq κ] {items : List α} {key : α → κ}
    {keys : List κ} (distinct : keys.Nodup) (listed : ∀ k, k ∈ keys ↔ k ∈ items.map key) :
    (keys.map fun k => (items.filter (key · = k)).length).sum = items.length := by
  have same : keys.Perm (items.map key).dedup :=
    (List.perm_ext_iff_of_nodup distinct (List.nodup_dedup _)).mpr (by simpa using listed)
  have counted : ∀ k, (items.filter (key · = k)).length = (items.map key).count k := by
    intro k
    rw [List.count, List.countP_map, ← List.countP_eq_length_filter]
    rfl
  simp only [counted]
  rw [(same.map _).sum_eq, List.sum_map_count_dedup_eq_length, List.length_map]

/-- Every accepted clause is merged into exactly one record. -/
theorem Tree.sum_length_clausesOf (tree : Tree) (path : Option String) :
    ((tree.index path).predicates.map fun record =>
      (tree.clausesOf (record.name, record.arity)).length).sum = tree.acceptedClauses.length := by
  have grouped : (tree.index path).predicates.map (fun record =>
      (tree.clausesOf (record.name, record.arity)).length) =
        tree.predicates.map fun predicate => (tree.clausesOf predicate).length := by
    rw [predicates_index, List.map_filterMap, ← List.filterMap_eq_map]
    refine List.filterMap_congr fun predicate known => ?_
    obtain ⟨record, merged, name⟩ := exists_merged? known
    rw [merged, Option.map_some, name]
    rfl
  rw [grouped]
  exact sum_length_filter_key (nodup_eraseDups _) fun predicate => List.mem_eraseDups

/-- Nothing is left out in silence. The notices of a tree are, item by item, the report of a rule or
a fact that is not accepted, and for an accepted clause one notice for its head and then one for
each compound in its body, from left to right and from the outside in, if these do not tell where
they stand. Each record is merged from the accepted clauses of its predicate, and there are as many
rules and facts as reports of clauses left out and merged clauses together. -/
theorem Tree.notices_account_for_clauses (tree : Tree) (path : Option String) :
    tree.notices = tree.items.flatMap (Item.owed tree.file) ∧
      (∀ record ∈ (tree.index path).predicates,
        groupRecord? (tree.clausesOf (record.name, record.arity)) = some record) ∧
      tree.items.countP Item.isClause =
        tree.notices.countP IndexNotice.isUnsupportedHead +
          ((tree.index path).predicates.map fun record =>
            (tree.clausesOf (record.name, record.arity)).length).sum := by
  have listed : tree.notices = tree.items.flatMap (Item.owed tree.file) := by
    rw [notices, funext (Item.notices_eq_owed tree.file)]
  refine ⟨listed, fun record inside => groupRecord?_of_mem inside, ?_⟩
  rw [listed, sum_length_clausesOf]
  exact countP_isClause_items tree.file tree.items

/-- A file with two clauses that are left out, one of them with a body, two clauses of one predicate
whose heads do not tell where they stand, and a directive. -/
def partlyPlacedTree : Tree where
  file := "f.pl"
  items :=
    [ { mark := { line := some 1 }, body := .fact none },
      { mark := { line := some 2 }
        body := .rule (some (.var {} false "X")) [.compound {} "unseen" none []] },
      { body := .rule (some (.atom { line := some 3, column := some 0 } "a"))
          [.operation {} none
            (some (.compound {} "b" none
              [.compound { line := some 3, column := some 9 } "c" none [],
               .param {} (some (.compound { line := some 3 } "d" none []))]))
            (some (.list {} [] (some (.compound {} "e" none [])) none))] },
      { body := .directive [.compound {} "unseen" none []] },
      { body := .fact (some (.atom {} "a")) } ]

/-- The record merged from the last clause and the first accepted one. -/
def partlyPlacedRecord : PredicateRecord where
  name := "a"
  arity := 0
  definition := .fallback
  full := .fallback
  calls := [⟨"b", 2, .fallback⟩, ⟨"c", 0, .ofCoordinates 3 8 3 9⟩, ⟨"d", 0, .fallback⟩,
    ⟨"e", 0, .fallback⟩]

/-- The body of the second clause and the directive give no notice, the second parameter of `b` is
reported before the head of the list, and the head of the last clause although its place is not
kept. -/
theorem Tree.notices_account_for_clauses_partlyPlaced :
    partlyPlacedTree.notices =
        [.unsupportedHead "f.pl" (some 1) none, .unsupportedHead "f.pl" (some 2) (some "var"),
          .missingPosition "atom", .missingPosition "functor", .missingPosition "functor",
          .missingPosition "functor", .missingPosition "atom"] ∧
      partlyPlacedRecord ∈ (partlyPlacedTree.index none).predicates ∧
      groupRecord? (partlyPlacedTree.clausesOf ("a", 0)) = some partlyPlacedRecord ∧
      partlyPlacedTree.items.countP Item.isClause = 2 + 2 := by
  obtain ⟨listed, merged, counted⟩ := partlyPlacedTree.notices_account_for_clauses none
  have recorded : partlyPlacedRecord ∈ (partlyPlacedTree.index none).predicates := by
    decide +kernel
  exact ⟨listed.trans (by decide +kernel), recorded, merged _ recorded,
    counted.trans (by decide +kernel)⟩

end PredicateIndex
