import PredicateIndex.Proofs.Cache.Queries
import PredicateIndex.Proofs.Range

/-!
# What the records of a tree cover

The ranges of an index come from four sources: the position of a node and the length of its name, the
span of an item, the position of an item, and the fallback. Main results: the full range of a record
is the least range around those of its clauses, so it does not depend on their order; and if the
columns of a tree are not negative and its spans are not inverted, no range of its index is inverted
or has a negative character. The ranges of heads and calls are as long as the names that stand there.
-/
namespace PredicateIndex

/-! ## The full range of merged clauses -/

/-- A range lies around merged ranges exactly if it lies around each of them. -/
theorem foldl_union_le_iff {clauses : List AcceptedClause} {range bound : SourceRange} :
    clauses.foldl (fun range clause => range.union clause.full) range ≤ bound ↔
      range ≤ bound ∧ ∀ clause ∈ clauses, clause.full ≤ bound := by
  induction clauses generalizing range with
  | nil => simp
  | cons first rest ih =>
    rw [List.foldl_cons, ih, SourceRange.union_le_iff, List.forall_mem_cons, and_assoc]

/-- A range lies around the full range of a record exactly if it lies around each of its clauses. -/
theorem full_le_iff {clauses : List AcceptedClause} {record : PredicateRecord}
    (grouped : groupRecord? clauses = some record) {bound : SourceRange} :
    record.full ≤ bound ↔ ∀ clause ∈ clauses, clause.full ≤ bound := by
  cases clauses with
  | nil => cases grouped
  | cons first rest =>
    cases grouped
    rw [foldl_union_le_iff, List.forall_mem_cons]

/-- The full range of a record does not depend on the order of its clauses. -/
theorem groupRecord?_full_of_perm {clauses clauses' : List AcceptedClause}
    (same : clauses.Perm clauses') :
    (groupRecord? clauses).map PredicateRecord.full =
      (groupRecord? clauses').map PredicateRecord.full := by
  cases clauses with
  | nil => rw [List.nil_perm.mp same]
  | cons first rest =>
    cases clauses' with
    | nil => cases List.perm_nil.mp same
    | cons first' rest' =>
      obtain ⟨record, grouped⟩ : ∃ record, groupRecord? (first :: rest) = some record := ⟨_, rfl⟩
      obtain ⟨record', grouped'⟩ : ∃ record, groupRecord? (first' :: rest') = some record :=
        ⟨_, rfl⟩
      have bounds : ∀ bound, record.full ≤ bound ↔ record'.full ≤ bound := by
        intro bound
        rw [full_le_iff grouped, full_le_iff grouped']
        exact forall_congr' fun clause => imp_congr_left same.mem_iff
      rw [grouped, grouped', Option.map_some, Option.map_some, eq_of_forall_ge_iff bounds]

/-- The full range that a tree gives to a predicate does not depend on the order of its items. -/
theorem Tree.full_index_of_perm {tree tree' : Tree} (same : tree.items.Perm tree'.items)
    (path path' : Option String) (name : String) (arity : Int) :
    ((tree.index path).predicate? name arity).map PredicateRecord.full =
      ((tree'.index path').predicate? name arity).map PredicateRecord.full := by
  rw [predicate?_index, predicate?_index]
  exact groupRecord?_full_of_perm ((same.filterMap _).filter _)

/-- A range holds exactly the positions from its start to its end, in the order of lines and then
characters. The union of two ranges holds the positions of both, and if neither is inverted, no
smaller range does. Union is commutative, associative and idempotent, and the full range of a
predicate is the same in whatever order its clauses stand. -/
theorem SourceRange.containment_and_union :
    (∀ (r : SourceRange) (p : Position),
      r.contains p = true ↔ p.toSource ∈ Set.Icc r.start r.stop) ∧
    (∀ (a b : SourceRange) (p : Position),
      a.contains p = true ∨ b.contains p = true → (a.union b).contains p = true) ∧
    (∀ a b r : SourceRange, a.start ≤ a.stop → b.start ≤ b.stop →
      (∀ p, a.contains p = true ∨ b.contains p = true → r.contains p = true) →
      ∀ p, (a.union b).contains p = true → r.contains p = true) ∧
    (∀ a b : SourceRange, a.union b = b.union a) ∧
    (∀ a b c : SourceRange, (a.union b).union c = a.union (b.union c)) ∧
    (∀ a : SourceRange, a.union a = a) ∧
    ∀ (tree tree' : Tree) (path path' : Option String) (name : String) (arity : Int),
      tree.items.Perm tree'.items →
      ((tree.index path).predicate? name arity).map PredicateRecord.full =
        ((tree'.index path').predicate? name arity).map PredicateRecord.full := by
  refine ⟨contains_iff, ?_, ?_, sup_comm, sup_assoc, sup_idem, ?_⟩
  · rintro a b p (held | held)
    · exact contains_of_le (union_le_iff.mp le_rfl).1 held
    · exact contains_of_le (union_le_iff.mp le_rfl).2 held
  · intro a b r first second around p held
    have inside : a.union b ≤ r := union_le_iff.mpr
      ⟨le_of_contains first fun q here => around q (.inl here),
        le_of_contains second fun q here => around q (.inr here)⟩
    exact contains_of_le inside held
  · intro tree tree' path path' name arity same
    exact Tree.full_index_of_perm same path path' name arity

/-- A fact of `p` at the start of a line. -/
def factOn (line : Int) : Item :=
  { body := .fact (some (.atom { line := some line, column := some 1 } "p")) }

/-- Around two ranges on neighbouring lines lie also the positions between them, and two clauses
cover the same range in either order. -/
theorem SourceRange.containment_and_union_neighbours :
    (∀ r : SourceRange, (∀ p, (ofCoordinates 3 4 3 6).contains p = true ∨
        (ofCoordinates 4 2 5 1).contains p = true → r.contains p = true) →
      r.contains ⟨2, 80⟩ = true) ∧
    ((({ items := [factOn 5, factOn 1] } : Tree).index none).predicate? "p" 0).map
        PredicateRecord.full = some (ofCoordinates 1 0 5 1) := by
  obtain ⟨-, -, least, -, -, -, anyOrder⟩ := SourceRange.containment_and_union
  constructor
  · intro r around
    exact least _ _ r (by decide) (by decide) around ⟨2, 80⟩ (by decide)
  · exact anyOrder _ { items := [factOn 1, factOn 5] } none none "p" 0 (List.Perm.swap _ _ _)

/-! ## The ranges of nodes and items -/

namespace SourceRange

/-- A range that is not inverted and has no negative character. -/
structure Proper (r : SourceRange) : Prop where
  /-- The end does not come before the start. -/
  ordered : r.start ≤ r.stop
  /-- The start is a character of its line. -/
  start : 0 ≤ r.start.character
  /-- The end is a character of its line. -/
  stop : 0 ≤ r.stop.character

/-- A range is the fallback, or it lies on one line and is as long as a text. -/
def Spells (r : SourceRange) (text : String) : Prop :=
  r = .fallback ∨
    r.start.line = r.stop.line ∧ r.stop.character = r.start.character + Text.size text

/-- The fallback is proper. -/
theorem proper_fallback : fallback.Proper := ⟨by decide, by decide, by decide⟩

/-- The union of proper ranges is proper. -/
theorem Proper.union {a b : SourceRange} (first : a.Proper) (second : b.Proper) :
    (a.union b).Proper := by
  have around : a ≤ a.union b := (union_le_iff.mp le_rfl).1
  refine ⟨around.1.trans (first.ordered.trans around.2), ?_, ?_⟩
  · unfold SourceRange.union Position.min
    split
    · exact second.start
    · exact first.start
  · unfold SourceRange.union Position.max
    split
    · exact second.stop
    · exact first.stop

end SourceRange

namespace Text

/-- A character is written as one code point. -/
theorem pointCount_ofChar (c : Char) : pointCount (ofChar c) = 1 := by
  unfold ofChar
  split
  · decide
  · rename_i other
    have other : c ≠ mark := by simpa using other
    split <;> simp [pointCount, other]

/-- A code point is written as one. -/
theorem pointCount_ofCodePoint (n : Nat) : pointCount (ofCodePoint n) = 1 := by
  unfold ofCodePoint
  split
  · rename_i unpaired
    simp only [isSurrogate, Bool.and_eq_true, decide_eq_true_eq] at unpaired
    have other : Char.ofNat (n + unpairedShift) ≠ mark := by
      intro same
      have number := congrArg Char.toNat same
      rw [Char.toNat_ofNat, if_pos (.inr (by simp only [unpairedShift]; omega))] at number
      have marked : mark.toNat = 0x10d7ff := by decide
      simp only [unpairedShift] at number
      omega
    simp [pointCount, other]
  · exact pointCount_ofChar _

/-- The size of a text is the number of its code points. -/
theorem size_ofCodePoints (points : List Nat) : size (ofCodePoints points) = points.length := by
  rw [size, ofCodePoints, String.toList_ofList]
  induction points with
  | nil => rfl
  | cons n rest ih =>
    have first := pointCount_ofCodePoint n
    rw [pointCount] at ih first ⊢
    rw [List.flatMap_cons, List.countP_append, first, ih, List.length_cons, Nat.add_comm]

end Text

/-- A mark without a negative column; its line may be any number. -/
def Mark.Counted (mark : Mark) : Prop := ∀ column ∈ mark.column, 0 ≤ column

instance (mark : Mark) : Decidable mark.Counted :=
  inferInstanceAs (Decidable (∀ column ∈ mark.column, 0 ≤ column))

/-- A span that does not end before its start, in the order of lines and then columns. -/
def Span.Ordered (span : Span) : Prop :=
  toLex (span.start.line, span.start.column) ≤ toLex (span.stop.line, span.stop.column)

instance (span : Span) : Decidable span.Ordered :=
  inferInstanceAs (Decidable (toLex (_, _) ≤ toLex (_, _)))

/-- A mark with a position gives a range of the asked length on its line. -/
theorem Mark.range?_eq_some {mark : Mark} {length : Nat} {range : SourceRange}
    (placed : mark.range? length = some range) :
    ∃ line column, mark.column = some column ∧ column ≠ 0 ∧
      range = .ofCoordinates line (column - 1) line (column - 1 + length) := by
  unfold range? at placed
  split at placed
  · rename_i line column _ found
    split at placed
    · rename_i present
      simp only [Bool.and_eq_true, bne_iff_ne] at present
      exact ⟨line, column, found, present.2, (Option.some.inj placed).symm⟩
    · cases placed
  · cases placed

/-- The range of a mark without a negative column is proper. -/
theorem Mark.Counted.proper {mark : Mark} (counted : mark.Counted) {length : Nat}
    {range : SourceRange} (placed : mark.range? length = some range) : range.Proper := by
  obtain ⟨line, column, found, present, rfl⟩ := Mark.range?_eq_some placed
  have first : 0 ≤ column - 1 := by
    have := counted column found
    omega
  have last : column - 1 ≤ column - 1 + length := by omega
  exact ⟨Position.le_iff.mpr (.inr ⟨rfl, last⟩), first, first.trans last⟩

namespace Term

/-- The range of a term without a negative column is proper. -/
theorem proper_range {t : Term} (counted : t.mark.Counted) : t.range.Proper := by
  rw [range]
  cases placed : t.mark.range? (Text.size t.approximateText) with
  | none => exact SourceRange.proper_fallback
  | some found => exact counted.proper placed

/-- The range of a term is as long as its text. -/
theorem range_spells (t : Term) : t.range.Spells t.approximateText := by
  rw [range]
  cases placed : t.mark.range? (Text.size t.approximateText) with
  | none => exact .inl rfl
  | some found =>
    obtain ⟨line, column, -, -, rfl⟩ := Mark.range?_eq_some placed
    exact .inr ⟨rfl, rfl⟩

/-- The text of a head is the name that it gives to its predicate. -/
theorem approximateText_of_named? {t : Term} {predicate : String × Int}
    (named : t.named? = some predicate) : t.approximateText = predicate.1 := by
  unfold named? at named
  split at named
  · split at named
    · cases named
    · cases named
      simp only [approximateText]
  · split at named
    · cases named
    · cases named
      simp only [approximateText]
  · cases named

/-- The range of a call is as long as the name that is called. -/
theorem location_spells {t : Term} {call : CallSite} (own : t.ownCall? = some call) :
    call.location.Spells call.name := by
  cases t with
  | compound mark name arity params =>
    cases own
    have spelled := range_spells (.compound mark name arity params)
    rwa [approximateText] at spelled
  | _ => cases own

/-- A call in terms is that of a compound at a place below one of them. -/
theorem exists_of_mem_inTerms {terms : List Term} {call : CallSite}
    (inside : call ∈ Calls.inTerms terms) :
    ∃ t ∈ terms, ∃ path node, t.at? path = some node ∧ node.ownCall? = some call := by
  rw [Calls.inTerms, Calls.collect_eq, List.filterMap_map] at inside
  obtain ⟨t, listed, called⟩ := List.mem_flatMap.mp inside
  obtain ⟨visit, visited, own⟩ := List.mem_filterMap.mp called
  exact ⟨t, by simpa using listed, visit.1, visit.2, mem_visits.mp visited, own⟩

end Term

namespace Item

/-- The range of an item is proper if its span is in order or, without one, its own position and its
head are. -/
theorem proper_fullRange {item : Item} {definition : SourceRange} (counted : item.mark.Counted)
    (ordered : ∀ span ∈ item.span, span.Ordered) (head : definition.Proper) :
    (item.fullRange definition).Proper := by
  unfold fullRange
  split
  · rename_i span found
    have order : span.start.line < span.stop.line ∨
        span.start.line = span.stop.line ∧ span.start.column ≤ span.stop.column :=
      Prod.Lex.le_iff.mp (ordered span found)
    -- Columns below one count as one, and that keeps their order.
    have clamped : span.start.column ≤ span.stop.column →
        max (span.start.column - 1) 0 ≤ max (span.stop.column - 1) 0 := by omega
    exact ⟨Position.le_iff.mpr (order.imp_right (And.imp_right clamped)), le_max_right _ _,
      le_max_right _ _⟩
  · split
    · rename_i start placed
      exact (counted.proper placed).union head
    · exact head

/-- Without a span the range of an item lies around that of its head. -/
theorem le_fullRange {item : Item} (unspanned : item.span = none) (definition : SourceRange) :
    definition ≤ item.fullRange definition := by
  simp only [fullRange, unspanned]
  split
  · exact (SourceRange.union_le_iff.mp le_rfl).2
  · exact le_rfl

/-- The head of an accepted item names its predicate. -/
theorem named?_of_accepted? {item : Item} {clause : AcceptedClause}
    (accepted : item.accepted? = some clause) : clause.head.named? = some clause.predicate := by
  unfold accepted? at accepted
  split at accepted
  · obtain ⟨predicate, named, rfl⟩ := Option.map_eq_some_iff.mp accepted
    exact named
  · obtain ⟨predicate, named, rfl⟩ := Option.map_eq_some_iff.mp accepted
    exact named
  · cases accepted

end Item

/-! ## What a record takes from its clauses -/

section Grouped

variable {clauses : List AcceptedClause} {record : PredicateRecord}

/-- The definition of a record is the head of one of its clauses. -/
theorem exists_definition_eq (grouped : groupRecord? clauses = some record) :
    ∃ clause ∈ clauses, clause.predicate = (record.name, record.arity) ∧
      clause.head.range = record.definition := by
  cases clauses with
  | nil => cases grouped
  | cons first rest =>
    cases grouped
    exact ⟨first, List.mem_cons_self, rfl, rfl⟩

/-- The calls of a record are those in the bodies of its clauses. -/
theorem exists_mem_inTerms (grouped : groupRecord? clauses = some record) {call : CallSite}
    (inside : call ∈ record.calls) : ∃ clause ∈ clauses, call ∈ Calls.inTerms clause.goals := by
  cases clauses with
  | nil => cases grouped
  | cons first rest =>
    cases grouped
    exact List.mem_flatMap.mp inside

/-- Proper ranges are merged into a proper range. -/
theorem proper_foldl_union {range : SourceRange} (first : range.Proper)
    (others : ∀ clause ∈ clauses, clause.full.Proper) :
    (clauses.foldl (fun range clause => range.union clause.full) range).Proper := by
  induction clauses generalizing range with
  | nil => exact first
  | cons clause rest ih =>
    obtain ⟨next, others⟩ := List.forall_mem_cons.mp others
    exact ih (first.union next) others

/-- The full range of a record is proper if those of its clauses are. -/
theorem groupRecord?_full_proper (grouped : groupRecord? clauses = some record)
    (proper : ∀ clause ∈ clauses, clause.full.Proper) : record.full.Proper := by
  cases clauses with
  | nil => cases grouped
  | cons first rest =>
    cases grouped
    obtain ⟨head, others⟩ := List.forall_mem_cons.mp proper
    exact proper_foldl_union head others

end Grouped

/-! ## The ranges of an index -/

/-- All ranges of an index, record by record: the definition, the full range and the calls. -/
def FileIndex.ranges (index : FileIndex) : List SourceRange :=
  index.predicates.flatMap fun record =>
    record.definition :: record.full :: record.calls.map CallSite.location

namespace Tree

/-- The accepted clauses of a predicate. -/
def clausesOf (tree : Tree) (predicate : String × Int) : List AcceptedClause :=
  tree.acceptedClauses.filter (·.predicate = predicate)

/-- The positions of a tree are those of a text: no column of an accepted clause, of its head or of a
compound at a place in its body is negative, and no span is inverted. -/
structure Measured (tree : Tree) : Prop where
  /-- The clauses. -/
  items : ∀ clause ∈ tree.acceptedClauses, clause.item.mark.Counted
  /-- The heads. -/
  heads : ∀ clause ∈ tree.acceptedClauses, clause.head.mark.Counted
  /-- The compounds in the bodies. -/
  goals : ∀ clause ∈ tree.acceptedClauses, ∀ goal ∈ clause.goals,
    ∀ place mark name arity params,
      goal.at? place = some (.compound mark name arity params) → mark.Counted
  /-- The spans. -/
  spans : ∀ clause ∈ tree.acceptedClauses, ∀ span ∈ clause.item.span, span.Ordered

variable {tree : Tree} {path : Option String} {record : PredicateRecord}

/-- A record of the index is the merged record of its predicate. -/
theorem groupRecord?_of_mem (inside : record ∈ (tree.index path).predicates) :
    groupRecord? (tree.clausesOf (record.name, record.arity)) = some record := by
  rw [predicates_index] at inside
  obtain ⟨predicate, listed, merged⟩ := List.mem_filterMap.mp inside
  obtain ⟨record', merged', rfl⟩ := exists_merged? listed
  obtain rfl : record' = record := Option.some.inj (merged'.symm.trans merged)
  exact merged

/-- The head of an accepted clause spells the name of its predicate. -/
theorem head_spells {clause : AcceptedClause} (accepted : clause ∈ tree.acceptedClauses) :
    clause.head.range.Spells clause.predicate.1 := by
  obtain ⟨item, -, accepted⟩ := List.mem_filterMap.mp accepted
  rw [← Term.approximateText_of_named? (Item.named?_of_accepted? accepted)]
  exact Term.range_spells clause.head

namespace Measured

variable {clause : AcceptedClause}

/-- The head of a clause has a proper range. -/
theorem proper_head (measured : tree.Measured) (accepted : clause ∈ tree.acceptedClauses) :
    clause.head.range.Proper :=
  Term.proper_range (measured.heads clause accepted)

/-- A clause has a proper full range. -/
theorem proper_full (measured : tree.Measured) (accepted : clause ∈ tree.acceptedClauses) :
    clause.full.Proper :=
  Item.proper_fullRange (measured.items clause accepted) (measured.spans clause accepted)
    (measured.proper_head accepted)

/-- The calls in the body of a clause have proper ranges. -/
theorem proper_call (measured : tree.Measured) (accepted : clause ∈ tree.acceptedClauses)
    {call : CallSite} (inside : call ∈ Calls.inTerms clause.goals) : call.location.Proper := by
  obtain ⟨goal, listed, place, node, leads, own⟩ := Term.exists_of_mem_inTerms inside
  cases node with
  | compound mark name arity params =>
    cases own
    exact Term.proper_range (measured.goals clause accepted goal listed place _ _ _ _ leads)
  | _ => cases own

/-- All ranges of a record are proper. -/
theorem proper_record (measured : tree.Measured)
    (inside : record ∈ (tree.index path).predicates) :
    record.definition.Proper ∧ record.full.Proper ∧
      ∀ call ∈ record.calls, call.location.Proper := by
  have grouped := groupRecord?_of_mem inside
  refine ⟨?_, groupRecord?_full_proper grouped fun clause listed =>
    measured.proper_full (List.mem_of_mem_filter listed), fun call called => ?_⟩
  · obtain ⟨clause, listed, -, same⟩ := exists_definition_eq grouped
    exact same ▸ measured.proper_head (List.mem_of_mem_filter listed)
  · obtain ⟨clause, listed, called⟩ := exists_mem_inTerms grouped called
    exact measured.proper_call (List.mem_of_mem_filter listed) called

end Measured

end Tree

/-- If the positions of a tree are those of a text, every range of its index is proper. In any case
the ranges of definitions and calls are the fallback or spell the name that is defined or called on
one line, with a character for each code point; the full range of a record lies around the ranges of
all clauses of its predicate, and, if none of these clauses has a span, around the ranges of their
heads. -/
theorem Tree.ranges_well_formed (tree : Tree) (path : Option String) :
    (tree.Measured → ∀ range ∈ (tree.index path).ranges, range.Proper) ∧
    (∀ points : List Nat, Text.size (Text.ofCodePoints points) = points.length) ∧
    ∀ record ∈ (tree.index path).predicates,
      record.definition.Spells record.name ∧
      (∀ call ∈ record.calls, call.location.Spells call.name) ∧
      (∀ clause ∈ tree.clausesOf (record.name, record.arity), clause.full ≤ record.full) ∧
      ((∀ clause ∈ tree.clausesOf (record.name, record.arity), clause.item.span = none) →
        ∀ clause ∈ tree.clausesOf (record.name, record.arity),
          clause.head.range ≤ record.full) := by
  refine ⟨?_, Text.size_ofCodePoints, ?_⟩
  · intro measured range inside
    obtain ⟨record, listed, among⟩ := List.mem_flatMap.mp inside
    obtain ⟨definition, full, calls⟩ := measured.proper_record listed
    rcases List.mem_cons.mp among with rfl | among
    · exact definition
    rcases List.mem_cons.mp among with rfl | among
    · exact full
    obtain ⟨call, called, rfl⟩ := List.mem_map.mp among
    exact calls call called
  · intro record inside
    have grouped := groupRecord?_of_mem inside
    have covered : ∀ clause ∈ tree.clausesOf (record.name, record.arity),
        clause.full ≤ record.full := (full_le_iff grouped).mp le_rfl
    refine ⟨?_, fun call called => ?_, covered, fun unspanned clause listed => ?_⟩
    · obtain ⟨clause, listed, named, same⟩ := exists_definition_eq grouped
      have spelled := head_spells (List.mem_of_mem_filter listed)
      rwa [named, same] at spelled
    · obtain ⟨clause, -, called⟩ := exists_mem_inTerms grouped called
      obtain ⟨goal, -, place, node, -, own⟩ := Term.exists_of_mem_inTerms called
      exact Term.location_spells own
    · have head : clause.head.range ≤ clause.full :=
        Item.le_fullRange (unspanned clause listed) clause.head.range
      exact head.trans (covered clause listed)

/-- A rule of `p` with a goal, a fact of `p` without a position and a fact of `q` with a span. -/
def spread : Tree :=
  { items := [
      { mark := { line := some 2, column := some 1 }
        body := .rule (some (.atom { line := some 2, column := some 3 } "p"))
          [.compound { line := some 3, column := some 5 } "call" none []] },
      { body := .fact (some (.atom {} "p")) },
      { span := some ⟨⟨5, 0⟩, ⟨6, 4⟩⟩, body := .fact (some (.atom {} "q")) }] }

/-- The positions of these clauses are those of a text. -/
theorem measured_spread : spread.Measured := by
  have clauses : ∀ clause ∈ spread.acceptedClauses, clause.item.mark.Counted ∧
      clause.head.mark.Counted ∧ ∀ span ∈ clause.item.span, span.Ordered := by decide
  have goals : ∀ clause ∈ spread.acceptedClauses, ∀ goal ∈ clause.goals,
      goal = .compound { line := some 3, column := some 5 } "call" none [] := by
    simp [spread, Tree.acceptedClauses, Item.accepted?, Term.named?]
  refine ⟨fun clause accepted => (clauses clause accepted).1,
    fun clause accepted => (clauses clause accepted).2.1, ?_,
    fun clause accepted => (clauses clause accepted).2.2⟩
  intro clause accepted goal listed place mark name arity params leads
  rw [goals clause accepted goal listed] at leads
  cases place with
  | nil =>
    cases leads
    decide
  | cons step rest => cases step <;> cases leads

/-- The rule and the fact are covered together from the fallback to the head of the rule, and the
span starts in the first column although its column is given as zero. -/
theorem Tree.ranges_well_formed_spread :
    spread.Measured ∧
    (spread.index none).ranges = [.ofCoordinates 2 2 2 3, .ofCoordinates 1 0 2 3,
      .ofCoordinates 3 4 3 8, .fallback, .ofCoordinates 5 0 6 3] ∧
    (∀ range ∈ (spread.index none).ranges, range.Proper) ∧
    ∀ record ∈ (spread.index none).predicates, record.name = "p" →
      ∀ clause ∈ spread.clausesOf (record.name, record.arity),
        clause.head.range ≤ record.full := by
  obtain ⟨proper, -, records⟩ := ranges_well_formed spread none
  refine ⟨measured_spread, by cbv, proper measured_spread, fun record inside named => ?_⟩
  refine (records record inside).2.2.2 fun clause listed => ?_
  rw [named] at listed
  obtain ⟨accepted, same⟩ := List.mem_filter.mp listed
  have unspanned : ∀ clause ∈ spread.acceptedClauses, clause.predicate.1 = "p" →
      clause.item.span = none := by decide
  exact unspanned clause accepted (by simpa using congrArg Prod.fst (of_decide_eq_true same))

end PredicateIndex
