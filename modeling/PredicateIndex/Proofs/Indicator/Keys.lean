import PredicateIndex.Cli.Session
import PredicateIndex.Proofs.Index.Grouping
import PredicateIndex.Proofs.Indicator.Reading

/-!
# Written forms stand for predicates

Clauses are merged by the written form of their predicate, a predicate is asked for by its written
form, and look-ups compare names and arities. Main result: it makes no difference which of the two
is compared. Two clauses are merged into one record exactly when their names and arities are equal,
and the written form of a record, handed to a command, asks for the predicate of the record and for
no other.

The place of the record that takes in a clause is told by the pass itself: it is found when the
clause is added, and it never moves afterwards, because later clauses only add records at the end.
-/
namespace PredicateIndex

/-! ## Where a clause goes -/

/-- The place of the record that takes in a clause: that of the first record with its written form,
or else the end. -/
def placeFor (records : List PredicateRecord) (clause : Clause) : Nat :=
  records.findIdx fun record => record.key == clause.key

/-- The place of the record that takes in the clause of the given number. -/
def Tree.recordOf? (tree : Tree) (number : Nat) : Option Nat :=
  tree.clauses[number]?.map (placeFor ((tree.clauses.take number).foldl addClause []))

/-- A clause is merged into the record at its place, or its own record is put there. -/
theorem addClause_eq (records : List PredicateRecord) (clause : Clause) :
    addClause records clause =
      if placeFor records clause < records.length then
        records.modify (placeFor records clause) (·.extend clause)
      else records ++ [clause.toRecord] := by
  induction records with
  | nil => rfl
  | cons record rest ih =>
    by_cases same : record.key == clause.key
    · simp [addClause, placeFor, List.findIdx_cons, same]
    · have next : placeFor (record :: rest) clause = placeFor rest clause + 1 := by
        simp [placeFor, List.findIdx_cons, same]
      rw [addClause, if_neg same, ih, next, List.length_cons]
      by_cases found : placeFor rest clause < rest.length
      · rw [if_pos found, if_pos (by omega), List.modify_succ_cons]
      · rw [if_neg found, if_neg (by omega), List.cons_append]

/-- The written forms of records, in order. -/
def keysOf (records : List PredicateRecord) : List String := records.map PredicateRecord.key

/-- The place of a clause is that of its written form among the written forms. -/
theorem placeFor_eq_idxOf (records : List PredicateRecord) (clause : Clause) :
    placeFor records clause = (keysOf records).idxOf clause.key := by
  rw [placeFor, keysOf, List.idxOf, List.findIdx_map]
  rfl

/-- Adding a clause adds its written form, if it is new. -/
theorem keysOf_addClause (records : List PredicateRecord) (clause : Clause) :
    keysOf (addClause records clause) =
      keysOf records ++ if clause.key ∈ keysOf records then [] else [clause.key] := by
  have found : placeFor records clause < records.length ↔ clause.key ∈ keysOf records := by
    rw [placeFor_eq_idxOf, ← List.idxOf_lt_length_iff, keysOf, List.length_map]
  have merged : keysOf (records.modify (placeFor records clause) (·.extend clause)) =
      keysOf records := by
    refine List.ext_getElem? fun n => ?_
    simp only [keysOf, List.getElem?_map, List.getElem?_modify]
    cases records[n]? with
    | none => rfl
    | some record =>
      simp only [Option.map_eq_map, Option.map_some]
      split <;> rfl
  rw [addClause_eq]
  by_cases known : clause.key ∈ keysOf records
  · rw [if_pos (found.mpr known), if_pos known, merged, List.append_nil]
  · rw [if_neg (mt found.mp known), if_neg known, keysOf, List.map_append]
    rfl

/-- Further clauses add written forms at the end. -/
theorem keysOf_isPrefixOf_foldl (records : List PredicateRecord) (clauses : List Clause) :
    keysOf records <+: keysOf (clauses.foldl addClause records) := by
  induction clauses generalizing records with
  | nil => exact List.prefix_rfl
  | cons clause rest ih =>
    have step : keysOf records <+: keysOf (addClause records clause) := by
      rw [keysOf_addClause]
      exact List.prefix_append _ _
    exact step.trans (ih (addClause records clause))

/-- The written forms of the records are those of the clauses. -/
theorem mem_keysOf_foldl {records : List PredicateRecord} {clauses : List Clause} {key : String} :
    key ∈ keysOf (clauses.foldl addClause records) ↔
      key ∈ keysOf records ∨ ∃ clause ∈ clauses, clause.key = key := by
  induction clauses generalizing records with
  | nil => simp
  | cons clause rest ih =>
    have step : key ∈ keysOf (addClause records clause) ↔
        key ∈ keysOf records ∨ clause.key = key := by
      rw [keysOf_addClause, List.mem_append]
      split
      · rename_i known
        simp only [List.not_mem_nil, or_false]
        exact ⟨Or.inl, fun either => either.elim id fun same => same ▸ known⟩
      · rw [List.mem_singleton, eq_comm (a := key)]
    simp only [List.foldl_cons, ih, step, List.mem_cons, exists_eq_or_imp, or_assoc]

/-- An element keeps its first place when a list grows at its end. -/
theorem idxOf_of_prefix {α : Type} [DecidableEq α] {front whole : List α} {a : α}
    (grown : front <+: whole) (inside : a ∈ front) : whole.idxOf a = front.idxOf a := by
  obtain ⟨back, rfl⟩ := grown
  exact List.idxOf_append_of_mem inside

/-- The record that takes in a clause stays at its place: in the index it is where the written form
of the clause is first found. -/
theorem Tree.recordOf?_eq {tree : Tree} {number : Nat} {clause : Clause}
    (listed : tree.clauses[number]? = some clause) (filePath : Option String) :
    tree.recordOf? number = some ((keysOf (tree.index filePath).predicates).idxOf clause.key) := by
  obtain ⟨inside, rfl⟩ := List.getElem?_eq_some_iff.mp listed
  let clause := tree.clauses[number]
  let before := (tree.clauses.take number).foldl addClause []
  have whole : (tree.index filePath).predicates =
      (tree.clauses.drop (number + 1)).foldl addClause (addClause before clause) := by
    have split : tree.clauses =
        tree.clauses.take number ++ clause :: tree.clauses.drop (number + 1) := by
      rw [← List.drop_eq_getElem_cons inside, List.take_append_drop]
    calc (tree.index filePath).predicates = tree.clauses.foldl addClause [] := rfl
      _ = (tree.clauses.take number ++ clause :: tree.clauses.drop (number + 1)).foldl
            addClause [] := congrArg (List.foldl addClause []) split
      _ = _ := by rw [List.foldl_append, List.foldl_cons]
  have added : clause.key ∈ keysOf (addClause before clause) := by
    rw [keysOf_addClause]
    split <;> simp_all
  have place : (keysOf (addClause before clause)).idxOf clause.key = placeFor before clause := by
    rw [placeFor_eq_idxOf, keysOf_addClause]
    split
    · rw [List.append_nil]
    · rename_i new
      rw [List.idxOf_append_of_notMem new, List.idxOf_eq_length new]
      simp
  rw [Tree.recordOf?, listed, Option.map_some, whole,
    idxOf_of_prefix (keysOf_isPrefixOf_foldl _ _) added, place]

/-- The record at the place of a clause is of its predicate. -/
theorem Tree.exists_recordOf? {tree : Tree} {number : Nat} {clause : Clause}
    (listed : tree.clauses[number]? = some clause) (filePath : Option String) :
    ∃ place record, tree.recordOf? number = some place ∧
      (tree.index filePath).predicates[place]? = some record ∧
      record.name = clause.name ∧ record.arity = clause.arity := by
  let keys := keysOf (tree.index filePath).predicates
  have known : clause.key ∈ keys :=
    mem_keysOf_foldl.mpr (.inr ⟨clause, List.mem_of_getElem? listed, rfl⟩)
  have placed : keys[keys.idxOf clause.key]? = some clause.key := List.getElem?_idxOf known
  obtain ⟨record, here, same⟩ : ∃ record,
      (tree.index filePath).predicates[keys.idxOf clause.key]? = some record ∧
        record.key = clause.key := by
    simpa [keys, keysOf, List.getElem?_map] using placed
  exact ⟨_, record, tree.recordOf?_eq listed filePath, here, indicator_inj.mp same⟩

/-- Two clauses are merged into one record exactly when they are of one predicate. -/
theorem Tree.recordOf?_eq_iff {tree : Tree} {i j : Nat} {clause other : Clause}
    (here : tree.clauses[i]? = some clause) (there : tree.clauses[j]? = some other) :
    tree.recordOf? i = tree.recordOf? j ↔
      clause.name = other.name ∧ clause.arity = other.arity := by
  have known : clause.key ∈ keysOf (tree.index none).predicates :=
    mem_keysOf_foldl.mpr (.inr ⟨clause, List.mem_of_getElem? here, rfl⟩)
  rw [tree.recordOf?_eq here none, tree.recordOf?_eq there none, Option.some.injEq,
    List.idxOf_inj known]
  exact indicator_inj

/-! ## Reading a written form -/

/-- A clause has a name. -/
theorem Clause.name_ne_empty {tree : Tree} {clause : Clause} (listed : clause ∈ tree.clauses) :
    clause.name ≠ "" := by
  rw [clauses_eq] at listed
  obtain ⟨accepted, among, rfl⟩ := List.mem_map.mp listed
  obtain ⟨item, -, found⟩ := List.mem_filterMap.mp among
  have named : ∃ head : Term, head.named? = some accepted.predicate := by
    simp only [Item.accepted?] at found
    split at found
    all_goals simp only [Option.map_eq_some_iff, reduceCtorEq] at found
    all_goals
      obtain ⟨predicate, named, rfl⟩ := found
      exact ⟨_, named⟩
  obtain ⟨head, named⟩ := named
  have present : accepted.predicate.1 ≠ "" := by
    cases head with
    | compound mark name arity params =>
      simp only [Term.named?, Option.ite_none_left_eq_some, Option.some.injEq] at named
      exact named.2 ▸ named.1
    | atom mark text =>
      simp only [Term.named?, Option.ite_none_left_eq_some, Option.some.injEq] at named
      exact named.2 ▸ named.1
    | _ => simp [Term.named?] at named
  exact present

/-- A record has a name. -/
theorem PredicateRecord.name_ne_empty {tree : Tree} {filePath : Option String}
    {record : PredicateRecord} (inside : record ∈ (tree.index filePath).predicates) :
    record.name ≠ "" := by
  have known : record.key ∈ keysOf (tree.index filePath).predicates := List.mem_map_of_mem inside
  rcases mem_keysOf_foldl.mp known with never | ⟨clause, listed, same⟩
  · exact absurd never (List.not_mem_nil)
  · have names : clause.name = record.name := (indicator_inj.mp same).1
    exact names ▸ Clause.name_ne_empty listed

/-- The ten digits of numerals have their values. -/
theorem decimalValue?_digitChar {d : Nat} (digit : d < 10) :
    Text.decimalValue? d.digitChar = some d := by
  revert d
  decide

/-- The numeral of a number writes it. -/
theorem Count.writes_repr (n : Nat) : Writes n.repr n := by
  rw [← String.ofList_toList (s := n.repr), ← decimalNat?_eq_some, Nat.toList_repr]
  induction n using Nat.strongRecOn with
  | ind n ih =>
    by_cases small : n < 10
    · rw [Nat.toDigits_of_lt_base small, ← List.nil_append [n.digitChar], decimalNat?_snoc,
        decimalValue?_digitChar small]
      simp [decimalNat?]
    · have digit : n % 10 < 10 := Nat.mod_lt n (by decide)
      have split : Nat.toDigits 10 n = Nat.toDigits 10 (n / 10) ++ [(n % 10).digitChar] := by
        rw [← Nat.toDigits_of_lt_base digit,
          Nat.toDigits_append_toDigits (by decide) (by omega) digit, Nat.div_add_mod]
      rw [split, decimalNat?_snoc, ih (n / 10) (by omega), decimalValue?_digitChar digit]
      simp only [Option.bind_some, Option.map_some, Nat.div_add_mod]

/-- A written form is read as the predicate that it was written for, if its arity is no negative
number and has no more digits than can be read. -/
theorem Indicator.parse_indicator {name : String} (named : name ≠ "") {n : Nat}
    (short : n < 10 ^ Numeral.digitLimit) : parse (indicator name n) = .ok (name, n) := by
  have numeral : toString (n : Int) = n.repr := by rw [Int.toString_eq_repr, Int.repr_eq_if]; simp
  have length : n.repr.length ≤ Numeral.digitLimit := by
    rw [← String.length_toList, Nat.toList_repr]
    exact (Nat.length_toDigits_le_iff (by decide) (by decide)).mpr short
  have present : n.repr ≠ "" := by
    intro absent
    have none : Nat.toDigits 10 n = [] := by rw [← Nat.toList_repr, absent]; rfl
    exact Nat.toDigits_ne_nil none
  have shaped : Shaped (indicator name n) name n.repr :=
    ⟨by rw [indicator, numeral], named, present⟩
  have written := Count.writes_repr n
  have read : Count.read n.repr.toList = .ok n :=
    ((Count.read_eq present).1 n).mpr ⟨written, length⟩
  rw [shaped.parse_eq (Count.all_isDigitLike_of_writes written), read]
  rfl

/-! ## Looking a written form up -/

namespace Cache

/-- The calls in all files of what is written so. -/
def callsWritten (cache : Cache) (key : String) : List CallMatch :=
  cache.entries.flatMap fun (file, index) =>
    index.predicates.flatMap fun caller =>
      (caller.callMatches file).filter fun found => found.call.key == key

/-- The first record of what is written so, file by file. -/
def definitionsWritten (cache : Cache) (key : String) : List DefinitionMatch :=
  cache.entries.filterMap fun (file, index) =>
    (index.predicates.find? fun record => record.key == key).map fun record => { file, record }

/-- Comparing name and arity is comparing written forms. -/
theorem beq_and_beq_eq_key (name name' : String) (arity arity' : Int) :
    (name == name' && arity == arity') = (indicator name arity == indicator name' arity') := by
  rw [Bool.eq_iff_iff]
  simp [indicator_inj]

/-- The calls of a predicate are the calls of what is written so. -/
theorem references_eq_callsWritten (cache : Cache) (name : String) (arity : Int) :
    cache.references name arity = cache.callsWritten (indicator name arity) := by
  simp only [references, callsWritten, CallSite.calls, CallSite.key, beq_and_beq_eq_key]

/-- The definitions of a predicate are those of what is written so. -/
theorem definitions_eq_definitionsWritten (cache : Cache) (name : String) (arity : Int) :
    cache.definitions name arity = cache.definitionsWritten (indicator name arity) := by
  simp only [definitions, definitionsWritten, FileIndex.predicate?, PredicateRecord.key,
    beq_and_beq_eq_key]

end Cache

namespace Cli

/-- A text asks for a predicate: whatever command line hands it to a command, the calls or the
definitions of that name and arity are looked up and printed. -/
structure AsksFor (text name : String) (arity : Nat) : Prop where
  /-- The command that lists calls. -/
  refs : ∀ (setting : Setting) (words : List String) (verbose : Bool) (files : List SourceFile),
    read setting.workspace words = .ok (.perform verbose (.refs text files)) →
      Session.run setting words = Session.analyzed setting verbose files
        fun _ batch => .ok (batch.references name arity)
  /-- The command that finds definitions. -/
  definition : ∀ (setting : Setting) (words : List String) (verbose : Bool)
    (files : List SourceFile),
    read setting.workspace words = .ok (.perform verbose (.definition text files)) →
      Session.run setting words = Session.analyzed setting verbose files
        fun _ batch => .ok (batch.definitions name arity)

/-- A text that is read as a predicate asks for it. -/
theorem asksFor_of_parse {text name : String} {arity : Nat}
    (parsed : Indicator.parse text = .ok (name, arity)) : AsksFor text name arity where
  refs setting words verbose files asked := by
    simp only [Session.run, asked, Session.perform, Session.withIndicator, parsed]
  definition setting words verbose files asked := by
    simp only [Session.run, asked, Session.perform, Session.withIndicator, parsed]

end Cli

/-- Written forms are faithful to predicates. A written form determines the name and the arity, so
that two clauses are merged into one record exactly when these are equal, and the record is of their
predicate. The written form of a record whose arity is not negative is read as its name and arity: a
command to which it is handed looks up just this predicate, and what is found is what is written so.
The one condition is on the numeral: an integer of more than 4300 digits is neither written nor
read. -/
theorem Tree.keys_are_faithful (tree : Tree) (filePath : Option String) :
    (∀ (name name' : String) (arity arity' : Int),
      indicator name arity = indicator name' arity' ↔ name = name' ∧ arity = arity') ∧
    (∀ (i j : Nat) (clause other : Clause),
      tree.clauses[i]? = some clause → tree.clauses[j]? = some other →
        (tree.recordOf? i = tree.recordOf? j ↔
          clause.name = other.name ∧ clause.arity = other.arity)) ∧
    (∀ (i : Nat) (clause : Clause), tree.clauses[i]? = some clause →
      ∃ place record, tree.recordOf? i = some place ∧
        (tree.index filePath).predicates[place]? = some record ∧
        record.name = clause.name ∧ record.arity = clause.arity) ∧
    ∀ record ∈ (tree.index filePath).predicates,
      0 ≤ record.arity → record.arity < 10 ^ Numeral.digitLimit →
        Indicator.parse record.key = .ok (record.name, record.arity.toNat) ∧
        Cli.AsksFor record.key record.name record.arity.toNat ∧
        ∀ cache : Cache,
          cache.references record.name record.arity.toNat = cache.callsWritten record.key ∧
          cache.definitions record.name record.arity.toNat =
            cache.definitionsWritten record.key := by
  refine ⟨fun _ _ _ _ => indicator_inj, fun i j clause other here there =>
    recordOf?_eq_iff here there, fun i clause listed => exists_recordOf? listed filePath, ?_⟩
  intro record inside counted short
  have whole : (record.arity.toNat : Int) = record.arity := Int.toNat_of_nonneg counted
  have written : record.key = indicator record.name record.arity.toNat := by
    rw [whole, PredicateRecord.key]
  have parsed : Indicator.parse record.key = .ok (record.name, record.arity.toNat) := by
    rw [written]
    refine Indicator.parse_indicator (PredicateRecord.name_ne_empty inside) ?_
    exact_mod_cast whole ▸ short
  refine ⟨parsed, Cli.asksFor_of_parse parsed, fun cache => ?_⟩
  rw [written]
  exact ⟨cache.references_eq_callsWritten _ _, cache.definitions_eq_definitionsWritten _ _⟩

/-- Three clauses of two predicates, of which one has a name with a slash and a digit. -/
def slashedTree : Tree where
  items :=
    [{ body := .fact (some (.compound {} "a/1" (some 2) [])) },
     { body := .fact (some (.atom {} "a")) },
     { body := .rule (some (.compound {} "a/1" none [.cut {}, .cut {}])) [] }]

/-- A workspace with one empty file and an analyzer that always fails. -/
def bareSetting : Cli.Setting where
  workspace := {
    directory := { root := "/", names := ["w"] }
    disk := [({ root := "/", names := ["w", "x.pl"] }, {})] }
  sources :=
    { homes := { own := "/home" }, reader := .byHand, globalPath := "/g", workspacePath := "/w/c" }
  analyzer := fun _ => { result := .error (.analyzer "stopped") }

/-- The first and the last clause are merged and the second is not, and their written form, which
has two slashes, is read at the last one and asks for calls of the predicate with the slash. -/
theorem Tree.keys_are_faithful_slashed :
    slashedTree.recordOf? 0 = slashedTree.recordOf? 2 ∧
    slashedTree.recordOf? 0 ≠ slashedTree.recordOf? 1 ∧
    Indicator.parse "a/1/2" = .ok ("a/1", 2) ∧
    Cli.Session.run bareSetting ["refs", "a/1/2", "x.pl"] =
      Cli.Session.analyzed bareSetting false [{ id := "/w/x.pl", text := "" }]
        fun _ batch => .ok (batch.references "a/1" 2) := by
  obtain ⟨-, merged, -, asked⟩ := slashedTree.keys_are_faithful none
  have first : slashedTree.clauses[0]? =
      some ⟨"a/1", 2, .fallback, .fallback, []⟩ := by decide +kernel
  have second : slashedTree.clauses[1]? = some ⟨"a", 0, .fallback, .fallback, []⟩ := by
    decide +kernel
  have third : slashedTree.clauses[2]? =
      some ⟨"a/1", 2, .fallback, .fallback, []⟩ := by decide +kernel
  have record : (⟨"a/1", 2, .fallback, .fallback, []⟩ : PredicateRecord) ∈
      (slashedTree.index none).predicates := by decide +kernel
  have short : (2 : Int) < 10 ^ Numeral.digitLimit :=
    lt_of_lt_of_le (by decide : (2 : Int) < 10 ^ 1) (pow_le_pow_right₀ (by decide) (by decide))
  obtain ⟨parsed, asks, -⟩ := asked _ record (by decide) short
  refine ⟨(merged 0 2 _ _ first third).mpr ⟨rfl, rfl⟩, fun same => ?_, parsed, ?_⟩
  · exact absurd ((merged 0 1 _ _ first second).mp same).1 (by decide)
  · exact asks.refs bareSetting _ false _ (by decide +kernel)

end PredicateIndex
