import PredicateIndex.Proofs.Tree.Grammar

/-!
# Decoding accepts the grammar

Every decoder of a place accepts the values that obey the rule of the place, and no others. This is
said of one decoder after another, from texts and numbers over optional places, lists and tables of
fields to terms, by induction on the levels that are left, and from there to items and trees.

Main result: a value is decoded as a tree exactly when it obeys the grammar, and two values that
differ only in what no rule looks at are decoded both or not at all.
-/
namespace PredicateIndex.Decode

open Grammar

variable {α β : Type} {levels : Nat} {rule : Rule} {fields : Fields}

/-- A decoder gave something and no fault. -/
def Accepts (decoded : Decoded α) : Prop := ∃ a, decoded = .ok a

/-- A decoder accepts exactly the values that obey a rule. -/
def Decides (levels : Nat) (rule : Rule) (decode : Value → Decoded α) : Prop :=
  ∀ v, Accepts (decode v) ↔ Obeys levels rule v

/-! ## Steps -/

/-- A result is accepted. -/
theorem accepts_ok (a : α) : Accepts (.ok a : Decoded α) := ⟨a, rfl⟩

/-- Handing out a value is accepted. -/
theorem accepts_pure (a : α) : Accepts (pure a : Decoded α) := ⟨a, rfl⟩

/-- A fault is not accepted. -/
theorem not_accepts_fail (problem : Problem) : ¬Accepts (fail problem : Decoded α) :=
  fun ⟨_, decoded⟩ => fail_ne_ok decoded

/-- A step in front of a path makes no difference. -/
theorem accepts_under {step : PathStep} {decoded : Decoded α} :
    Accepts (under step decoded) ↔ Accepts decoded := by
  simp only [Accepts, under_eq_ok]

/-- Decoding in two steps is accepted if both steps are, where the second does not ask for more or
less after one result of the first than after another. -/
theorem accepts_bind {first : Decoded α} {next : α → Decoded β} {accepted : Prop}
    (rest : ∀ a, first = .ok a → (Accepts (next a) ↔ accepted)) :
    Accepts (first >>= next) ↔ Accepts first ∧ accepted := by
  constructor
  · rintro ⟨b, decoded⟩
    obtain ⟨a, read, decoded⟩ := bind_eq_ok.mp decoded
    exact ⟨⟨a, read⟩, (rest a read).mp ⟨b, decoded⟩⟩
  · rintro ⟨⟨a, read⟩, holds⟩
    obtain ⟨b, decoded⟩ := (rest a read).mpr holds
    exact ⟨b, bind_eq_ok.mpr ⟨a, read, decoded⟩⟩

/-- Decoding followed by handing something out is accepted if the decoding is. -/
theorem accepts_bind_pure {first : Decoded α} {next : α → β} :
    (Accepts do return next (← first)) ↔ Accepts first := by
  have rest : ∀ a, first = .ok a → (Accepts (pure (next a) : Decoded β) ↔ True) := fun a _ =>
    iff_true_intro (accepts_pure (next a))
  rw [accepts_bind rest, and_true]

/-- A field that may be absent is accepted if its value is. -/
theorem accepts_field {name : String} {default : α} {decode : Value → Decoded α} :
    Accepts (field fields name default decode) ↔
      ∀ v, fields.get? name = some v → Accepts (decode v) := by
  rw [field]
  cases fields.get? name with
  | none => simp [accepts_ok]
  | some v => simp [accepts_under]

/-- A field is accepted if its value obeys the rule that its decoder decides. -/
theorem Decides.field {decode : Value → Decoded α} (decides : Decides levels rule decode)
    {name : String} {default : α} :
    Accepts (field fields name default decode) ↔
      ∀ v, fields.get? name = some v → Obeys levels rule v := by
  rw [accepts_field]
  exact forall₂_congr fun v _ => decides v

/-- A field that has to be present is accepted if it is there and its value obeys the rule. -/
theorem Decides.required {decode : Value → Decoded α} (decides : Decides levels rule decode)
    {name : String} :
    Accepts (required fields name decode) ↔
      fields.has name ∧ ∀ v, fields.get? name = some v → Obeys levels rule v := by
  rw [Decode.required, accepts_under, Ledger.has]
  cases fields.get? name with
  | none => simp [not_accepts_fail]
  | some v => simp [decides v]

/-! ## Optional places and lists -/

/-- Where null stands for absence, null is accepted besides what is accepted anyway. -/
theorem Decides.nullable {decode : Value → Decoded α} (decides : Decides levels rule decode) :
    Decides levels (.optional rule) (nullable decode) := by
  intro v
  have mapped : Accepts ((decode v).map some) ↔ Accepts (decode v) := by
    cases decode v <;> simp [Accepts, Except.map]
  rw [obeys_optional, ← decides v, ← mapped]
  cases v with
  | null => simp [Decode.nullable, accepts_ok]
  | _ => simp [Decode.nullable]

/-- The elements of a list are accepted if each of them is. -/
theorem accepts_elements {decode : Value → Decoded α} (position : Nat) (items : List Value) :
    Accepts (elements decode position items) ↔ ∀ v ∈ items, Accepts (decode v) := by
  induction items generalizing position with
  | nil => simp [elements, accepts_ok]
  | cons v rest ih =>
    rw [elements, accepts_bind fun _ _ => accepts_bind_pure, accepts_under, ih,
      List.forall_mem_cons]

/-- A list is accepted if its elements are. -/
theorem Decides.tuple {decode : Value → Decoded α} (decides : Decides levels rule decode) :
    Decides levels (.list rule) (tuple decode) := by
  intro v
  rw [obeys_list]
  cases v with
  | list items =>
    simp only [Decode.tuple, accepts_elements, decides _, Value.list.injEq, exists_eq_left']
  | _ => simp [Decode.tuple, not_accepts_fail]

/-! ## Values without parts -/

/-- Texts are accepted where a text is wanted. -/
theorem decides_text (levels : Nat) : Decides levels .text text := by
  intro v
  constructor
  · intro accepted
    cases v with
    | text s => exact .text levels s
    | _ => exact (not_accepts_fail _ accepted).elim
  · rintro ⟨⟩
    exact accepts_ok _

/-- What stands for an integer is accepted where an integer is wanted. -/
theorem accepts_integer {v : Value} : Accepts (integer v) ↔ IsInteger v := by
  constructor
  · rintro ⟨n, decoded⟩
    cases v with
    | int n => exact .int n
    | bool b => exact .bool b
    | float x =>
      simp only [integer] at decoded
      split at decoded
      · exact (fail_ne_ok decoded).elim
      · rename_i finite
        split at decoded
        · exact (fail_ne_ok decoded).elim
        · rename_i n whole
          split at decoded
          · rename_i bounds
            rw [Bool.and_eq_true] at bounds
            exact .double x n (by simpa using finite) whole (of_decide_eq_true bounds.1)
              (of_decide_eq_true bounds.2)
          · exact (fail_ne_ok decoded).elim
    | text s =>
      simp only [integer] at decoded
      split at decoded
      · exact (fail_ne_ok decoded).elim
      · rename_i characters
        split at decoded
        · exact .numeral s _ (by simpa using characters) ‹_›
        · exact (fail_ne_ok decoded).elim
        · exact (fail_ne_ok decoded).elim
    | _ => exact (fail_ne_ok decoded).elim
  · intro stands
    cases stands with
    | int n => exact accepts_ok n
    | bool b => exact accepts_ok _
    | double x n finite whole lower upper =>
      simp [integer, finite, whole, doubleBound, lower, upper, accepts_ok]
    | numeral s n characters read => simp [integer, characters, read, accepts_ok]

/-- The rule of integers is the one that their decoder decides. -/
theorem decides_integer (levels : Nat) : Decides levels .integer integer := by
  intro v
  rw [accepts_integer]
  exact ⟨.integer levels v, fun | .integer _ _ stands => stands⟩

/-- What stands for a number is accepted where a number is wanted. -/
theorem decides_number (levels : Nat) : Decides levels .number number := by
  intro v
  constructor
  · rintro ⟨n, decoded⟩
    refine .number levels v ?_
    cases v with
    | int n => exact .int n
    | bool b => exact .bool b
    | float x => exact .double x
    | text s =>
      simp only [number] at decoded
      split at decoded
      · exact (fail_ne_ok (under_eq_ok.mp decoded)).elim
      · rename_i characters
        have characters : Text.isWellFormed s := by simpa using characters
        split at decoded
        · exact .integer s _ characters ‹_›
        · exact .decimal s _ characters ‹_›
        · exact (fail_ne_ok (under_eq_ok.mp decoded)).elim
        · exact (fail_ne_ok (under_eq_ok.mp decoded)).elim
    | _ => exact (fail_ne_ok (under_eq_ok.mp decoded)).elim
  · rintro ⟨⟩
    rename_i stands
    cases stands with
    | int n => exact accepts_ok _
    | bool b => exact accepts_ok _
    | double x => exact accepts_ok _
    | integer s n characters read => simp [number, characters, read, accepts_ok]
    | decimal s x characters read =>
      -- A numeral that can be read both ways is taken as an integer.
      cases whole : Numeral.readInteger s <;> simp [number, characters, read, whole, accepts_ok]

/-- The texts of a list are found if it holds nothing else. -/
theorem texts?_eq_some {items : List Value} {lines : List String} :
    texts? items = some lines ↔ items = lines.map .text := by
  constructor
  · intro found
    induction items generalizing lines with
    | nil => simp_all [texts?]
    | cons v rest ih =>
      cases v with
      | text s =>
        simp only [texts?, Option.map_eq_some_iff] at found
        obtain ⟨others, found, rfl⟩ := found
        rw [ih found, List.map_cons]
      | _ => simp [texts?] at found
  · rintro rfl
    exact texts?_map lines

/-- Payloads are accepted where a payload is wanted. -/
theorem decides_payload (levels : Nat) : Decides levels .payload payload := by
  intro v
  constructor
  · rintro ⟨written, decoded⟩
    refine .payload levels v ?_
    cases v with
    | text s => exact .text s
    | list items =>
      simp only [payload] at decoded
      split at decoded
      · obtain rfl := texts?_eq_some.mp ‹_›
        exact .lines _
      · exact (fail_ne_ok (under_eq_ok.mp decoded)).elim
    | _ => exact (fail_ne_ok (under_eq_ok.mp decoded)).elim
  · rintro ⟨⟩
    rename_i stands
    cases stands with
    | text s => exact accepts_ok _
    | lines items => simp [payload, texts?_map, accepts_ok]

/-- Points are accepted where a point is wanted. -/
theorem decides_spanPoint (levels : Nat) : Decides levels .point spanPoint := by
  intro v
  rw [obeys_point]
  cases v with
  | object fields =>
    rw [spanPoint, accepts_bind fun _ _ => accepts_bind_pure, (decides_integer levels).required,
      (decides_integer levels).required]
    simp [pointFields, and_and_and_comm]
  | _ => simp [spanPoint, not_accepts_fail]

/-- Spans are accepted where a span is wanted. -/
theorem decides_span (levels : Nat) : Decides levels .span span := by
  intro v
  rw [obeys_span]
  cases v with
  | object fields =>
    rw [span, accepts_bind fun _ _ => accepts_bind_pure, (decides_spanPoint levels).required,
      (decides_spanPoint levels).required]
    simp [spanFields, and_and_and_comm]
  | _ => simp [span, not_accepts_fail]

/-- The one tag of operators is accepted where it is wanted. -/
theorem decides_operatorTag (levels : Nat) : Decides levels .operatorTag operatorTag := by
  intro v
  constructor
  · rintro ⟨_, decoded⟩
    cases v with
    | text tag =>
      simp only [operatorTag] at decoded
      split at decoded
      · exact (fail_ne_ok decoded).elim
      · split at decoded
        · rename_i same
          obtain rfl := beq_iff_eq.mp same
          exact .operatorTag levels
        · exact (fail_ne_ok decoded).elim
    | _ => exact (fail_ne_ok decoded).elim
  · rintro ⟨⟩
    exact ⟨(), by decide⟩

/-! ## Nodes -/

/-- A function of tags is given by a table if it agrees with it on the tags of the table and has one
value at all others. -/
theorem eq_lookup_of_table {Kind : Type} {ofTag : String → Kind} {tags : List (String × Kind)}
    {unknown : Kind} (known : ∀ tag ∈ tags.map Prod.fst, ofTag tag = (tags.lookup tag).getD unknown)
    (other : ∀ tag ∉ tags.map Prod.fst, ofTag tag = unknown) (tag : String) :
    ofTag tag = (tags.lookup tag).getD unknown := by
  by_cases inside : tag ∈ tags.map Prod.fst
  · exact known tag inside
  · have absent : tags.lookup tag = none :=
      List.lookup_eq_none_iff.mpr fun entry among => by
        simpa using fun same : tag = entry.1 => inside (same ▸ List.mem_map_of_mem among)
    rw [absent, other tag inside, Option.getD_none]

/-- The kind of a term tag is the one it has in the table. -/
theorem ofTag_eq_lookup_termTags (tag : String) :
    TermKind.ofTag tag = (termTags.lookup tag).getD .unknown := by
  refine eq_lookup_of_table (by decide) (fun tag other => ?_) tag
  simp only [termTags, List.map_cons, List.map_nil, List.mem_cons, not_or] at other
  simp [TermKind.ofTag, other]

/-- The kind of an item tag is the one it has in the table. -/
theorem ofTag_eq_lookup_itemTags (tag : String) :
    ItemKind.ofTag tag = (itemTags.lookup tag).getD .unknown := by
  refine eq_lookup_of_table (by decide) (fun tag other => ?_) tag
  simp only [itemTags, List.map_cons, List.map_nil, List.mem_cons, not_or] at other
  simp [ItemKind.ofTag, other]

/-- The kind of the term an object describes is the one that its tag has in the table. -/
theorem termKind_eq_kindIn (fields : Fields) :
    termKind fields = kindIn termTags .unknown fields := by
  rw [termKind, kindIn]
  cases fields.get? "type" with
  | none => rfl
  | some v => cases v <;> simp only [ofTag_eq_lookup_termTags]

/-- The kind of the item an object describes is the one that its tag has in the table. -/
theorem itemKind_eq_kindIn (fields : Fields) :
    itemKind fields = kindIn itemTags .unknown fields := by
  rw [itemKind, kindIn]
  cases fields.get? "type" with
  | none => rfl
  | some v => cases v <;> simp only [ofTag_eq_lookup_itemTags]

/-- Position and payload of a node are accepted if the fields of every node obey their rules. -/
theorem accepts_mark (levels : Nat) :
    Accepts (mark fields) ↔
      ∀ entry ∈ common, ∀ v, fields.get? entry.1 = some v → Obeys levels entry.2 v := by
  rw [mark, accepts_bind fun _ _ => accepts_bind fun _ _ => accepts_bind_pure,
    (decides_integer levels).nullable.field, (decides_integer levels).nullable.field,
    (decides_payload levels).nullable.field]
  simp [common]

/-- A node is accepted if the fields of every node and those of its own obey their rules. -/
theorem accepts_node (levels : Nat) {own : List (String × Rule)} {next : Mark → Decoded α}
    (rest : ∀ written, Accepts (next written) ↔
      ∀ entry ∈ own, ∀ v, fields.get? entry.1 = some v → Obeys levels entry.2 v) :
    Accepts (mark fields >>= next) ↔
      ∀ entry ∈ common ++ own, ∀ v, fields.get? entry.1 = some v → Obeys levels entry.2 v := by
  rw [accepts_bind fun written _ => rest written, accepts_mark levels, List.forall_mem_append]

/-- An operator is accepted if its fields obey their rules and a level is left for it. -/
theorem decides_operatorAt (levels : Nat) : Decides levels .operator (operatorAt levels) := by
  intro v
  rw [obeys_operator]
  cases levels with
  | zero => simp [operatorAt, not_accepts_fail]
  | succ left =>
    cases v with
    | object fields =>
      have own : Accepts (Decode.operatorFields fields) ↔ ∀ entry ∈ Grammar.operatorFields, ∀ w,
          Ledger.get? fields entry.1 = some w → Obeys left entry.2 w := by
        refine accepts_node left fun written => ?_
        rw [accepts_bind fun _ _ => accepts_bind_pure, (decides_operatorTag left).field,
          (decides_text left).field]
        simp
      simpa [operatorAt] using own
    | _ => simp [operatorAt, not_accepts_fail]

/-- A term of the kind that its tag names is accepted if the fields of the kind obey their rules. -/
theorem accepts_termOfKind {deeper : Value → Decoded Term} {kind : TermKind}
    (chosen : termKind fields = kind) (below : Decides levels .term deeper) :
    Accepts (termOfKind levels deeper kind fields) ↔
      ∀ entry ∈ termFields kind, ∀ v, fields.get? entry.1 = some v → Obeys levels entry.2 v := by
  have text : Decides levels .text Decode.text := decides_text levels
  have arity : Decides levels (.optional .integer) (nullable integer) :=
    (decides_integer levels).nullable
  have symbol : Decides levels (.optional .operator) (nullable (operatorAt levels)) :=
    (decides_operatorAt levels).nullable
  cases kind with
  | atom | operator | unknown =>
    refine accepts_node levels fun written => ?_
    refine (accepts_bind_pure.trans text.field).trans ?_
    simp
  | var =>
    refine accepts_node levels fun written => ?_
    -- The tag is read once more; it is a text, or the kind would be unknown.
    have tagged : Accepts (field fields "type" "var" Decode.text) := by
      refine accepts_field.mpr fun v found => ?_
      cases v with
      | text s => exact accepts_ok s
      | _ => simp [termKind, found] at chosen
    rw [accepts_bind fun _ _ => accepts_bind_pure, iff_true_intro tagged, text.field]
    simp
  | number =>
    refine accepts_node levels fun written => ?_
    rw [accepts_bind_pure, (decides_number levels).field]
    simp
  | compound =>
    refine accepts_node levels fun written => ?_
    rw [accepts_bind fun _ _ => accepts_bind fun _ _ => accepts_bind_pure, text.field, arity.field,
      below.tuple.field]
    simp
  | operation =>
    refine accepts_node levels fun written => ?_
    rw [accepts_bind fun _ _ => accepts_bind fun _ _ => accepts_bind_pure, symbol.field,
      below.nullable.field, below.nullable.field]
    simp
  | list =>
    refine accepts_node levels fun written => ?_
    rw [accepts_bind fun _ _ => accepts_bind fun _ _ => accepts_bind_pure, below.tuple.field,
      below.nullable.field, below.nullable.field]
    simp
  | group =>
    refine accepts_node levels fun written => ?_
    rw [accepts_bind_pure, below.tuple.field]
    simp
  | cut => exact accepts_bind_pure.trans (accepts_mark levels)
  | param =>
    refine accepts_node levels fun written => ?_
    rw [accepts_bind_pure, below.nullable.field]
    simp

/-- A term is accepted, with so many levels left for it, if it obeys the rule of terms. -/
theorem decides_term (levels : Nat) : Decides levels .term (term levels) := by
  induction levels with
  | zero =>
    intro v
    rw [term, accepts_under]
    exact iff_of_false (not_accepts_fail _) not_obeys_term_zero
  | succ levels ih =>
    intro v
    cases v with
    | object fields =>
      rw [term, accepts_under, obeys_node, accepts_termOfKind rfl ih, termKind_eq_kindIn]
    | _ =>
      refine iff_of_true (accepts_ok _) (.bare levels _ ?_)
      rintro fields ⟨⟩

/-- The span of an item is accepted if it obeys its rule under the name that counts. -/
theorem accepts_itemSpan (levels : Nat) :
    Accepts (itemSpan fields) ↔
      ∀ v, fields.get? (spanName fields) = some v → Obeys levels (.optional .span) v := by
  rw [itemSpan, spanName]
  split <;> exact (decides_span levels).nullable.field

/-- What an item of a kind says is accepted if the fields of the kind obey their rules. -/
theorem accepts_itemBody (kind : ItemKind) :
    Accepts (itemBody kind fields) ↔
      ∀ entry ∈ bodyFields kind, ∀ v, fields.get? entry.1 = some v → Obeys 254 entry.2 v := by
  have term : Decides 254 .term topTerm := decides_term 254
  cases kind with
  | rule =>
    rw [itemBody, accepts_bind fun _ _ => accepts_bind_pure, term.nullable.field, term.tuple.field]
    simp [bodyFields]
  | fact =>
    rw [itemBody, accepts_bind_pure, term.nullable.field]
    simp [bodyFields]
  | directive =>
    rw [itemBody, accepts_bind_pure, term.tuple.field]
    simp [bodyFields]
  | parseError | unknown =>
    refine (accepts_bind_pure.trans (decides_text 254).field).trans ?_
    simp [bodyFields]

/-- An item is accepted if it obeys the rule of items. -/
theorem decides_item (levels : Nat) : Decides levels .item item := by
  intro v
  rw [obeys_item]
  cases v with
  | object fields =>
    have own : Accepts (item (.object fields)) ↔
        ∀ entry ∈ itemFields (spanName fields) (itemKind fields), ∀ w,
          Ledger.get? fields entry.1 = some w → Obeys 254 entry.2 w := by
      rw [item, accepts_under]
      refine accepts_node 254 fun written => ?_
      rw [accepts_bind fun _ _ => accepts_bind_pure, accepts_itemSpan 254, accepts_itemBody,
        List.forall_mem_cons]
    simpa [← itemKind_eq_kindIn] using own
  | _ => simp [item, accepts_under, not_accepts_fail]

/-- A root is accepted if its fields obey their rules. -/
theorem accepts_tree (levels : Nat) :
    Accepts (tree fields) ↔
      ∀ entry ∈ rootFields, ∀ v, fields.get? entry.1 = some v → Obeys levels entry.2 v := by
  rw [tree, accepts_bind fun _ _ => accepts_bind_pure, (decides_text levels).field,
    (decides_item levels).tuple.field]
  simp [rootFields]

end PredicateIndex.Decode

namespace PredicateIndex.Tree

open Grammar

/-- A value is decoded as a tree if it obeys the rule of trees. -/
theorem exists_ofValue_eq_ok {v : Value} : (∃ tree, ofValue v = .ok tree) ↔ Obeys 0 .tree v := by
  simp only [obeys_tree, ← Decode.accepts_tree, ofValue_eq_ok]
  constructor
  · rintro ⟨tree, fields, same, rooted, decoded⟩
    exact ⟨fields, same, rooted, tree, decoded⟩
  · rintro ⟨fields, same, rooted, tree, decoded⟩
    exact ⟨tree, fields, same, rooted, decoded⟩

/-- Decoding accepts exactly the values that obey the grammar, and what no rule looks at (keys that
the kind of a node does not have, the contents of nodes with an unknown tag) makes no difference. -/
theorem decoded_iff_obeys (v : Value) :
    ((∃ tree, ofValue v = .ok tree) ↔ Obeys 0 .tree v) ∧
      ∀ w, Alike .tree v w → ((∃ tree, ofValue v = .ok tree) ↔ ∃ tree, ofValue w = .ok tree) := by
  refine ⟨exists_ofValue_eq_ok, fun w alike => ?_⟩
  rw [exists_ofValue_eq_ok, exists_ofValue_eq_ok, alike.obeys_iff]

/-- An item of an unknown kind. -/
def plainItem : Fields := [("type", .text "comment"), ("line", .int 3)]

/-- The same item with keys that items of its kind do not have; in a rule, this body would be
refused. -/
def noisyItem : Fields :=
  [("body", .object [("type", .list [])]), ("type", .text "comment"), ("line", .int 3)]

/-- A file with the plain item. -/
def plainFile : Value := .object [("predicates", .list [.object plainItem])]

/-- A file with the noisy item and a key that files do not have. -/
def noisyFile : Value := .object [("version", .int 2), ("predicates", .list [.object noisyItem])]

/-- The two files are alike: no rule looks at what is added. -/
theorem alike_plain_noisy : Alike .tree plainFile noisyFile := by
  have kind : itemFields (spanName plainItem) (kindIn itemTags .unknown plainItem) =
      itemFields "full_range" .unknown := rfl
  have agree : ∀ entry ∈ itemFields "full_range" .unknown,
      plainItem.get? entry.1 = noisyItem.get? entry.1 := by
    simp [itemFields, common, bodyFields, plainItem, noisyItem, Ledger.get?_cons]
  have item : Alike .item (.object plainItem) (.object noisyItem) := by
    refine .item _ _ rfl rfl ?_ ?_ <;> rw [kind]
    · intro entry inside
      rw [Ledger.has, Ledger.has, agree entry inside]
    · intro entry inside v w here there
      obtain rfl := Option.some.inj (here.symm.trans ((agree entry inside).trans there))
      exact .same entry.2 v
  have items : Alike (.list .item) (.list [.object plainItem]) (.list [.object noisyItem]) := by
    refine .list .item _ _ rfl fun n v w here there => ?_
    obtain rfl : n = 0 := by simpa using (List.getElem?_eq_some_iff.mp here).1
    obtain rfl := Option.some.inj here
    obtain rfl := Option.some.inj there
    exact item
  refine .tree _ _ (by simp [SameNames, rootFields, Ledger.has, Ledger.get?_cons]) ?_
  intro entry inside v w here there
  rcases List.mem_cons.mp inside with rfl | inside
  · simp [Ledger.get?_cons] at here
  · obtain rfl := List.mem_singleton.mp inside
    obtain rfl := Option.some.inj here
    obtain rfl := Option.some.inj there
    exact items

/-- The plain file is decoded, and with it the noisy one. -/
theorem decoded_iff_obeys_noisy :
    Obeys 0 .tree plainFile ∧ ∃ tree, ofValue noisyFile = .ok tree := by
  have decoded : ∃ tree, ofValue plainFile = .ok tree := ⟨_, rfl⟩
  obtain ⟨accepted, unseen⟩ := decoded_iff_obeys plainFile
  exact ⟨accepted.mp decoded, (unseen noisyFile alike_plain_noisy).mp decoded⟩

end PredicateIndex.Tree
