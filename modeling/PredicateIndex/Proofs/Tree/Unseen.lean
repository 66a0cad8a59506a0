import Mathlib.Logic.Relation
import PredicateIndex.Proofs.Tree.Acceptance
import PredicateIndex.Proofs.Tree.Site

/-!
# What decoding does not see

A decoder sees of a value only what the rule of its place looks at: of a node its tag and the fields
of its kind. Values that differ in nothing else are decoded alike, to the same tree or the same
fault. A change at one site that its rule does not look at is a change of the whole value that no
rule looks at, so keys that the kind of a node does not have can be added at any of its nodes.

Main result: keys that are no names of the fields of a node, added to any of the nodes of a value,
leave the tree that the value describes as it is.
-/
namespace PredicateIndex

namespace Grammar

variable {levels : Nat} {rule wanted : Rule} {v w : Value} {fields other : Fields}
  {table : List (String × Rule)} {name : String}

/-- The rules of values without parts. -/
def Rule.isPlain : Rule → Bool
  | .text | .integer | .number | .payload | .operatorTag => true
  | _ => false

/-- Values without parts are alike only if they are the same. -/
theorem Alike.eq_of_plain (alike : Alike rule v w) (plain : rule.isPlain) : v = w := by
  cases alike with
  | same => rfl
  | _ => cases plain

/-! ## Objects that are alike in a table -/

/-- Two objects have the same of the fields in a table, and these are alike. -/
structure AlikeIn (table : List (String × Rule)) (fields other : Fields) : Prop where
  /-- They have the same of the fields. -/
  names : SameNames table fields other
  /-- What both have is alike. -/
  alike : ∀ entry ∈ table, ∀ v w, fields.get? entry.1 = some v → other.get? entry.1 = some w →
    Alike entry.2 v w

/-- Objects that are alike in a table are alike in a part of it. -/
theorem AlikeIn.mono {part : List (String × Rule)} (alike : AlikeIn table fields other)
    (inside : part ⊆ table) : AlikeIn part fields other :=
  ⟨fun entry among => alike.names entry (inside among),
    fun entry among => alike.alike entry (inside among)⟩

/-- Objects that have the same values under the names of a table are alike in it. -/
theorem alikeIn_of_get? (same : ∀ entry ∈ table, fields.get? entry.1 = other.get? entry.1) :
    AlikeIn table fields other where
  names entry inside := by rw [Ledger.has, Ledger.has, same entry inside]
  alike entry inside v w here there := by
    obtain rfl := Option.some.inj (here.symm.trans ((same entry inside).trans there))
    exact .same entry.2 v

/-- A field of a table is absent from both of two objects that are alike in it, or alike. -/
theorem AlikeIn.absent_or_alike (alike : AlikeIn table fields other) {n : Nat}
    (entry : table[n]? = some (name, rule)) :
    (fields.get? name = none ∧ other.get? name = none) ∨
      ∃ v w, fields.get? name = some v ∧ other.get? name = some w ∧ Alike rule v w := by
  have inside := List.mem_of_getElem? entry
  have both := alike.names _ inside
  simp only [Ledger.has] at both
  cases here : fields.get? name with
  | none =>
    rw [here, Option.isSome_none, eq_comm, Option.isSome_eq_false_iff, Option.isNone_iff_eq_none]
      at both
    exact .inl ⟨rfl, both⟩
  | some v =>
    rw [here, Option.isSome_some, eq_comm, Option.isSome_iff_exists] at both
    obtain ⟨w, there⟩ := both
    exact .inr ⟨v, w, rfl, there, alike.alike _ inside v w here there⟩

end Grammar

namespace Decode

open Grammar

variable {α β : Type} {levels : Nat} {rule : Rule} {v w : Value} {fields other : Fields}
  {table : List (String × Rule)} {name : String} {decode : Value → Decoded α}

/-! ## Decoders of places -/

/-- A decoder sees no more of a value than a rule looks at. -/
def Respects (rule : Rule) (decode : Value → Decoded α) : Prop :=
  ∀ v w, Alike rule v w → decode v = decode w

/-- Fields with the same value are decoded alike. -/
theorem field_congr {default : α} (same : fields.get? name = other.get? name) :
    field fields name default decode = field other name default decode := by
  rw [field, field, same]

/-- Fields that are alike are decoded alike. -/
theorem Respects.field {default : α} (respects : Respects rule decode)
    (alike : AlikeIn table fields other) (n : Nat) (entry : table[n]? = some (name, rule)) :
    field fields name default decode = Decode.field other name default decode := by
  rw [Decode.field, Decode.field]
  rcases alike.absent_or_alike entry with ⟨here, there⟩ | ⟨v, w, here, there, alike⟩
  · rw [here, there]
  · simp only [here, there, respects v w alike]

/-- Fields that have to be present and are alike are decoded alike. -/
theorem Respects.required (respects : Respects rule decode) (alike : AlikeIn table fields other)
    (n : Nat) (entry : table[n]? = some (name, rule)) :
    required fields name decode = Decode.required other name decode := by
  rw [Decode.required, Decode.required]
  rcases alike.absent_or_alike entry with ⟨here, there⟩ | ⟨v, w, here, there, alike⟩
  · rw [here, there]
  · simp only [here, there, respects v w alike]

/-- A decoder sees no more where null stands for absence. -/
theorem Respects.nullable (respects : Respects rule decode) :
    Respects (.optional rule) (nullable decode) := by
  have step (v : Value) (present : v ≠ .null) :
      Decode.nullable decode v = (decode v).map some := by
    cases v <;> simp_all [Decode.nullable]
  intro v w alike
  cases alike with
  | same => rfl
  | present _ _ _ alike =>
    by_cases absent : v = .null
    · rw [absent, alike.null_iff.mp absent]
    · rw [step v absent, step w (mt alike.null_iff.mpr absent), respects v w alike]

/-- Lists whose elements are alike are decoded alike. -/
theorem Respects.elements (respects : Respects rule decode) (position : Nat)
    {items others : List Value} (length : items.length = others.length)
    (alike : ∀ (n : Nat) (v w : Value), items[n]? = some v → others[n]? = some w →
      Alike rule v w) :
    elements decode position items = Decode.elements decode position others := by
  induction items generalizing others position with
  | nil => rw [List.eq_nil_of_length_eq_zero length.symm]
  | cons v rest ih =>
    cases others with
    | nil => simp at length
    | cons w others =>
      have head : decode v = decode w := respects v w (alike 0 v w rfl rfl)
      have tail := ih (position + 1) (by simpa using length) fun n => alike (n + 1)
      rw [Decode.elements, Decode.elements, head, tail]

/-- A decoder of lists sees no more than that of their elements. -/
theorem Respects.tuple (respects : Respects rule decode) :
    Respects (.list rule) (tuple decode) := by
  intro v w alike
  cases alike with
  | same => rfl
  | list _ items others length alike => exact respects.elements 0 length alike

/-- Of a value without parts everything is seen. -/
theorem respects_plain (plain : rule.isPlain) : Respects rule decode :=
  fun _ _ alike => congrArg decode (alike.eq_of_plain plain)

/-- Of a text everything is seen. -/
theorem respects_text : Respects .text text := respects_plain rfl

/-- Of an integer everything is seen. -/
theorem respects_integer : Respects .integer integer := respects_plain rfl

/-! ## Decoders of nodes -/

/-- Position and payload are decoded alike from objects that are alike. -/
theorem mark_congr (alike : AlikeIn common fields other) : mark fields = mark other := by
  have payload : Respects .payload payload := respects_plain rfl
  rw [mark, mark, respects_integer.nullable.field alike 0 rfl,
    respects_integer.nullable.field alike 1 rfl, payload.nullable.field alike 2 rfl]

/-- The decoder of points sees no more than the fields of points. -/
theorem respects_spanPoint : Respects .point spanPoint := by
  intro v w alike
  cases alike with
  | same => rfl
  | point fields other names alike =>
    have alike : AlikeIn pointFields fields other := ⟨names, alike⟩
    rw [spanPoint, spanPoint, respects_integer.required alike 0 rfl,
      respects_integer.required alike 1 rfl]

/-- The decoder of spans sees no more than the fields of spans. -/
theorem respects_span : Respects .span span := by
  intro v w alike
  cases alike with
  | same => rfl
  | span fields other names alike =>
    have alike : AlikeIn spanFields fields other := ⟨names, alike⟩
    rw [span, span, respects_spanPoint.required alike 0 rfl,
      respects_spanPoint.required alike 1 rfl]

/-- The decoder of operators sees no more than the fields of operators. -/
theorem respects_operatorAt (levels : Nat) : Respects .operator (operatorAt levels) := by
  intro v w alike
  cases alike with
  | same => rfl
  | operator fields other names alike =>
    have alike : AlikeIn Grammar.operatorFields fields other := ⟨names, alike⟩
    have tag : Respects .operatorTag operatorTag := respects_plain rfl
    cases levels with
    | zero => rfl
    | succ levels =>
      rw [operatorAt, operatorAt, Decode.operatorFields, Decode.operatorFields,
        mark_congr (alike.mono (List.subset_append_left _ _)), tag.field alike 3 rfl,
        respects_text.field alike 4 rfl]

/-- Terms of one kind are decoded alike from objects with the same tag that are alike in the fields
of the kind. -/
theorem termOfKind_congr {deeper : Value → Decoded Term} {kind : TermKind}
    (below : Respects .term deeper) (tag : fields.get? "type" = other.get? "type")
    (alike : AlikeIn (termFields kind) fields other) :
    termOfKind levels deeper kind fields = termOfKind levels deeper kind other := by
  have same : mark fields = mark other := by
    refine mark_congr (alike.mono ?_)
    cases kind <;> simp [termFields]
  rw [termOfKind, termOfKind, same]
  cases kind with
  | atom | operator => simp only [respects_text.field alike 3 rfl]
  | var => simp only [field_congr tag, respects_text.field alike 3 rfl]
  | number =>
    have number : Respects .number number := respects_plain rfl
    simp only [number.field alike 3 rfl]
  | compound =>
    simp only [respects_text.field alike 3 rfl, respects_integer.nullable.field alike 4 rfl,
      below.tuple.field alike 5 rfl]
  | operation =>
    simp only [(respects_operatorAt levels).nullable.field alike 3 rfl,
      below.nullable.field alike 4 rfl, below.nullable.field alike 5 rfl]
  | list =>
    simp only [below.tuple.field alike 3 rfl, below.nullable.field alike 4 rfl,
      below.nullable.field alike 5 rfl]
  | group => simp only [below.tuple.field alike 3 rfl]
  | cut => rfl
  | param => simp only [below.nullable.field alike 3 rfl]
  | unknown => simp only [unknownTag, field_congr tag]

/-- The decoder of terms sees no more than the tags of terms and the fields of their kinds. -/
theorem respects_term (levels : Nat) : Respects .term (term levels) := by
  induction levels with
  | zero =>
    intro v w alike
    cases alike with
    | same => rfl
    | node fields other tag names alike =>
      rw [term, term, kindOf, kindOf, termKind_eq_kindIn, termKind_eq_kindIn, kindIn_congr _ _ tag]
  | succ levels ih =>
    intro v w alike
    cases alike with
    | same => rfl
    | node fields other tag names alike =>
      rw [term, term, termKind_eq_kindIn, termKind_eq_kindIn, ← kindIn_congr _ _ tag,
        termOfKind_congr ih tag ⟨names, alike⟩]

/-- The span of an item is decoded under the name that counts. -/
theorem itemSpan_eq_field (fields : Fields) :
    itemSpan fields = field fields (spanName fields) none (nullable span) := by
  rw [itemSpan, spanName]
  split <;> rfl

/-- What items of one kind say is decoded alike from objects with the same tag that are alike in the
fields of the kind. -/
theorem itemBody_congr {kind : ItemKind} (tag : fields.get? "type" = other.get? "type")
    (alike : AlikeIn (bodyFields kind) fields other) :
    itemBody kind fields = itemBody kind other := by
  have term : Respects .term topTerm := respects_term termLevels
  cases kind with
  | rule => simp only [itemBody, term.nullable.field alike 0 rfl, term.tuple.field alike 1 rfl]
  | fact => simp only [itemBody, term.nullable.field alike 0 rfl]
  | directive => simp only [itemBody, term.tuple.field alike 0 rfl]
  | parseError => simp only [itemBody, respects_text.field alike 0 rfl]
  | unknown => simp only [itemBody, unknownTag, field_congr tag]

/-- The decoder of items sees no more than the tags of items and the fields of their kinds. -/
theorem respects_item : Respects .item item := by
  intro v w alike
  cases alike with
  | same => rfl
  | item fields other tag span names alike =>
    have alike : AlikeIn (itemFields (spanName fields) (kindIn itemTags .unknown fields)) fields
        other := ⟨names, alike⟩
    have own : bodyFields (kindIn itemTags .unknown fields) ⊆
        itemFields (spanName fields) (kindIn itemTags .unknown fields) := fun entry inside =>
      List.mem_append_right _ (List.mem_cons_of_mem _ inside)
    rw [item, item, itemKind_eq_kindIn, itemKind_eq_kindIn, ← kindIn_congr _ _ tag,
      mark_congr (alike.mono (List.subset_append_left _ _)), itemSpan_eq_field, itemSpan_eq_field,
      ← span, respects_span.nullable.field alike 3 rfl, itemBody_congr tag (alike.mono own)]

end Decode

/-- Values that differ only in what no rule looks at describe the same tree. -/
theorem Tree.ofValue_of_alike {v w : Value} {tree : Tree} (alike : Grammar.Alike .tree v w)
    (decoded : ofValue v = .ok tree) : ofValue w = .ok tree := by
  cases alike with
  | same => exact decoded
  | tree fields other names alike =>
    have alike : Grammar.AlikeIn Grammar.rootFields fields other := ⟨names, alike⟩
    obtain ⟨_, same, rooted, read⟩ := ofValue_eq_ok.mp decoded
    obtain rfl := Value.object.inj same
    refine ofValue_eq_ok.mpr ⟨other, rfl, ?_, ?_⟩
    · rw [← names ("predicates", .list .item) (by simp [Grammar.rootFields]), rooted]
    · rw [← read, Decode.tree, Decode.tree, Decode.respects_text.field alike 0 rfl,
        Decode.respects_item.tuple.field alike 1 rfl]

namespace Grammar

variable {levels : Nat} {rule wanted : Rule} {v w : Value} {fields other : Fields} {form : Form}
  {table : List (String × Rule)} {name : String}

/-! ## Changes at a site -/

/-- No name has two rules in the table of a form. -/
theorem nodup_table (shape : form? levels rule fields = some form) :
    (form.table.map Prod.fst).Nodup := by
  have terms (kind : TermKind) : ((termFields kind).map Prod.fst).Nodup := by
    cases kind <;> decide
  have items (kind : ItemKind) : ((itemFields (spanName fields) kind).map Prod.fst).Nodup := by
    rw [spanName]
    split <;> cases kind <;> decide
  unfold form? at shape
  split at shape <;> cases shape
  case h_4 => exact terms _
  case h_5 => exact items _
  all_goals
    dsimp only
    decide

/-- An object in which a field is replaced has the same fields. -/
theorem has_put (present : fields.get? name = some v) (key : String) :
    Ledger.has fields key = Ledger.has (Ledger.put fields name w) key := by
  rw [Ledger.has, Ledger.has, Ledger.get?_put]
  split
  · next same => simp [← same, present]
  · rfl

/-- A field that is replaced by something like it leaves an object like it was, in a table where no
name has two rules. -/
theorem alikeIn_put (distinct : (table.map Prod.fst).Nodup) (inside : (name, wanted) ∈ table)
    (present : fields.get? name = some v) (alike : Alike wanted v w) :
    AlikeIn table fields (Ledger.put fields name w) where
  names entry _ := has_put present entry.1
  alike entry among x y here there := by
    by_cases same : entry.1 = name
    · obtain rfl : entry = (name, wanted) := List.inj_on_of_nodup_map distinct among inside same
      rw [present] at here
      rw [Ledger.get?_put_self] at there
      cases here
      cases there
      exact alike
    · rw [Ledger.get?_put_ne _ (Ne.symm same), here] at there
      cases there
      exact .same entry.2 x

/-- A tag in the table of a kind is a text. -/
theorem plain_of_tag (shape : form? levels rule fields = some form)
    (inside : ("type", wanted) ∈ form.table) : wanted.isPlain := by
  have terms (kind : TermKind) (inside : ("type", wanted) ∈ termFields kind) : wanted.isPlain := by
    cases kind <;> simp_all [termFields, common, Rule.isPlain]
  have items (kind : ItemKind) (inside : ("type", wanted) ∈ itemFields (spanName fields) kind) :
      wanted.isPlain := by
    have other : spanName fields ≠ "type" := by
      rw [spanName]
      split <;> decide
    cases kind <;> simp_all [itemFields, bodyFields, common, Ne.symm other, Rule.isPlain]
  unfold form? at shape
  split at shape <;> cases shape
  case h_4 => exact terms _ inside
  case h_5 => exact items _ inside
  all_goals simp_all [pointFields, spanFields, operatorFields, rootFields, common, Rule.isPlain]

/-- An object in which a field is replaced by something like it is like it was. -/
theorem alike_put (shape : form? levels rule fields = some form)
    (inside : (name, wanted) ∈ form.table) (present : fields.get? name = some v)
    (alike : Alike wanted v w) :
    Alike rule (.object fields) (.object (Ledger.put fields name w)) := by
  have ⟨names, alikes⟩ := alikeIn_put (nodup_table shape) inside present alike
  -- A tag can only be replaced by itself, so the kind of the object stays.
  have tag : fields.get? "type" = Ledger.get? (Ledger.put fields name w) "type" := by
    rw [Ledger.get?_put]
    split
    · next same =>
      subst same
      rw [present, alike.eq_of_plain (plain_of_tag shape inside)]
    · rfl
  have span : spanName fields = spanName (Ledger.put fields name w) := by
    rw [spanName, spanName, has_put present "fullRange"]
  unfold form? at shape
  split at shape <;> cases shape
  · exact .point fields _ names alikes
  · exact .span fields _ names alikes
  · exact .operator fields _ names alikes
  · exact .node fields _ tag names alikes
  · exact .item fields _ tag span names alikes
  · exact .tree fields _ names alikes

/-- What is asked of a field by its rule is all that the rule looks at. -/
theorem Alike.of_asked? {asked : Rule} (asks : wanted.asked? v = some asked)
    (alike : Alike asked v w) : Alike wanted v w := by
  unfold Rule.asked? at asks
  split at asks <;> cases asks
  · exact .present _ _ _ alike
  · exact alike

/-- A list in which an element is replaced by something like it is like it was. -/
theorem alike_set {items : List Value} {n : Nat} (present : items[n]? = some v)
    (alike : Alike rule v w) : Alike (.list rule) (.list items) (.list (items.set n w)) := by
  refine .list rule items _ List.length_set.symm fun m x y here there => ?_
  have among : n < items.length := (List.getElem?_eq_some_iff.mp present).1
  by_cases same : n = m
  · subst same
    rw [List.getElem?_set_self among] at there
    cases present.symm.trans here
    cases there
    exact alike
  · rw [List.getElem?_set_ne same, here] at there
    cases there
    exact .same rule x

/-- A value in which something at a site is replaced by something like it is like it was. -/
theorem Leads.alike {site last : Site} {address : List Nat} {path : Path} {x y : Value}
    (leads : Leads site address path last) (stands : site.found = some v)
    (ends : last.found = some x) (alike : Alike last.rule x y) :
    Alike site.rule v (Value.replaceAt y path v) := by
  induction leads generalizing v with
  | here site =>
    obtain rfl := Option.some.inj (stands.symm.trans ends)
    rw [← List.append_nil site.label, site.replaceAt_label, Value.replaceAt]
    exact alike
  | @further site next last n step address path first rest ih =>
    rw [site.replaceAt_label]
    cases first with
    | field shape entry present asks =>
      obtain rfl := Option.some.inj stands
      rw [Value.replaceAt_key present]
      exact alike_put shape (List.mem_of_getElem? entry) present <|
        .of_asked? asks (ih rfl ends alike)
    | missing =>
      -- Nothing stands at a field that is missing, and there is no site below it.
      cases rest with
      | here => cases ends
      | further next _ => cases next
    | element present =>
      obtain rfl := Option.some.inj stands
      rw [Value.replaceAt_index present]
      exact alike_set present (ih rfl ends alike)

/-! ## Keys that are no names of fields -/

/-- The names under which the fields of an object are looked for, if it is one of a node or a span:
those of the fields of its kind, its tag, and for an item both names of its span. -/
def fieldNames? : Rule → Fields → Option (List String)
  | .point, _ => some (pointFields.map Prod.fst)
  | .span, _ => some (spanFields.map Prod.fst)
  | .operator, _ => some (operatorFields.map Prod.fst)
  | .term, fields => some ("type" :: (termFields (kindIn termTags .unknown fields)).map Prod.fst)
  | .item, fields =>
    some ("type" :: "fullRange" :: "full_range" ::
      (common ++ bodyFields (kindIn itemTags .unknown fields)).map Prod.fst)
  | .tree, _ => some (rootFields.map Prod.fst)
  | _, _ => none

/-- One value becomes another when a key that is no name of a field is written into one object of a
node or a span, anywhere among the keys that are there. -/
def KeyAdded (v w : Value) : Prop :=
  ∃ address path levels rule before after names key x,
    Leads (.root v) address path ⟨levels, rule, some (.object (before ++ after))⟩ ∧
    fieldNames? rule (before ++ after) = some names ∧ key ∉ names ∧
    w = Value.replaceAt (.object (before ++ (key, x) :: after)) path v

/-- A key more is seen under no other name. -/
theorem get?_insert (before after : Fields) {key : String} (x : Value) (other : key ≠ name) :
    Ledger.get? (before ++ after) name = Ledger.get? (before ++ (key, x) :: after) name := by
  rw [Ledger.get?_append, Ledger.get?_append, Ledger.get?_cons, if_neg other]

/-- An object with a key more that is no name of a field is like it was. -/
theorem alike_insert {before after : Fields} {names : List String} {key : String} (x : Value)
    (named : fieldNames? rule (before ++ after) = some names) (other : key ∉ names) :
    Alike rule (.object (before ++ after)) (.object (before ++ (key, x) :: after)) := by
  have same (name : String) (inside : name ∈ names) :
      Ledger.get? (before ++ after) name = Ledger.get? (before ++ (key, x) :: after) name :=
    get?_insert before after x fun equal => other (equal ▸ inside)
  have within (table : List (String × Rule)) (inside : table.map Prod.fst ⊆ names) :
      AlikeIn table (before ++ after) (before ++ (key, x) :: after) :=
    alikeIn_of_get? fun entry among => same entry.1 (inside (List.mem_map_of_mem among))
  unfold fieldNames? at named
  split at named <;> cases named
  · have alike := within _ (List.Subset.refl _)
    exact .point _ _ alike.names alike.alike
  · have alike := within _ (List.Subset.refl _)
    exact .span _ _ alike.names alike.alike
  · have alike := within _ (List.Subset.refl _)
    exact .operator _ _ alike.names alike.alike
  · have alike := within _ (List.subset_cons_self _ _)
    exact .node _ _ (same "type" (by simp)) alike.names alike.alike
  · have span : spanName (before ++ after) = spanName (before ++ (key, x) :: after) := by
      rw [spanName, spanName, Ledger.has, Ledger.has, same "fullRange" (by simp)]
    have alike := within (itemFields (spanName (before ++ after))
      (kindIn itemTags .unknown (before ++ after))) (by
        simp only [itemFields, List.map_append, List.map_cons]
        rw [spanName]
        intro name
        split <;> simp <;> tauto)
    exact .item _ _ (same "type" (by simp)) span alike.names alike.alike
  · have alike := within _ (List.Subset.refl _)
    exact .tree _ _ alike.names alike.alike

end Grammar

/-- Keys that are no names of fields, added to any nodes of a value one after another, leave the
tree that it describes. -/
theorem Tree.ofValue_of_keysAdded {v w : Value} {tree : Tree} (decoded : ofValue v = .ok tree)
    (added : Relation.ReflTransGen Grammar.KeyAdded v w) : ofValue w = .ok tree := by
  induction added with
  | refl => exact decoded
  | @tail v w _ once ih =>
    obtain ⟨address, path, levels, rule, before, after, names, key, x, leads, named, other, rfl⟩ :=
      once
    exact ofValue_of_alike (leads.alike rfl rfl (Grammar.alike_insert x named other)) ih

end PredicateIndex
