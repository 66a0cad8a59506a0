import PredicateIndex.Index.Build
import PredicateIndex.Proofs.Tree.Exchange

/-!
# Trees with parts of an unknown kind

An analyzer may learn new keys, new kinds of term and new kinds of item. A key that a node does not
have is not seen. A term of an unknown kind stands in the tree where it stood in the value, and
everything around it is as it was. An item of an unknown kind is an item of the tree that says
nothing to the index.

Main result: a value that describes a tree still describes it when keys are added; with one term
exchanged for one of an unknown kind it describes the tree with exactly this term exchanged; and
with one item exchanged for one of an unknown kind the index is that of the tree without the item.
-/
namespace PredicateIndex

namespace Decode

open Grammar

variable {α : Type} {levels : Nat} {fields : Fields} {name : String} {decode : Value → Decoded α}

/-! ## Terms and items of an unknown kind -/

/-- The object of a node of an unknown kind: its tag is a text that is not known, and certain fields
are absent. -/
structure Unknown (known absent : List String) (fields : Fields) (tag : String) : Prop where
  /-- The tag. -/
  tagged : fields.get? "type" = some (.text tag)
  /-- The tag is not known. -/
  unknown : tag ∉ known
  /-- Of these fields there is none. -/
  bare : ∀ name ∈ absent, fields.get? name = none

variable {known absent : List String} {tag : String}

/-- The kind of an object whose tag is not in the table is unknown. -/
theorem Unknown.kindIn_eq {Kind : Type} {tags : List (String × Kind)} {other : Kind}
    (unknown : Unknown (tags.map Prod.fst) absent fields tag) :
    kindIn tags other fields = other := by
  have missing : tags.lookup tag = none :=
    List.lookup_eq_none_iff.mpr fun entry among => by
      simpa using fun same : tag = entry.1 => unknown.unknown (same ▸ List.mem_map_of_mem among)
  simp only [kindIn, unknown.tagged, missing, Option.getD_none]

/-- The tag of an object of an unknown kind is kept. -/
theorem Unknown.unknownTag_eq (unknown : Unknown known absent fields tag) :
    unknownTag fields = .ok tag :=
  field_of_get? unknown.tagged rfl

/-- A field that is absent has its default. -/
theorem field_of_absent {default : α} (missing : fields.get? name = none) :
    field fields name default decode = .ok default := by
  rw [field, missing]

/-- An object without the fields of every node has no position and no payload. -/
theorem Unknown.mark_eq (unknown : Unknown known absent fields tag) (bare : commonNames ⊆ absent) :
    mark fields = .ok {} := by
  have missing (name : String) (inside : name ∈ commonNames) : fields.get? name = none :=
    unknown.bare name (bare inside)
  rw [mark, field_of_absent (missing "line" (by decide)),
    field_of_absent (missing "column" (by decide)), field_of_absent (missing "raw" (by decide))]
  rfl

/-- An object with an unknown term tag is decoded as a term of this tag, wherever a level is
left. -/
theorem Unknown.term_eq (unknown : Unknown (termTags.map Prod.fst) commonNames fields tag)
    (left : 0 < levels) : term levels (.object fields) = .ok (.unknown {} tag) := by
  obtain ⟨levels, rfl⟩ := Nat.exists_eq_add_of_lt left
  rw [Nat.zero_add, term, termKind_eq_kindIn, unknown.kindIn_eq, termOfKind,
    unknown.mark_eq (List.Subset.refl _), ok_bind, unknown.unknownTag_eq]
  rfl

/-- An object with an unknown item tag is decoded as an item of this tag. -/
theorem Unknown.item_eq (unknown : Unknown (itemTags.map Prod.fst) itemNames fields tag) :
    item (.object fields) = .ok { body := .unknown tag } := by
  have spanless (name : String) (inside : name ∈ itemNames) :
      field fields name none (nullable span) = .ok none :=
    field_of_absent (unknown.bare name inside)
  have span : itemSpan fields = .ok none := by
    rw [itemSpan, spanless "fullRange" (by decide), spanless "full_range" (by decide), ite_self]
  rw [item, itemKind_eq_kindIn, unknown.kindIn_eq, itemBody,
    unknown.mark_eq (List.subset_append_left _ _), span, unknown.unknownTag_eq]
  rfl

/-- No term is decoded without a level. -/
theorem levels_pos {v : Value} {t : Term} (decoded : term levels v = .ok t) : 0 < levels := by
  cases levels with
  | zero => exact absurd (under_eq_ok.mp decoded) fail_ne_ok
  | succ levels => exact Nat.succ_pos levels

end Decode

namespace Tree

open Grammar Decode

variable {tag : String} {new : Fields}

/-- An item from which nothing is taken may as well be absent. -/
theorem filterMap_set_of_none {α β : Type} {take : α → Option β} {a : α} (nothing : take a = none)
    (list : List α) (n : Nat) :
    (list.set n a).filterMap take = (list.eraseIdx n).filterMap take := by
  induction list generalizing n with
  | nil => rfl
  | cons first rest ih =>
    cases n with
    | zero => simp [nothing]
    | succ n => simp [List.filterMap_cons, ih]

/-- An item of an unknown kind says nothing to the index. -/
theorem index_set_unknown (tree : Tree) (n : Nat) (tag : String) (filePath : Option String) :
    index { tree with items := tree.items.set n { body := .unknown tag } } filePath =
      index { tree with items := tree.items.eraseIdx n } filePath := by
  have clauses : clauses { tree with items := tree.items.set n { body := .unknown tag } } =
      clauses { tree with items := tree.items.eraseIdx n } := filterMap_set_of_none rfl tree.items n
  have diagnostics : (tree.items.set n { body := .unknown tag }).filterMap Item.diagnostic? =
      (tree.items.eraseIdx n).filterMap Item.diagnostic? := filterMap_set_of_none rfl tree.items n
  simp only [index, clauses, diagnostics]

/-- Every item of a tree was decoded from an element of the list of items. -/
theorem exists_element {d : Value} {tree : Tree} {n : Nat} (decoded : ofValue d = .ok tree)
    (inside : n < tree.items.length) :
    ∃ fields items v, d = .object fields ∧
      Ledger.get? fields "predicates" = some (.list items) ∧ items[n]? = some v := by
  obtain ⟨fields, rfl, rooted, read⟩ := ofValue_eq_ok.mp decoded
  simp only [Decode.tree, bind_eq_ok, pure_eq_ok] at read
  obtain ⟨file, fileRead, list, listRead, rfl⟩ := read
  rcases field_eq_ok listRead with rfl | ⟨v, present, read⟩
  · cases inside
  · cases v with
    | list items =>
      have bound : n < items.length := length_of_elements read ▸ inside
      exact ⟨fields, items, _, rfl, present, List.getElem?_eq_getElem bound⟩
    | _ => exact absurd read fail_ne_ok

/-- With an item of an unknown kind in the place of another one, a value describes the tree with this
item exchanged. -/
theorem ofValue_unknown_item {d : Value} {tree : Tree} {n : Nat} (decoded : ofValue d = .ok tree)
    (inside : n < tree.items.length)
    (unknown : Unknown (itemTags.map Prod.fst) itemNames new tag) :
    ofValue (Value.replaceAt (.object new) [.key "predicates", .index n] d) =
      .ok { tree with items := tree.items.set n { body := .unknown tag } } := by
  obtain ⟨fields, items, v, rfl, present, element⟩ := exists_element decoded inside
  obtain ⟨-, -, -, swap⟩ := ofValue_set decoded present element
  rw [Value.replaceAt_key present, Value.replaceAt_index element, Value.replaceAt]
  exact swap _ _ unknown.item_eq

/-- What a later analyzer may add does no harm. Keys that are no names of fields, added to any
nodes, leave the tree as it is. A term of an unknown kind in the place of any term gives the tree
with exactly this term exchanged. An item of an unknown kind in the place of any item gives a tree
that is indexed like the one without the item. -/
theorem forward_compatible {d : Value} {tree : Tree} (decoded : ofValue d = .ok tree) :
    (∀ d', Relation.ReflTransGen KeyAdded d d' → ofValue d' = .ok tree) ∧
    (∀ address path levels x new tag, Leads (.root d) address path ⟨levels, .term, some x⟩ →
      Unknown (termTags.map Prod.fst) commonNames new tag →
      ∃ old tree', term levels x = .ok old ∧
        ofValue (Value.replaceAt (.object new) path d) = .ok tree' ∧
        Tree.Exchanged old (.unknown {} tag) path tree tree') ∧
    ∀ n new tag, n < tree.items.length → Unknown (itemTags.map Prod.fst) itemNames new tag →
      ∃ tree', ofValue (Value.replaceAt (.object new) [.key "predicates", .index n] d) = .ok tree' ∧
        ∀ filePath, tree'.index filePath =
          index { tree with items := tree.items.eraseIdx n } filePath := by
  refine ⟨fun d' added => ofValue_of_keysAdded decoded added, ?_, ?_⟩
  · intro address path levels x new tag leads unknown
    obtain ⟨old, oldRead, exchange⟩ := ofValue_exchanged decoded leads
    obtain ⟨tree', read, exchanged⟩ := exchange _ _ rfl (unknown.term_eq (levels_pos oldRead))
    exact ⟨old, tree', oldRead, read, exchanged⟩
  · intro n new tag inside unknown
    exact ⟨_, ofValue_unknown_item decoded inside unknown, index_set_unknown tree n tag⟩

/-- A call in the body of a rule, with a null among its parameters. -/
def goalCall : Fields :=
  [("type", .text "functor"), ("name", .text "q"), ("params", .list [.text "X", .null])]

/-- A rule and a fact. -/
def twoClauses : Value :=
  .object [("predicates", .list [
    .object [("type", .text "rule"),
      ("head", .object [("type", .text "atom"), ("text", .text "p")]),
      ("body", .list [.object goalCall])],
    .object [("type", .text "fact"),
      ("head", .object [("type", .text "atom"), ("text", .text "r")])]])]

/-- The path to the call. -/
def callPath : Path :=
  [.key "predicates", .index 0, .kind "rule", .key "body", .index 0, .kind "functor"]

/-- The path to the null. -/
def nullPath : Path := callPath ++ [.key "params", .index 1, .kind "unknown"]

/-- The call is a term of the rule. -/
theorem leads_to_call :
    Leads (.root twoClauses) [1, 0, 5, 0] callPath ⟨254, .term, some (.object goalCall)⟩ :=
  .further (.field rfl rfl rfl rfl) <| .further (.element rfl) <|
    .further (.field rfl rfl rfl rfl) <| .further (.element rfl) (.here _)

/-- The null is a term of the call, since no place in a list is optional. -/
theorem leads_to_null :
    Leads (.root twoClauses) [1, 0, 5, 0, 5, 1] nullPath ⟨253, .term, some .null⟩ :=
  .further (.field rfl rfl rfl rfl) <| .further (.element rfl) <|
    .further (.field rfl rfl rfl rfl) <| .further (.element rfl) <|
    .further (.field rfl rfl rfl rfl) <| .further (.element rfl) (.here _)

/-- A note in the call changes nothing, a lambda in the place of the null is the second parameter of
the call, and a lambda in the place of the fact is not indexed. -/
theorem forward_compatible_two_clauses : ∃ tree, ofValue twoClauses = .ok tree ∧
    ofValue (Value.replaceAt (.object (goalCall ++ [("note", .int 1)])) callPath twoClauses) =
      .ok tree ∧
    (∃ tree', ofValue (Value.replaceAt (.object [("type", .text "lambda")]) nullPath twoClauses) =
        .ok tree' ∧
      Tree.Exchanged (.unknown {} "unknown") (.unknown {} "lambda") nullPath tree tree') ∧
    ∃ tree', ofValue (Value.replaceAt (.object [("type", .text "lambda")])
        [.key "predicates", .index 1] twoClauses) = .ok tree' ∧
      ∀ filePath, tree'.index filePath =
        index { tree with items := tree.items.eraseIdx 1 } filePath := by
  have decoded : ofValue twoClauses = .ok _ := rfl
  have added : KeyAdded twoClauses _ :=
    ⟨_, _, _, _, goalCall, [], _, "note", .int 1, leads_to_call, rfl, by decide, rfl⟩
  obtain ⟨keys, terms, items⟩ := forward_compatible decoded
  obtain ⟨old, tree', oldRead, read, exchanged⟩ :=
    terms _ _ _ _ [("type", .text "lambda")] "lambda" leads_to_null ⟨rfl, by decide, by decide⟩
  obtain rfl := Except.ok.inj oldRead
  exact ⟨_, decoded, keys _ (.single added), ⟨tree', read, exchanged⟩,
    items 1 [("type", .text "lambda")] "lambda" (by decide) ⟨rfl, by decide, by decide⟩⟩

end Tree

end PredicateIndex
