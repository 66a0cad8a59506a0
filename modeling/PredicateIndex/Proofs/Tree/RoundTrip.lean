import PredicateIndex.Proofs.Tree.Decoder
import PredicateIndex.Tree.Dump

/-!
# Decoding what was written

Writing a decoded tree and decoding the result gives the tree back. Not every tree is decoded from
its written form: a term of an unknown kind whose tag is that of a known kind would be read as the
known kind, and a term below the last level is refused. `Tree.Fits` says that a tree has neither;
decoding gives only such trees, and each of them is decoded from its written form.
-/
namespace PredicateIndex

/-- Whether a term and the terms below it take no more than the given levels, and every term of an
unknown kind has a tag of its own. -/
def Term.Fits : Nat → Term → Prop
  | 0, _ => False
  | levels + 1, .compound _ _ _ params => ∀ t ∈ params, Term.Fits levels t
  | levels + 1, .operation _ symbol left right =>
    (symbol.isSome → 0 < levels) ∧ (∀ t ∈ left, Term.Fits levels t) ∧
      ∀ t ∈ right, Term.Fits levels t
  | levels + 1, .list _ items head tail =>
    (∀ t ∈ items, Term.Fits levels t) ∧ (∀ t ∈ head, Term.Fits levels t) ∧
      ∀ t ∈ tail, Term.Fits levels t
  | levels + 1, .group _ content => ∀ t ∈ content, Term.Fits levels t
  | levels + 1, .param _ value => ∀ t ∈ value, Term.Fits levels t
  | _ + 1, .unknown _ tag => TermKind.ofTag tag = .unknown
  | _ + 1, _ => True

/-- Whether the terms of an item fit below it, and an item of an unknown kind has a tag of its
own. -/
def ItemBody.Fits : ItemBody → Prop
  | .rule head body =>
    (∀ t ∈ head, t.Fits Decode.termLevels) ∧ ∀ t ∈ body, t.Fits Decode.termLevels
  | .fact head => ∀ t ∈ head, t.Fits Decode.termLevels
  | .directive goals => ∀ t ∈ goals, t.Fits Decode.termLevels
  | .parseError _ => True
  | .unknown tag => ItemKind.ofTag tag = .unknown

/-- Whether every item of a tree fits. -/
def Tree.Fits (tree : Tree) : Prop := ∀ item ∈ tree.items, item.body.Fits

namespace Decode

/-! ## Decoded trees fit -/

/-- The tag of a node whose kind is unknown is the tag of no known kind. -/
theorem ofTag_unknownTag {Kind : Type} (ofTag : String → Kind) {unknown : Kind} {fields : Fields}
    {tag : String} (default : ofTag "unknown" = unknown)
    (kind : ∀ s, fields.get? "type" = some (.text s) → ofTag s = unknown)
    (decoded : unknownTag fields = .ok tag) : ofTag tag = unknown := by
  rcases field_eq_ok decoded with rfl | ⟨v, found, read⟩
  · exact default
  · cases v with
    | text s =>
      obtain rfl := Except.ok.inj read
      exact kind s found
    | _ => exact absurd read fail_ne_ok

/-- The operator of an operation takes a level. -/
theorem levels_pos_of_operatorAt {levels : Nat} {v : Value} {symbol : Operator}
    (decoded : operatorAt levels v = .ok symbol) : 0 < levels := by
  cases levels with
  | zero => exact absurd decoded fail_ne_ok
  | succ levels => exact Nat.succ_pos levels

/-- A term of a given kind fits if the terms below it do. -/
theorem termOfKind_fits {levels : Nat} {deeper : Value → Decoded Term} {kind : TermKind}
    {fields : Fields} {t : Term} (chosen : termKind fields = kind)
    (below : ∀ v u, deeper v = .ok u → u.Fits levels)
    (decoded : termOfKind levels deeper kind fields = .ok t) : t.Fits (levels + 1) := by
  have inList : ∀ {name list}, field fields name [] (tuple deeper) = .ok list →
      ∀ u ∈ list, u.Fits levels := fun read u inside =>
    (decoded_of_mem_field_tuple read inside).elim fun v element => below v u element
  have inPlace : ∀ {name found}, field fields name none (nullable deeper) = .ok found →
      ∀ u ∈ found, u.Fits levels := fun read u inside =>
    (decoded_of_mem_field_nullable read inside).elim fun v element => below v u element
  simp only [termOfKind, bind_eq_ok] at decoded
  obtain ⟨mark, -, decoded⟩ := decoded
  cases kind with
  | atom | number | operator =>
    simp only [bind_eq_ok, pure_eq_ok] at decoded
    obtain ⟨own, -, rfl⟩ := decoded
    trivial
  | var =>
    simp only [bind_eq_ok, pure_eq_ok] at decoded
    obtain ⟨tag, -, name, -, rfl⟩ := decoded
    trivial
  | cut =>
    obtain rfl := pure_eq_ok.mp decoded
    trivial
  | compound =>
    simp only [bind_eq_ok, pure_eq_ok] at decoded
    obtain ⟨name, -, arity, -, params, paramsRead, rfl⟩ := decoded
    exact inList paramsRead
  | operation =>
    simp only [bind_eq_ok, pure_eq_ok] at decoded
    obtain ⟨symbol, symbolRead, left, leftRead, right, rightRead, rfl⟩ := decoded
    refine ⟨fun present => ?_, inPlace leftRead, inPlace rightRead⟩
    obtain ⟨operator, rfl⟩ := Option.isSome_iff_exists.mp present
    obtain ⟨v, operatorRead⟩ := decoded_of_mem_field_nullable symbolRead (Option.mem_some_self _)
    exact levels_pos_of_operatorAt operatorRead
  | list =>
    simp only [bind_eq_ok, pure_eq_ok] at decoded
    obtain ⟨items, itemsRead, head, headRead, tail, tailRead, rfl⟩ := decoded
    exact ⟨inList itemsRead, inPlace headRead, inPlace tailRead⟩
  | group =>
    simp only [bind_eq_ok, pure_eq_ok] at decoded
    obtain ⟨content, contentRead, rfl⟩ := decoded
    exact inList contentRead
  | param =>
    simp only [bind_eq_ok, pure_eq_ok] at decoded
    obtain ⟨value, valueRead, rfl⟩ := decoded
    exact inPlace valueRead
  | unknown =>
    simp only [bind_eq_ok, pure_eq_ok] at decoded
    obtain ⟨tag, tagRead, rfl⟩ := decoded
    refine ofTag_unknownTag TermKind.ofTag (by decide) (fun s found => ?_) tagRead
    simpa only [termKind, found] using chosen

/-- A decoded term fits the levels it was given. -/
theorem term_fits {levels : Nat} {v : Value} {t : Term} (decoded : term levels v = .ok t) :
    t.Fits levels := by
  induction levels generalizing v t with
  | zero => exact absurd (under_eq_ok.mp decoded) fail_ne_ok
  | succ levels ih =>
    cases v with
    | object fields =>
      exact termOfKind_fits rfl (fun v u below => ih below) (under_eq_ok.mp decoded)
    | _ =>
      -- A bare value becomes a term of an unknown kind with the tag of unknown terms.
      obtain rfl := Except.ok.inj decoded
      exact (by decide : TermKind.ofTag "unknown" = .unknown)

/-- A decoded item body fits. -/
theorem itemBody_fits {kind : ItemKind} {fields : Fields} {body : ItemBody}
    (chosen : itemKind fields = kind) (decoded : itemBody kind fields = .ok body) : body.Fits := by
  have inList : ∀ {name list}, field fields name [] (tuple topTerm) = .ok list →
      ∀ u ∈ list, u.Fits termLevels := fun read u inside =>
    (decoded_of_mem_field_tuple read inside).elim fun v element => term_fits element
  have inPlace : ∀ {name found}, field fields name none (nullable topTerm) = .ok found →
      ∀ u ∈ found, u.Fits termLevels := fun read u inside =>
    (decoded_of_mem_field_nullable read inside).elim fun v element => term_fits element
  cases kind with
  | rule =>
    simp only [itemBody, bind_eq_ok, pure_eq_ok] at decoded
    obtain ⟨head, headRead, body, bodyRead, rfl⟩ := decoded
    exact ⟨inPlace headRead, inList bodyRead⟩
  | fact =>
    simp only [itemBody, bind_eq_ok, pure_eq_ok] at decoded
    obtain ⟨head, headRead, rfl⟩ := decoded
    exact inPlace headRead
  | directive =>
    simp only [itemBody, bind_eq_ok, pure_eq_ok] at decoded
    obtain ⟨goals, goalsRead, rfl⟩ := decoded
    exact inList goalsRead
  | parseError =>
    simp only [itemBody, bind_eq_ok, pure_eq_ok] at decoded
    obtain ⟨kind, -, rfl⟩ := decoded
    trivial
  | unknown =>
    simp only [itemBody, bind_eq_ok, pure_eq_ok] at decoded
    obtain ⟨tag, tagRead, rfl⟩ := decoded
    refine ofTag_unknownTag ItemKind.ofTag (by decide) (fun s found => ?_) tagRead
    simpa only [itemKind, found] using chosen

/-- The body of a decoded item fits. -/
theorem item_fits {v : Value} {decodedItem : Item} (decoded : item v = .ok decodedItem) :
    decodedItem.body.Fits := by
  cases v with
  | object fields =>
    simp only [item, under_eq_ok, bind_eq_ok, pure_eq_ok] at decoded
    obtain ⟨mark, -, span, -, body, bodyRead, rfl⟩ := decoded
    exact itemBody_fits rfl bodyRead
  | _ => simp [item, under, fail] at decoded

/-- A decoded tree fits. -/
theorem tree_fits {fields : Fields} {decodedTree : Tree} (decoded : tree fields = .ok decodedTree) :
    decodedTree.Fits := by
  simp only [tree, bind_eq_ok, pure_eq_ok] at decoded
  obtain ⟨file, -, items, itemsRead, rfl⟩ := decoded
  intro one inside
  obtain ⟨v, element⟩ := decoded_of_mem_field_tuple itemsRead inside
  exact item_fits element

/-! ## Trees that fit are decoded from their written form -/

/-- The texts of a list are read back. -/
theorem texts?_map (lines : List String) : texts? (lines.map .text) = some lines := by
  induction lines with
  | nil => rfl
  | cons line rest ih => simp [texts?, ih]

/-- A payload is read back. -/
theorem payload_toValue (written : Payload) : payload written.toValue = .ok written := by
  cases written with
  | text s => rfl
  | lines items => simp [payload, Payload.toValue, texts?_map]

/-- An integer that may be absent is read back. -/
theorem nullable_integer_ofInt? (n : Option Int) : nullable integer (.ofInt? n) = .ok n := by
  cases n <;> rfl

/-- A number is read back. -/
theorem number_toValue (n : Number) : number n.toValue = .ok n := by
  cases n <;> rfl

/-- The common fields of a node are read back, whatever follows them. -/
theorem mark_toFields (written : Mark) (rest : Fields) :
    mark (written.toFields ++ rest) = .ok written := by
  obtain ⟨line, column, raw⟩ := written
  have lineRead : field (Mark.toFields ⟨line, column, raw⟩ ++ rest) "line" none (nullable integer) =
      .ok line := field_of_get? rfl (nullable_integer_ofInt? line)
  have columnRead : field (Mark.toFields ⟨line, column, raw⟩ ++ rest) "column" none
      (nullable integer) = .ok column :=
    field_of_get? (by simp [Mark.toFields, Ledger.get?_cons]) (nullable_integer_ofInt? column)
  have rawRead : field (Mark.toFields ⟨line, column, raw⟩ ++ rest) "raw" none (nullable payload) =
      .ok raw := by
    cases raw with
    | none => exact field_of_get? (v := .null) (by simp [Mark.toFields, Ledger.get?_cons]) rfl
    | some written =>
      refine field_of_get? (by simp [Mark.toFields, Ledger.get?_cons])
        (nullable_of_present ?_ (payload_toValue written))
      cases written <;> rfl
  simp only [mark, lineRead, columnRead, rawRead, ok_bind]
  rfl

/-- A key that is none of the common ones is looked for after them. -/
theorem get?_toFields_append (written : Mark) (rest : Fields) {key : String}
    (own : key ∉ ["line", "column", "raw"]) :
    Ledger.get? (written.toFields ++ rest) key = Ledger.get? rest key := by
  simp only [List.mem_cons, List.not_mem_nil, or_false, not_or] at own
  simp [Mark.toFields, Ledger.get?_cons, Ne.symm own.1, Ne.symm own.2.1, Ne.symm own.2.2]

/-- The tag of a node is read from its object. -/
theorem get?_type (written : Mark) (tag : String) (own : Fields) :
    Ledger.get? (written.toFields ++ ("type", .text tag) :: own) "type" = some (.text tag) := by
  rw [get?_toFields_append _ _ (by decide), Ledger.get?_cons, if_pos rfl]

/-- The kind of a node is that of its tag. -/
theorem termKind_node (written : Mark) (tag : String) (own : Fields) :
    termKind (written.toFields ++ ("type", .text tag) :: own) = .ofTag tag := by
  rw [termKind, get?_type]

/-- A field of a kind's own is read from the fields after the tag. -/
theorem field_own {α : Type} {written : Mark} {tag : String} {own : Fields} {name : String}
    {default a : α} {decode : Value → Decoded α} {v : Value}
    (place : name ∉ ["line", "column", "raw", "type"]) (found : Ledger.get? own name = some v)
    (decoded : decode v = .ok a) :
    field (written.toFields ++ ("type", .text tag) :: own) name default decode = .ok a := by
  simp only [List.mem_cons, List.not_mem_nil, or_false, not_or] at place
  refine field_of_get? ?_ decoded
  rw [get?_toFields_append _ _ (by simp [place]), Ledger.get?_cons,
    if_neg (Ne.symm place.2.2.2)]
  exact found

/-- The values of terms are their values one by one. -/
theorem toValues_eq_map (terms : List Term) : Term.toValues terms = terms.map Term.toValue := by
  induction terms with
  | nil => rfl
  | cons t rest ih => simp [Term.toValues, ih]

/-- Terms are read back from their values if each of them is. -/
theorem tuple_toValues {decode : Value → Decoded Term} {terms : List Term}
    (each : ∀ t ∈ terms, decode t.toValue = .ok t) :
    tuple decode (.list (Term.toValues terms)) = .ok terms := by
  rw [toValues_eq_map]
  exact elements_map 0 terms each

/-- A term that may be absent is read back if it is when present. -/
theorem nullable_toValue? {decode : Value → Decoded Term} {found : Option Term}
    (each : ∀ t ∈ found, decode t.toValue = .ok t) :
    nullable decode (Term.toValue? found) = .ok found := by
  cases found with
  | none => rfl
  | some t =>
    refine nullable_of_present ?_ (each t (Option.mem_some_self t))
    cases t <;> rfl

/-- An operator symbol is read back from its object. -/
theorem operatorAt_toValue {levels : Nat} (room : 0 < levels) (symbol : Operator) :
    operatorAt levels symbol.toValue = .ok symbol := by
  obtain ⟨below, rfl⟩ := Nat.exists_eq_succ_of_ne_zero (Nat.ne_of_gt room)
  obtain ⟨written, text⟩ := symbol
  have tagRead : field (written.toFields ++ [("type", .text "operator"), ("op", .text text)]) "type"
      () operatorTag = .ok () := field_of_get? (get?_type _ _ _) (by decide)
  have textRead : field (written.toFields ++ [("type", .text "operator"), ("op", .text text)]) "op"
      "" Decode.text = .ok text := field_own (by decide) rfl rfl
  simp only [operatorAt, Operator.toValue, operatorFields, mark_toFields, ok_bind, tagRead,
    textRead]
  rfl

/-- The operator of an operation is read back if there is a level for it. -/
theorem nullable_operatorAt {levels : Nat} (symbol : Option Operator) :
    (symbol.isSome → 0 < levels) → nullable (operatorAt levels) (match symbol with
      | some symbol => symbol.toValue
      | none => .null) = .ok symbol := by
  intro room
  cases symbol with
  | none => rfl
  | some operator => exact nullable_of_present rfl (operatorAt_toValue (room rfl) operator)

/-- A node is decoded as a term of the kind that its tag names. -/
theorem term_node (kind : TermKind) {levels : Nat} {written : Mark} {tag : String} {own : Fields}
    {t : Term} (named : TermKind.ofTag tag = kind)
    (decoded : termOfKind levels (term levels) kind
      (written.toFields ++ ("type", .text tag) :: own) = .ok t) :
    term (levels + 1) (Term.node written tag own) = .ok t := by
  rw [Term.node, term, termKind_node, named]
  exact under_eq_ok.mpr decoded

/-- A term that fits is decoded from its value. -/
theorem term_toValue {levels : Nat} {t : Term} (fits : t.Fits levels) :
    term levels t.toValue = .ok t := by
  induction levels generalizing t with
  | zero => exact fits.elim
  | succ levels ih =>
    cases t with
    | atom written text =>
      refine term_node .atom (by decide) ?_
      simp only [termOfKind, bind_eq_ok, pure_eq_ok]
      exact ⟨written, mark_toFields _ _, text, field_own (by decide) rfl rfl, rfl⟩
    | var written unnamed name =>
      refine term_node .var (by cases unnamed <;> decide) ?_
      simp only [termOfKind, bind_eq_ok, pure_eq_ok]
      refine ⟨written, mark_toFields _ _, _, field_of_get? (get?_type _ _ _) rfl, name,
        field_own (by decide) rfl rfl, ?_⟩
      cases unnamed <;> rfl
    | number written value =>
      refine term_node .number (by decide) ?_
      simp only [termOfKind, bind_eq_ok, pure_eq_ok]
      exact ⟨written, mark_toFields _ _, value,
        field_own (by decide) rfl (number_toValue value), rfl⟩
    | operator symbol =>
      refine term_node .operator (by decide) ?_
      simp only [termOfKind, bind_eq_ok, pure_eq_ok]
      exact ⟨symbol.mark, mark_toFields _ _, symbol.symbol, field_own (by decide) rfl rfl, rfl⟩
    | compound written name arity params =>
      refine term_node .compound (by decide) ?_
      simp only [termOfKind, bind_eq_ok, pure_eq_ok]
      exact ⟨written, mark_toFields _ _, name, field_own (by decide) rfl rfl,
        arity, field_own (by decide) rfl (nullable_integer_ofInt? arity),
        params, field_own (by decide) rfl (tuple_toValues fun u inside => ih (fits u inside)), rfl⟩
    | operation written symbol left right =>
      obtain ⟨room, leftFits, rightFits⟩ := fits
      refine term_node .operation (by decide) ?_
      simp only [termOfKind, bind_eq_ok, pure_eq_ok]
      exact ⟨written, mark_toFields _ _,
        symbol, field_own (by decide) rfl (nullable_operatorAt symbol room),
        left, field_own (by decide) rfl (nullable_toValue? fun u inside => ih (leftFits u inside)),
        right,
        field_own (by decide) rfl (nullable_toValue? fun u inside => ih (rightFits u inside)),
        rfl⟩
    | list written items head tail =>
      obtain ⟨itemsFit, headFits, tailFits⟩ := fits
      refine term_node .list (by decide) ?_
      simp only [termOfKind, bind_eq_ok, pure_eq_ok]
      exact ⟨written, mark_toFields _ _,
        items, field_own (by decide) rfl (tuple_toValues fun u inside => ih (itemsFit u inside)),
        head, field_own (by decide) rfl (nullable_toValue? fun u inside => ih (headFits u inside)),
        tail, field_own (by decide) rfl (nullable_toValue? fun u inside => ih (tailFits u inside)),
        rfl⟩
    | group written content =>
      refine term_node .group (by decide) ?_
      simp only [termOfKind, bind_eq_ok, pure_eq_ok]
      exact ⟨written, mark_toFields _ _, content,
        field_own (by decide) rfl (tuple_toValues fun u inside => ih (fits u inside)), rfl⟩
    | cut written =>
      refine term_node .cut (by decide) ?_
      simp only [termOfKind, bind_eq_ok, pure_eq_ok]
      exact ⟨written, mark_toFields _ _, rfl⟩
    | param written value =>
      refine term_node .param (by decide) ?_
      simp only [termOfKind, bind_eq_ok, pure_eq_ok]
      exact ⟨written, mark_toFields _ _, value,
        field_own (by decide) rfl (nullable_toValue? fun u inside => ih (fits u inside)), rfl⟩
    | unknown written tag =>
      refine term_node .unknown fits ?_
      simp only [termOfKind, bind_eq_ok, pure_eq_ok]
      exact ⟨written, mark_toFields _ _, tag, field_of_get? (get?_type _ _ _) rfl, rfl⟩

/-- A span is read back. -/
theorem span_toValue (written : Span) : span written.toValue = .ok written := by
  obtain ⟨⟨startLine, startColumn⟩, ⟨stopLine, stopColumn⟩⟩ := written
  rfl

/-- A key that is none of those every item has is looked for in the fields of its kind. -/
theorem get?_item_own {written : Item} {key : String}
    (own : key ∉ ["line", "column", "raw", "fullRange", "type"]) :
    Ledger.get? written.toValue.fields key = Ledger.get? written.body.toFields key := by
  simp only [List.mem_cons, List.not_mem_nil, or_false, not_or] at own
  rw [Item.toValue, Value.fields, get?_toFields_append _ _ (by simp [own]), Ledger.get?_cons,
    if_neg (Ne.symm own.2.2.2.1), Ledger.get?_cons, if_neg (Ne.symm own.2.2.2.2)]

/-- The tag of an item is read from its object. -/
theorem get?_item_type (written : Item) :
    Ledger.get? written.toValue.fields "type" = some (.text written.body.tag) := by
  rw [Item.toValue, Value.fields, get?_toFields_append _ _ (by decide), Ledger.get?_cons,
    if_neg (show ¬"fullRange" = "type" by decide), Ledger.get?_cons, if_pos rfl]

/-- The span of an item is read back. -/
theorem itemSpan_toValue (written : Item) :
    itemSpan written.toValue.fields = .ok written.span := by
  obtain ⟨v, found, decoded⟩ : ∃ v, Ledger.get? written.toValue.fields "fullRange" = some v ∧
      nullable span v = .ok written.span := by
    rw [Item.toValue, Value.fields, get?_toFields_append _ _ (by decide)]
    cases written.span with
    | none => exact ⟨.null, rfl, rfl⟩
    | some span => exact ⟨span.toValue, rfl, nullable_of_present rfl (span_toValue span)⟩
  rw [itemSpan, if_pos (by simp [Ledger.has, found])]
  exact field_of_get? found decoded

/-- A field of a kind's own is read from the fields of an item. -/
theorem field_item_own {α : Type} {written : Item} {name : String} {default a : α}
    {decode : Value → Decoded α} {v : Value}
    (place : name ∉ ["line", "column", "raw", "fullRange", "type"])
    (found : Ledger.get? written.body.toFields name = some v) (decoded : decode v = .ok a) :
    field written.toValue.fields name default decode = .ok a :=
  field_of_get? ((get?_item_own place).trans found) decoded

/-- What an item says is read back if it fits. -/
theorem itemBody_toValue {written : Item} (fits : written.body.Fits) :
    itemBody (.ofTag written.body.tag) written.toValue.fields = .ok written.body := by
  obtain ⟨written, span, body⟩ := written
  cases body with
  | rule head goals =>
    change itemBody .rule _ = _
    simp only [itemBody, bind_eq_ok, pure_eq_ok]
    exact ⟨head, field_item_own (by decide) rfl
        (nullable_toValue? fun t inside => term_toValue (fits.1 t inside)),
      goals, field_item_own (by decide) rfl
        (tuple_toValues fun t inside => term_toValue (fits.2 t inside)), rfl⟩
  | fact head =>
    change itemBody .fact _ = _
    simp only [itemBody, bind_eq_ok, pure_eq_ok]
    exact ⟨head, field_item_own (by decide) rfl
      (nullable_toValue? fun t inside => term_toValue (fits t inside)), rfl⟩
  | directive goals =>
    change itemBody .directive _ = _
    simp only [itemBody, bind_eq_ok, pure_eq_ok]
    exact ⟨goals, field_item_own (by decide) rfl
      (tuple_toValues fun t inside => term_toValue (fits t inside)), rfl⟩
  | parseError kind =>
    change itemBody .parseError _ = _
    simp only [itemBody, bind_eq_ok, pure_eq_ok]
    exact ⟨kind, field_item_own (by decide) rfl rfl, rfl⟩
  | unknown tag =>
    have kind : ItemKind.ofTag (ItemBody.unknown tag).tag = .unknown := fits
    rw [kind]
    simp only [itemBody, bind_eq_ok, pure_eq_ok]
    exact ⟨tag, field_of_get? (get?_item_type _) rfl, rfl⟩

/-- An item that fits is decoded from its value. -/
theorem item_toValue {written : Item} (fits : written.body.Fits) :
    item written.toValue = .ok written := by
  have kind : itemKind written.toValue.fields = .ofTag written.body.tag := by
    rw [itemKind, get?_item_type]
  have shape : written.toValue = .object written.toValue.fields := rfl
  rw [shape]
  simp only [item, under_eq_ok, bind_eq_ok, pure_eq_ok, kind]
  exact ⟨written.mark, mark_toFields _ _, written.span, itemSpan_toValue written,
    written.body, itemBody_toValue fits, rfl⟩

/-- A tree that fits is decoded from the fields of its root. -/
theorem tree_toValue {written : Tree} (fits : written.Fits) :
    tree written.toValue.fields = .ok written := by
  simp only [tree, bind_eq_ok, pure_eq_ok]
  exact ⟨written.file, field_of_get? rfl rfl, written.items,
    field_of_get? rfl
      (elements_map 0 written.items fun one inside => item_toValue (fits one inside)),
    rfl⟩

/-! ## Values that are decoded have no refused tag -/

/-- A field that is decoded as a list has no refused tag if its elements have none. -/
theorem badTagInList?_of_ok {α : Type} {look : Value → Option BadTag} {decode : Value → Decoded α}
    {fields : Fields} {name : String} {list : List α}
    (clean : ∀ v a, decode v = .ok a → look v = none)
    (decoded : field fields name [] (tuple decode) = .ok list) :
    badTagInList? look fields name = none := by
  rw [badTagInList?]
  cases found : fields.get? name with
  | none => rfl
  | some v =>
    rw [field, found] at decoded
    cases v with
    | list values =>
      refine List.findSome?_eq_none_iff.mpr fun w among => ?_
      obtain ⟨a, -, read⟩ := decoded_of_mem_elements (under_eq_ok.mp decoded) w among
      exact clean w a read
    | _ => rfl

/-- A place that is decoded has no refused tag if the value there has none. -/
theorem badTagAt?_of_ok {α : Type} {look : Value → Option BadTag} {decode : Value → Decoded α}
    {fields : Fields} {name : String} {place : Option α} (null : look .null = none)
    (clean : ∀ v a, decode v = .ok a → look v = none)
    (decoded : field fields name none (nullable decode) = .ok place) :
    badTagAt? look fields name = none := by
  rw [badTagAt?]
  cases found : fields.get? name with
  | none => rfl
  | some v =>
    rw [field, found] at decoded
    rcases nullable_eq_ok.mp (under_eq_ok.mp decoded) with ⟨rfl, -⟩ | ⟨-, a, read, -⟩
    · exact null
    · exact clean v a read

/-- A node has no refused tag if its tag is a text or is decoded as one. -/
theorem ownBadTag?_eq_none {fields : Fields}
    (decoded : (∀ s, fields.get? "type" ≠ some (.text s)) → ∃ tag, unknownTag fields = .ok tag) :
    ownBadTag? fields = none := by
  rw [ownBadTag?]
  cases found : fields.get? "type" with
  | none => rfl
  | some v =>
    cases v with
    | list values | object values =>
      obtain ⟨tag, read⟩ := decoded (by simp [found])
      rw [unknownTag, field, found] at read
      exact absurd (under_eq_ok.mp read) fail_ne_ok
    | _ => rfl

/-- An object without a tag that is a text describes a term of an unknown kind. -/
theorem termKind_untagged {fields : Fields} (untagged : ∀ s, fields.get? "type" ≠ some (.text s)) :
    termKind fields = .unknown := by
  rw [termKind]
  split
  · exact absurd ‹_› (untagged _)
  · rfl

/-- An object without a tag that is a text describes an item of an unknown kind. -/
theorem itemKind_untagged {fields : Fields} (untagged : ∀ s, fields.get? "type" ≠ some (.text s)) :
    itemKind fields = .unknown := by
  rw [itemKind]
  split
  · exact absurd ‹_› (untagged _)
  · rfl

/-- No refused tag is found in a value that is decoded as a term. -/
theorem termBadTag?_of_ok {levels : Nat} {v : Value} {t : Term} (decoded : term levels v = .ok t) :
    termBadTag? levels v = none := by
  induction levels generalizing v t with
  | zero => exact absurd (under_eq_ok.mp decoded) fail_ne_ok
  | succ levels ih =>
    cases v with
    | object fields =>
      have null : termBadTag? levels .null = none := by cases levels <;> rfl
      have inList : ∀ {name list}, field fields name [] (tuple (term levels)) = .ok list →
          badTagInList? (termBadTag? levels) fields name = none :=
        badTagInList?_of_ok fun w a => ih
      have inPlace : ∀ {name place}, field fields name none (nullable (term levels)) = .ok place →
          badTagAt? (termBadTag? levels) fields name = none :=
        badTagAt?_of_ok null fun w a => ih
      replace decoded := under_eq_ok.mp decoded
      have own : ownBadTag? fields = none := by
        refine ownBadTag?_eq_none fun untagged => ?_
        rw [termKind_untagged untagged] at decoded
        simp only [termOfKind, bind_eq_ok] at decoded
        obtain ⟨-, -, tag, tagRead, -⟩ := decoded
        exact ⟨tag, tagRead⟩
      rw [termBadTag?, own, Option.none_or]
      cases kind : termKind fields with
      | compound =>
        rw [kind] at decoded
        simp only [termOfKind, bind_eq_ok] at decoded
        obtain ⟨-, -, -, -, -, -, params, paramsRead, -⟩ := decoded
        exact inList paramsRead
      | operation =>
        rw [kind] at decoded
        simp only [termOfKind, bind_eq_ok] at decoded
        obtain ⟨-, -, -, -, left, leftRead, right, rightRead, -⟩ := decoded
        rw [badTagBelow?, inPlace leftRead, inPlace rightRead]
        rfl
      | list =>
        rw [kind] at decoded
        simp only [termOfKind, bind_eq_ok] at decoded
        obtain ⟨-, -, items, itemsRead, head, headRead, tail, tailRead, -⟩ := decoded
        rw [badTagBelow?, inList itemsRead, inPlace headRead, inPlace tailRead]
        rfl
      | group =>
        rw [kind] at decoded
        simp only [termOfKind, bind_eq_ok] at decoded
        obtain ⟨-, -, content, contentRead, -⟩ := decoded
        exact inList contentRead
      | param =>
        rw [kind] at decoded
        simp only [termOfKind, bind_eq_ok] at decoded
        obtain ⟨-, -, value, valueRead, -⟩ := decoded
        exact inPlace valueRead
      | _ => rfl
    | _ => rfl

/-- No refused tag is found in a value that is decoded as an item. -/
theorem itemBadTag?_of_ok {v : Value} {read : Item} (decoded : item v = .ok read) :
    itemBadTag? v = none := by
  cases v with
  | object fields =>
    have inList : ∀ {name list}, field fields name [] (tuple topTerm) = .ok list →
        badTagInList? (termBadTag? termLevels) fields name = none :=
      badTagInList?_of_ok fun w a => termBadTag?_of_ok
    have inPlace : ∀ {name place}, field fields name none (nullable topTerm) = .ok place →
        badTagAt? (termBadTag? termLevels) fields name = none :=
      badTagAt?_of_ok rfl fun w a => termBadTag?_of_ok
    simp only [item, under_eq_ok, bind_eq_ok] at decoded
    obtain ⟨-, -, -, -, body, bodyRead, -⟩ := decoded
    have own : ownBadTag? fields = none := by
      refine ownBadTag?_eq_none fun untagged => ?_
      rw [itemKind_untagged untagged] at bodyRead
      simp only [itemBody, bind_eq_ok] at bodyRead
      obtain ⟨tag, tagRead, -⟩ := bodyRead
      exact ⟨tag, tagRead⟩
    rw [itemBadTag?, own, Option.none_or]
    cases kind : itemKind fields with
    | rule =>
      rw [kind] at bodyRead
      simp only [itemBody, bind_eq_ok] at bodyRead
      obtain ⟨head, headRead, goals, goalsRead, -⟩ := bodyRead
      simp only [inPlace headRead, inList goalsRead, Option.none_or]
    | fact =>
      rw [kind] at bodyRead
      simp only [itemBody, bind_eq_ok] at bodyRead
      obtain ⟨head, headRead, -⟩ := bodyRead
      exact inPlace headRead
    | directive =>
      rw [kind] at bodyRead
      simp only [itemBody, bind_eq_ok] at bodyRead
      obtain ⟨goals, goalsRead, -⟩ := bodyRead
      exact inList goalsRead
    | _ => rfl
  | _ => rfl

/-- No refused tag is found in an object that is decoded as a tree. -/
theorem badTag?_of_ok {fields : Fields} {read : Tree} (decoded : tree fields = .ok read) :
    badTag? fields = none := by
  simp only [tree, bind_eq_ok] at decoded
  obtain ⟨-, -, items, itemsRead, -⟩ := decoded
  exact badTagInList?_of_ok (fun v a => itemBadTag?_of_ok) itemsRead

end Decode

namespace Tree

/-- A value is decoded as a tree exactly when it is an object with items and its fields are decoded
so; that no tag is refused follows. -/
theorem ofValue_eq_ok {v : Value} {tree : Tree} :
    ofValue v = .ok tree ↔
      ∃ fields, v = .object fields ∧ Ledger.has fields "predicates" ∧
        Decode.tree fields = .ok tree := by
  constructor
  · intro decoded
    cases v with
    | object fields =>
      simp only [ofValue] at decoded
      split at decoded
      · contradiction
      · rename_i rooted
        split at decoded
        · contradiction
        · cases read : Decode.tree fields with
          | error fault => simp [read, Except.mapError] at decoded
          | ok found =>
            rw [read] at decoded
            obtain rfl := Except.ok.inj decoded
            exact ⟨fields, rfl, by simpa using rooted, read⟩
    | _ => contradiction
  · rintro ⟨fields, rfl, rooted, read⟩
    simp only [ofValue, rooted, Bool.not_true, Bool.false_eq_true, if_false,
      Decode.badTag?_of_ok read, read]
    rfl

/-- A decoded tree is decoded again, and as the same tree, from its written form. -/
theorem ofValue_toValue {v : Value} {tree : Tree} (decoded : ofValue v = .ok tree) :
    ofValue tree.toValue = .ok tree := by
  obtain ⟨fields, -, -, read⟩ := ofValue_eq_ok.mp decoded
  have fits := Decode.tree_fits read
  exact ofValue_eq_ok.mpr ⟨_, rfl, rfl, Decode.tree_toValue fits⟩

/-- A rule whose parts are given loosely: a wrapped scalar, a numeral, an unnamed variable, a term
and an item of unknown kinds, null and absent fields. -/
def looseInput : Value :=
  .object [("predicates", .list [
    .object [("type", .text "rule"), ("line", .text " 7 "), ("full_range", .null),
      ("head", .object [("type", .text "functor"), ("name", .text "p"), ("arity", .float (.ofInt 1)),
        ("params", .list [.bool true, .object [("type", .text "unnamed_var")]])]),
      ("body", .list [.null, .object [("type", .text "number"), ("value", .text "3")],
        .object [("type", .text "hole"), ("depth", .int 3)]])],
    .object [("column", .bool true)]])]

/-- The tree of the loose input. -/
def looseTree : Tree where
  items := [
    { mark := { line := some 7 }
      body := .rule
        (some (.compound {} "p" (some 1) [.unknown { raw := some (.text "True") } "unknown",
          .var {} true "_"]))
        [.unknown {} "unknown", .number {} (.int 3), .unknown {} "hole"] },
    { mark := { column := some 1 }, body := .unknown "unknown" }]

/-- The law at a loose input, whose tree is written in full. -/
theorem ofValue_toValue_loose :
    ofValue looseInput = .ok looseTree ∧ ofValue looseTree.toValue = .ok looseTree := by
  have decoded : ofValue looseInput = .ok looseTree := by rfl
  exact ⟨decoded, ofValue_toValue decoded⟩

end Tree

end PredicateIndex
