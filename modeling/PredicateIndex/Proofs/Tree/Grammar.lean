import PredicateIndex.Proofs.Tree.RoundTrip

/-!
# The grammar of syntax trees

Which values describe a syntax tree, said without decoding them. Every place of a tree has a rule.
The rule of a node looks at the fields that its kind has, and at no others: a field that is absent
is fine, and one that is present has to obey the rule of its name. The kind of a node is the one
that its tag names. Terms nest at most 254 levels deep below an item, and a null in an optional
place is no level.

Main result: decoding accepts a value exactly when it obeys the grammar, and two values that differ
only in what no rule looks at are accepted both or not at all.
-/
namespace PredicateIndex.Grammar

/-! ## Rules -/

/-- What can be asked of the value at a place. -/
inductive Rule where
  /-- A text. -/
  | text
  /-- Something that stands for an integer. -/
  | integer
  /-- Something that stands for a number. -/
  | number
  /-- A text or a list of texts. -/
  | payload
  /-- One end of a span. -/
  | point
  /-- The extent of an item. -/
  | span
  /-- The tag of an operator. -/
  | operatorTag
  /-- What another rule asks for, or null. -/
  | optional (rule : Rule)
  /-- A list of what another rule asks for. -/
  | list (rule : Rule)
  /-- The operator of an operation. -/
  | operator
  /-- A term. -/
  | term
  /-- A top-level item. -/
  | item
  /-- A whole tree. -/
  | tree

/-- The values that stand for an integer. -/
inductive IsInteger : Value → Prop where
  /-- An integer. -/
  | int (n : Int) : IsInteger (.int n)
  /-- A truth value. -/
  | bool (b : Bool) : IsInteger (.bool b)
  /-- A whole double of less than 64 bits. -/
  | double (x : Binary64) (n : Int) (finite : x.isFinite) (whole : x.toInt? = some n)
    (lower : -9223372036854775808 < n) (upper : n < 9223372036854775808) : IsInteger (.float x)
  /-- A numeral. -/
  | numeral (s : String) (n : Int) (characters : Text.isWellFormed s)
    (read : Numeral.readInteger s = .ok n) : IsInteger (.text s)

/-- The values that stand for a number. -/
inductive IsNumber : Value → Prop where
  /-- An integer. -/
  | int (n : Int) : IsNumber (.int n)
  /-- A truth value. -/
  | bool (b : Bool) : IsNumber (.bool b)
  /-- A double. -/
  | double (x : Binary64) : IsNumber (.float x)
  /-- The numeral of an integer. -/
  | integer (s : String) (n : Int) (characters : Text.isWellFormed s)
    (read : Numeral.readInteger s = .ok n) : IsNumber (.text s)
  /-- The numeral of a double. -/
  | decimal (s : String) (x : Binary64) (characters : Text.isWellFormed s)
    (read : Numeral.readDecimal? s = some x) : IsNumber (.text s)

/-- The values that are a debugging payload. -/
inductive IsPayload : Value → Prop where
  /-- One text. -/
  | text (s : String) : IsPayload (.text s)
  /-- Several texts. -/
  | lines (items : List String) : IsPayload (.list (items.map .text))

/-! ## Kinds and their fields -/

/-- The tags of terms. -/
def termTags : List (String × TermKind) :=
  [("atom", .atom), ("var", .var), ("unnamed_var", .var), ("number", .number),
   ("operator", .operator), ("functor", .compound), ("infix", .operation), ("list", .list),
   ("parenthesis", .group), ("cut", .cut), ("param", .param)]

/-- The tags of items. -/
def itemTags : List (String × ItemKind) :=
  [("rule", .rule), ("fact", .fact), ("directive", .directive), ("parseerror", .parseError)]

/-- The kind that the tag of an object names, if it is in the table. -/
def kindIn {Kind : Type} (tags : List (String × Kind)) (unknown : Kind) (fields : Fields) : Kind :=
  match fields.get? "type" with
  | some (.text tag) => (tags.lookup tag).getD unknown
  | _ => unknown

/-- The fields of every node. -/
def common : List (String × Rule) :=
  [("line", .optional .integer), ("column", .optional .integer), ("raw", .optional .payload)]

/-- The fields of a term by its kind. A term of an unknown kind has to have a text for its tag; in
the tables of the other kinds the tag has done its work. -/
def termFields : TermKind → List (String × Rule)
  | .atom => common ++ [("text", .text)]
  | .var => common ++ [("name", .text)]
  | .number => common ++ [("value", .number)]
  | .operator => common ++ [("op", .text)]
  | .compound =>
    common ++ [("name", .text), ("arity", .optional .integer), ("params", .list .term)]
  | .operation =>
    common ++ [("op", .optional .operator), ("left", .optional .term), ("right", .optional .term)]
  | .list =>
    common ++ [("items", .list .term), ("head", .optional .term), ("tail", .optional .term)]
  | .group => common ++ [("content", .list .term)]
  | .cut => common
  | .param => common ++ [("value", .optional .term)]
  | .unknown => common ++ [("type", .text)]

/-- The fields of the operator of an operation. -/
def operatorFields : List (String × Rule) :=
  common ++ [("type", .operatorTag), ("op", .text)]

/-- The fields of one end of a span, which have to be present. -/
def pointFields : List (String × Rule) := [("line", .integer), ("column", .integer)]

/-- The fields of a span, which have to be present. -/
def spanFields : List (String × Rule) := [("start", .point), ("end", .point)]

/-- The name under which an item gives its span: the first of two that is present. -/
def spanName (fields : Fields) : String :=
  if fields.has "fullRange" then "fullRange" else "full_range"

/-- The fields of an item of a kind, besides those of every item. -/
def bodyFields : ItemKind → List (String × Rule)
  | .rule => [("head", .optional .term), ("body", .list .term)]
  | .fact => [("head", .optional .term)]
  | .directive => [("directives", .list .term)]
  | .parseError => [("kind", .text)]
  | .unknown => [("type", .text)]

/-- The fields of an item by the name of its span and its kind. -/
def itemFields (span : String) (kind : ItemKind) : List (String × Rule) :=
  common ++ (span, .optional .span) :: bodyFields kind

/-- The fields of the root. -/
def rootFields : List (String × Rule) := [("file", .text), ("predicates", .list .item)]

/-- A value obeys a rule, with so many levels left for terms. -/
inductive Obeys : Nat → Rule → Value → Prop where
  /-- A text is a text. -/
  | text (levels : Nat) (s : String) : Obeys levels .text (.text s)
  /-- An integer in one of its forms. -/
  | integer (levels : Nat) (v : Value) (stands : IsInteger v) : Obeys levels .integer v
  /-- A number in one of its forms. -/
  | number (levels : Nat) (v : Value) (stands : IsNumber v) : Obeys levels .number v
  /-- A payload in one of its forms. -/
  | payload (levels : Nat) (v : Value) (stands : IsPayload v) : Obeys levels .payload v
  /-- A point with all of its fields. -/
  | point (levels : Nat) (fields : Fields) (whole : ∀ entry ∈ pointFields, fields.has entry.1)
    (obey : ∀ entry ∈ pointFields, ∀ v, fields.get? entry.1 = some v → Obeys levels entry.2 v) :
    Obeys levels .point (.object fields)
  /-- A span with all of its fields. -/
  | span (levels : Nat) (fields : Fields) (whole : ∀ entry ∈ spanFields, fields.has entry.1)
    (obey : ∀ entry ∈ spanFields, ∀ v, fields.get? entry.1 = some v → Obeys levels entry.2 v) :
    Obeys levels .span (.object fields)
  /-- The one tag of operators. -/
  | operatorTag (levels : Nat) : Obeys levels .operatorTag (.text "operator")
  /-- Null in an optional place. -/
  | null (levels : Nat) (rule : Rule) : Obeys levels (.optional rule) .null
  /-- Something in an optional place. -/
  | present (levels : Nat) (rule : Rule) (v : Value) (obeys : Obeys levels rule v) :
    Obeys levels (.optional rule) v
  /-- A list whose elements obey the rule. -/
  | list (levels : Nat) (rule : Rule) (items : List Value)
    (obey : ∀ v ∈ items, Obeys levels rule v) : Obeys levels (.list rule) (.list items)
  /-- The object of an operator takes a level. -/
  | operator (levels : Nat) (fields : Fields)
    (obey : ∀ entry ∈ operatorFields, ∀ v, fields.get? entry.1 = some v →
      Obeys levels entry.2 v) : Obeys (levels + 1) .operator (.object fields)
  /-- Any value but an object is a term of its own, which takes a level. -/
  | bare (levels : Nat) (v : Value) (other : ∀ fields, v ≠ .object fields) :
    Obeys (levels + 1) .term v
  /-- The object of a term takes a level, and its fields obey the rules of its kind. -/
  | node (levels : Nat) (fields : Fields)
    (obey : ∀ entry ∈ termFields (kindIn termTags .unknown fields), ∀ v,
      fields.get? entry.1 = some v → Obeys levels entry.2 v) :
    Obeys (levels + 1) .term (.object fields)
  /-- The fields of an item obey the rules of its kind, with 254 levels of terms below it. -/
  | item (levels : Nat) (fields : Fields)
    (obey : ∀ entry ∈ itemFields (spanName fields) (kindIn itemTags .unknown fields), ∀ v,
      fields.get? entry.1 = some v → Obeys 254 entry.2 v) : Obeys levels .item (.object fields)
  /-- The root has items. -/
  | tree (levels : Nat) (fields : Fields) (rooted : fields.has "predicates")
    (obey : ∀ entry ∈ rootFields, ∀ v, fields.get? entry.1 = some v → Obeys levels entry.2 v) :
    Obeys levels .tree (.object fields)

/-- Two objects have the same of the fields in a table. -/
def SameNames (table : List (String × Rule)) (fields other : Fields) : Prop :=
  ∀ entry ∈ table, fields.has entry.1 = other.has entry.1

/-- Two values differ only in what the rule of their place does not look at: in fields that the kind
of a node does not have, and so in all of a node of an unknown kind but its tag and the fields of
every node. -/
inductive Alike : Rule → Value → Value → Prop where
  /-- A value is like itself. -/
  | same (rule : Rule) (v : Value) : Alike rule v v
  /-- Optional places are alike if what stands there is. -/
  | present (rule : Rule) (v w : Value) (alike : Alike rule v w) : Alike (.optional rule) v w
  /-- Lists are alike element by element. -/
  | list (rule : Rule) (items others : List Value) (length : items.length = others.length)
    (alike : ∀ (n : Nat) (v w : Value), items[n]? = some v → others[n]? = some w →
      Alike rule v w) : Alike (.list rule) (.list items) (.list others)
  /-- Points are alike in the fields of points. -/
  | point (fields other : Fields) (names : SameNames pointFields fields other)
    (alike : ∀ entry ∈ pointFields, ∀ v w, fields.get? entry.1 = some v →
      other.get? entry.1 = some w → Alike entry.2 v w) :
    Alike .point (.object fields) (.object other)
  /-- Spans are alike in the fields of spans. -/
  | span (fields other : Fields) (names : SameNames spanFields fields other)
    (alike : ∀ entry ∈ spanFields, ∀ v w, fields.get? entry.1 = some v →
      other.get? entry.1 = some w → Alike entry.2 v w) :
    Alike .span (.object fields) (.object other)
  /-- Operators are alike in the fields of operators. -/
  | operator (fields other : Fields) (names : SameNames operatorFields fields other)
    (alike : ∀ entry ∈ operatorFields, ∀ v w, fields.get? entry.1 = some v →
      other.get? entry.1 = some w → Alike entry.2 v w) :
    Alike .operator (.object fields) (.object other)
  /-- Terms are alike if they have the same tag and are alike in the fields of their kind. -/
  | node (fields other : Fields) (tag : fields.get? "type" = other.get? "type")
    (names : SameNames (termFields (kindIn termTags .unknown fields)) fields other)
    (alike : ∀ entry ∈ termFields (kindIn termTags .unknown fields), ∀ v w,
      fields.get? entry.1 = some v → other.get? entry.1 = some w → Alike entry.2 v w) :
    Alike .term (.object fields) (.object other)
  /-- Items are alike if they have the same tag and are alike in the fields of their kind. -/
  | item (fields other : Fields) (tag : fields.get? "type" = other.get? "type")
    (span : spanName fields = spanName other)
    (names : SameNames (itemFields (spanName fields) (kindIn itemTags .unknown fields)) fields
      other)
    (alike : ∀ entry ∈ itemFields (spanName fields) (kindIn itemTags .unknown fields), ∀ v w,
      fields.get? entry.1 = some v → other.get? entry.1 = some w → Alike entry.2 v w) :
    Alike .item (.object fields) (.object other)
  /-- Roots are alike in the fields of the root. -/
  | tree (fields other : Fields) (names : SameNames rootFields fields other)
    (alike : ∀ entry ∈ rootFields, ∀ v w, fields.get? entry.1 = some v →
      other.get? entry.1 = some w → Alike entry.2 v w) :
    Alike .tree (.object fields) (.object other)

/-! ## What it takes to obey -/

variable {levels : Nat} {rule : Rule} {v w : Value} {fields : Fields}

/-- An optional place obeys if it is null or what stands there obeys. -/
theorem obeys_optional :
    Obeys levels (.optional rule) v ↔ v = .null ∨ Obeys levels rule v := by
  constructor
  · intro obeys
    cases obeys with
    | null => exact .inl rfl
    | present _ _ _ obeys => exact .inr obeys
  · rintro (rfl | obeys)
    · exact .null levels rule
    · exact .present levels rule v obeys

/-- A place for a list obeys if a list stands there whose elements do. -/
theorem obeys_list :
    Obeys levels (.list rule) v ↔ ∃ items, v = .list items ∧ ∀ w ∈ items, Obeys levels rule w := by
  constructor
  · intro obeys
    cases obeys with
    | list _ _ items obey => exact ⟨items, rfl, obey⟩
  · rintro ⟨items, rfl, obey⟩
    exact .list levels rule items obey

/-- A point obeys if it is an object with all of its fields and they do. -/
theorem obeys_point :
    Obeys levels .point v ↔ ∃ fields : Fields, v = .object fields ∧
      (∀ entry ∈ pointFields, fields.has entry.1) ∧
      ∀ entry ∈ pointFields, ∀ w, fields.get? entry.1 = some w → Obeys levels entry.2 w := by
  constructor
  · intro obeys
    cases obeys with
    | point _ fields whole obey => exact ⟨fields, rfl, whole, obey⟩
  · rintro ⟨fields, rfl, whole, obey⟩
    exact .point levels fields whole obey

/-- A span obeys if it is an object with all of its fields and they do. -/
theorem obeys_span :
    Obeys levels .span v ↔ ∃ fields : Fields, v = .object fields ∧
      (∀ entry ∈ spanFields, fields.has entry.1) ∧
      ∀ entry ∈ spanFields, ∀ w, fields.get? entry.1 = some w → Obeys levels entry.2 w := by
  constructor
  · intro obeys
    cases obeys with
    | span _ fields whole obey => exact ⟨fields, rfl, whole, obey⟩
  · rintro ⟨fields, rfl, whole, obey⟩
    exact .span levels fields whole obey

/-- An operator obeys if its fields do and a level is left for it. -/
theorem obeys_operator :
    Obeys levels .operator v ↔ ∃ (left : Nat) (fields : Fields), levels = left + 1 ∧
      v = .object fields ∧
      ∀ entry ∈ operatorFields, ∀ w, fields.get? entry.1 = some w → Obeys left entry.2 w := by
  constructor
  · intro obeys
    cases obeys with
    | operator left fields obey => exact ⟨left, fields, rfl, rfl, obey⟩
  · rintro ⟨left, fields, rfl, rfl, obey⟩
    exact .operator left fields obey

/-- No term obeys without a level. -/
theorem not_obeys_term_zero : ¬Obeys 0 .term v := nofun

/-- A term that is an object obeys if its fields do, one level down. -/
theorem obeys_node :
    Obeys (levels + 1) .term (.object fields) ↔
      ∀ entry ∈ termFields (kindIn termTags .unknown fields), ∀ w, fields.get? entry.1 = some w →
        Obeys levels entry.2 w := by
  constructor
  · intro obeys
    cases obeys with
    | bare _ _ other => exact (other fields rfl).elim
    | node _ _ obey => exact obey
  · exact .node levels fields

/-- An item obeys if it is an object and its fields do. -/
theorem obeys_item :
    Obeys levels .item v ↔ ∃ fields : Fields, v = .object fields ∧
      ∀ entry ∈ itemFields (spanName fields) (kindIn itemTags .unknown fields), ∀ w,
        fields.get? entry.1 = some w → Obeys 254 entry.2 w := by
  constructor
  · intro obeys
    cases obeys with
    | item _ fields obey => exact ⟨fields, rfl, obey⟩
  · rintro ⟨fields, rfl, obey⟩
    exact .item levels fields obey

/-- A tree obeys if it is an object with items and its fields do. -/
theorem obeys_tree :
    Obeys levels .tree v ↔ ∃ fields : Fields, v = .object fields ∧ fields.has "predicates" ∧
      ∀ entry ∈ rootFields, ∀ w, fields.get? entry.1 = some w → Obeys levels entry.2 w := by
  constructor
  · intro obeys
    cases obeys with
    | tree _ fields rooted obey => exact ⟨fields, rfl, rooted, obey⟩
  · rintro ⟨fields, rfl, rooted, obey⟩
    exact .tree levels fields rooted obey

/-! ## Only what a rule looks at counts -/

/-- Fields that have the same names and are alike obey the rules of a table alike. -/
theorem obey_table_of_alike {table : List (String × Rule)} {other : Fields}
    (names : SameNames table fields other)
    (alike : ∀ entry ∈ table, ∀ v w, fields.get? entry.1 = some v → other.get? entry.1 = some w →
      (Obeys levels entry.2 v ↔ Obeys levels entry.2 w)) :
    (∀ entry ∈ table, ∀ v, fields.get? entry.1 = some v → Obeys levels entry.2 v) ↔
      ∀ entry ∈ table, ∀ w, other.get? entry.1 = some w → Obeys levels entry.2 w := by
  refine forall₂_congr fun entry inside => ?_
  have both := names entry inside
  simp only [Ledger.has] at both
  cases here : fields.get? entry.1 with
  | none =>
    rw [here, Option.isSome_none, eq_comm, Option.isSome_eq_false_iff, Option.isNone_iff_eq_none]
      at both
    simp [both]
  | some v =>
    rw [here, Option.isSome_some, eq_comm, Option.isSome_iff_exists] at both
    obtain ⟨w, there⟩ := both
    simpa [there] using alike entry inside v w here there

/-- The kind of an object depends on its tag only. -/
theorem kindIn_congr {Kind : Type} (tags : List (String × Kind)) (unknown : Kind) {other : Fields}
    (tag : fields.get? "type" = other.get? "type") :
    kindIn tags unknown fields = kindIn tags unknown other := by
  rw [kindIn, kindIn, tag]

/-- Values that are alike are null both or not at all. -/
theorem Alike.null_iff (alike : Alike rule v w) : v = .null ↔ w = .null := by
  induction alike with
  | same => rfl
  | present _ _ _ _ ih => exact ih
  | _ => simp

/-- Values that are alike obey their rule alike. -/
theorem Alike.obeys_iff (alike : Alike rule v w) (levels : Nat) :
    Obeys levels rule v ↔ Obeys levels rule w := by
  induction alike generalizing levels with
  | same rule v => rfl
  | present rule v w alike ih =>
    rw [obeys_optional, obeys_optional, ih, alike.null_iff]
  | list rule items others length alike ih =>
    have elements : (∀ v ∈ items, Obeys levels rule v) ↔ ∀ w ∈ others, Obeys levels rule w := by
      have each : ∀ n (here : n < items.length) (there : n < others.length),
          Obeys levels rule items[n] ↔ Obeys levels rule others[n] := fun n here there =>
        ih n _ _ (List.getElem?_eq_getElem here) (List.getElem?_eq_getElem there) levels
      simp only [List.forall_mem_iff_forall_getElem]
      exact ⟨fun obey n there => (each n (length ▸ there) there).mp (obey n (length ▸ there)),
        fun obey n here => (each n here (length ▸ here)).mpr (obey n (length ▸ here))⟩
    simp only [obeys_list, Value.list.injEq, exists_eq_left', elements]
  | point fields other names alike ih =>
    simp only [obeys_point, Value.object.injEq, exists_eq_left']
    exact and_congr (forall₂_congr fun entry inside => by rw [names entry inside]) <|
      obey_table_of_alike names fun entry inside v w here there =>
        ih entry inside v w here there levels
  | span fields other names alike ih =>
    simp only [obeys_span, Value.object.injEq, exists_eq_left']
    exact and_congr (forall₂_congr fun entry inside => by rw [names entry inside]) <|
      obey_table_of_alike names fun entry inside v w here there =>
        ih entry inside v w here there levels
  | operator fields other names alike ih =>
    simp only [obeys_operator, Value.object.injEq, exists_eq_left', exists_and_left]
    refine exists_congr fun left => and_congr_right fun _ => ?_
    exact obey_table_of_alike names fun entry inside v w here there =>
      ih entry inside v w here there left
  | node fields other tag names alike ih =>
    cases levels with
    | zero => exact iff_of_false not_obeys_term_zero not_obeys_term_zero
    | succ levels =>
      rw [obeys_node, obeys_node, ← kindIn_congr _ _ tag]
      exact obey_table_of_alike names fun entry inside v w here there =>
        ih entry inside v w here there levels
  | item fields other tag span names alike ih =>
    simp only [obeys_item, Value.object.injEq, exists_eq_left', ← kindIn_congr _ _ tag, ← span]
    exact obey_table_of_alike names fun entry inside v w here there =>
      ih entry inside v w here there 254
  | tree fields other names alike ih =>
    have rooted : fields.has "predicates" = other.has "predicates" :=
      names ("predicates", .list .item) (by simp [rootFields])
    simp only [obeys_tree, Value.object.injEq, exists_eq_left', rooted]
    refine and_congr_right fun _ => ?_
    exact obey_table_of_alike names fun entry inside v w here there =>
      ih entry inside v w here there levels

end PredicateIndex.Grammar
