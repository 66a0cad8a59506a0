import PredicateIndex.Proofs.Tree.Grammar
import PredicateIndex.Value.Path

/-!
# Sites in a value

The grammar of trees asks something of every place of a value that it looks at. A site is such a
place: what stands there, the rule for it and the levels that are left for terms. From the site of
the root a path leads to every other one, through fields and positions, and behind the steps it
names the kind that is chosen where there is a choice. Besides its path a site has an address, the
numbers of the fields in their tables and of the elements in their lists. Sites are checked in the
lexicographic order of their addresses: a node before what stands below it, and everything below one
field before the next field.

A path can be followed in the value itself, passing over the kinds. It leads to what stands at the
site, and what stands there can be replaced.
-/
namespace PredicateIndex

namespace Value

/-- What stands at the end of a path; the kinds on the way are no part of the value. -/
def follow? : Value → Path → Option Value
  | v, [] => some v
  | v, .kind _ :: rest => follow? v rest
  | .object fields, .key name :: rest => (Ledger.get? fields name).bind fun v => follow? v rest
  | .list items, .index n :: rest => items[n]?.bind fun v => follow? v rest
  | _, _ :: _ => none

/-- A value with another one in the place where a path ends. -/
def replaceAt (new : Value) : Path → Value → Value
  | [], _ => new
  | .kind _ :: rest, v => replaceAt new rest v
  | .key name :: rest, .object fields =>
    match Ledger.get? fields name with
    | some v => .object (Ledger.put fields name (replaceAt new rest v))
    | none => .object fields
  | .index n :: rest, .list items => .list (items.modify n (replaceAt new rest))
  | _ :: _, v => v

/-- A field is replaced by replacing in its value. -/
theorem replaceAt_key {new v : Value} {fields : Fields} {name : String} {rest : Path}
    (present : fields.get? name = some v) :
    replaceAt new (.key name :: rest) (.object fields) =
      .object (Ledger.put fields name (replaceAt new rest v)) := by
  rw [replaceAt, present]

/-- An element is replaced by replacing in its value. -/
theorem replaceAt_index {new v : Value} {items : List Value} {n : Nat} {rest : Path}
    (present : items[n]? = some v) :
    replaceAt new (.index n :: rest) (.list items) =
      .list (items.set n (replaceAt new rest v)) := by
  rw [replaceAt, List.modify_eq_set_getElem?, present]
  rfl

end Value

namespace Grammar

/-! ## Sites -/

/-- A place of a value that the grammar looks at. -/
structure Site where
  /-- The levels left for terms. -/
  levels : Nat
  /-- What is asked of the value. -/
  rule : Rule
  /-- The value; there is none where a field has to be present and is not. -/
  found : Option Value

/-- The site of a whole tree. -/
def Site.root (v : Value) : Site := ⟨0, .tree, some v⟩

/-- What is asked of a value by the rule of its field: nothing of a null in an optional place. -/
def Rule.asked? : Rule → Value → Option Rule
  | .optional _, .null => none
  | .optional rule, _ => some rule
  | rule, _ => some rule

/-- What is looked at in an object. -/
structure Form where
  /-- The levels left for its fields. -/
  levels : Nat
  /-- Its fields in the order of checking. -/
  table : List (String × Rule)
  /-- Whether all of them have to be present. -/
  whole : Bool := false

/-- The form of the objects that a rule asks for; a term and an operator need a level. -/
def form? : Nat → Rule → Fields → Option Form
  | levels, .point, _ => some { levels, table := pointFields, whole := true }
  | levels, .span, _ => some { levels, table := spanFields, whole := true }
  | levels + 1, .operator, _ => some { levels, table := operatorFields }
  | levels + 1, .term, fields =>
    some { levels, table := termFields (kindIn termTags .unknown fields) }
  | _, .item, fields =>
    some { levels := 254, table := itemFields (spanName fields) (kindIn itemTags .unknown fields) }
  | levels, .tree, _ => some { levels, table := rootFields }
  | _, _, _ => none

/-- The kind that a path names at a site. A term and an item have the kind of their tag. The other
two are alternatives: of an integer and a double the integer, and of a text and a list of texts the
text. -/
def Site.label (site : Site) : Path :=
  match site.rule, site.found with
  | .term, some (.object fields) => [.kind (kindIn termTags .unknown fields).name]
  | .item, some (.object fields) => [.kind (kindIn itemTags .unknown fields).name]
  | .term, some _ | .item, some _ => [.kind "unknown"]
  | .number, _ => [.kind "int"]
  | .payload, _ => [.kind "str"]
  | _, _ => []

/-- A site directly below another one: its number there, and the step that leads to it. -/
inductive Below : Site → Nat → PathStep → Site → Prop where
  /-- The value of a field, unless it is a null in an optional place. -/
  | field {levels : Nat} {rule : Rule} {fields : Fields} {form : Form} {n : Nat} {name : String}
    {wanted asked : Rule} {v : Value} (shape : form? levels rule fields = some form)
    (entry : form.table[n]? = some (name, wanted)) (present : fields.get? name = some v)
    (asks : wanted.asked? v = some asked) :
    Below ⟨levels, rule, some (.object fields)⟩ n (.key name) ⟨form.levels, asked, some v⟩
  /-- A field that has to be present and is not. -/
  | missing {levels : Nat} {rule : Rule} {fields : Fields} {form : Form} {n : Nat} {name : String}
    {wanted : Rule} (shape : form? levels rule fields = some form) (whole : form.whole)
    (entry : form.table[n]? = some (name, wanted)) (absent : fields.get? name = none) :
    Below ⟨levels, rule, some (.object fields)⟩ n (.key name) ⟨form.levels, wanted, none⟩
  /-- An element of a list. -/
  | element {levels : Nat} {rule : Rule} {items : List Value} {n : Nat} {v : Value}
    (present : items[n]? = some v) :
    Below ⟨levels, .list rule, some (.list items)⟩ n (.index n) ⟨levels, rule, some v⟩

/-- From a site an address and a path lead to a site at it or below it. -/
inductive Leads : Site → List Nat → Path → Site → Prop where
  /-- A site leads to itself. -/
  | here (site : Site) : Leads site [] site.label site
  /-- A site leads where a site directly below it leads. -/
  | further {site next last : Site} {n : Nat} {step : PathStep} {address : List Nat} {path : Path}
    (first : Below site n step next) (rest : Leads next address path last) :
    Leads site (n :: address) (site.label ++ step :: path) last

/-! ## Paths lead to sites -/

/-- A site names at most one kind, and no other step. -/
theorem Site.label_cases (site : Site) : site.label = [] ∨ ∃ kind, site.label = [.kind kind] := by
  unfold label
  split <;> simp

/-- The kind of a site is passed over when a path is followed. -/
theorem Site.follow?_label (site : Site) (v : Value) (path : Path) :
    v.follow? (site.label ++ path) = v.follow? path := by
  rcases site.label_cases with none | ⟨kind, one⟩
  · rw [none, List.nil_append]
  · rw [one, List.singleton_append, Value.follow?]

/-- The kind of a site is passed over when a value is replaced. -/
theorem Site.replaceAt_label (site : Site) (new v : Value) (path : Path) :
    Value.replaceAt new (site.label ++ path) v = Value.replaceAt new path v := by
  rcases site.label_cases with none | ⟨kind, one⟩
  · rw [none, List.nil_append]
  · rw [one, List.singleton_append, Value.replaceAt]

/-- A path that leads to a site can be followed to what stands there. -/
theorem Leads.follow? {site last : Site} {address : List Nat} {path : Path} {v : Value}
    (leads : Leads site address path last) (stands : site.found = some v) :
    v.follow? path = last.found := by
  induction leads generalizing v with
  | here site =>
    rw [← List.append_nil site.label, site.follow?_label, Value.follow?, stands]
  | @further site next last n step address path first rest ih =>
    rw [site.follow?_label]
    cases first with
    | field shape entry present asks =>
      obtain rfl := Option.some.inj stands
      rw [Value.follow?, present, Option.bind_some, ih rfl]
    | missing shape whole entry absent =>
      obtain rfl := Option.some.inj stands
      rw [Value.follow?, absent, Option.bind_none]
      -- Nothing stands below a field that is missing.
      cases rest with
      | here => rfl
      | further next _ => cases next
    | element present =>
      obtain rfl := Option.some.inj stands
      rw [Value.follow?, present, Option.bind_some, ih rfl]

end Grammar

end PredicateIndex
