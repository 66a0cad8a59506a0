import PredicateIndex.Proofs.Tree.Unseen

/-!
# Trees with a term exchanged

A term stands in one place of a tree, and its value in one place of the value that describes the
tree. The same path leads to both. Each decoder decodes the terms in its place by themselves, so
another term in one place changes nothing around it: this is said of one object that holds a term,
of terms below terms, by induction on the levels that are left, and from there of items and trees.

Main result: with another value in the place of a term, as long as it is decoded as a term and is
not null, a value describes the tree with exactly this term exchanged.
-/
namespace PredicateIndex

/-! ## Trees with a term exchanged -/

/-- One term becomes another when the term at the end of a path is exchanged and everything around
it stays. -/
inductive Term.Exchanged (old new : Term) : Path → Term → Term → Prop where
  /-- The term itself, whatever its kind was. -/
  | here (kind : String) : Exchanged old new [.kind kind] old new
  /-- In a parameter of a compound. -/
  | params {mark : Mark} {name : String} {arity : Option Int} {params : List Term} {n : Nat}
    {t t' : Term} {path : Path} (found : params[n]? = some t)
    (inside : Exchanged old new path t t') :
    Exchanged old new (.kind "functor" :: .key "params" :: .index n :: path)
      (.compound mark name arity params) (.compound mark name arity (params.set n t'))
  /-- In the left operand of an operation. -/
  | left {mark : Mark} {operator : Option Operator} {right : Option Term} {t t' : Term}
    {path : Path} (inside : Exchanged old new path t t') :
    Exchanged old new (.kind "infix" :: .key "left" :: path)
      (.operation mark operator (some t) right) (.operation mark operator (some t') right)
  /-- In the right operand of an operation. -/
  | right {mark : Mark} {operator : Option Operator} {left : Option Term} {t t' : Term}
    {path : Path} (inside : Exchanged old new path t t') :
    Exchanged old new (.kind "infix" :: .key "right" :: path)
      (.operation mark operator left (some t)) (.operation mark operator left (some t'))
  /-- In an element of a list. -/
  | items {mark : Mark} {items : List Term} {head tail : Option Term} {n : Nat} {t t' : Term}
    {path : Path} (found : items[n]? = some t) (inside : Exchanged old new path t t') :
    Exchanged old new (.kind "list" :: .key "items" :: .index n :: path)
      (.list mark items head tail) (.list mark (items.set n t') head tail)
  /-- In the head of a list. -/
  | head {mark : Mark} {items : List Term} {tail : Option Term} {t t' : Term} {path : Path}
    (inside : Exchanged old new path t t') :
    Exchanged old new (.kind "list" :: .key "head" :: path) (.list mark items (some t) tail)
      (.list mark items (some t') tail)
  /-- In the tail of a list. -/
  | tail {mark : Mark} {items : List Term} {head : Option Term} {t t' : Term} {path : Path}
    (inside : Exchanged old new path t t') :
    Exchanged old new (.kind "list" :: .key "tail" :: path) (.list mark items head (some t))
      (.list mark items head (some t'))
  /-- In parentheses. -/
  | content {mark : Mark} {content : List Term} {n : Nat} {t t' : Term} {path : Path}
    (found : content[n]? = some t) (inside : Exchanged old new path t t') :
    Exchanged old new (.kind "parenthesis" :: .key "content" :: .index n :: path)
      (.group mark content) (.group mark (content.set n t'))
  /-- In a wrapped parameter. -/
  | value {mark : Mark} {t t' : Term} {path : Path} (inside : Exchanged old new path t t') :
    Exchanged old new (.kind "param" :: .key "value" :: path) (.param mark (some t))
      (.param mark (some t'))

/-- What an item says, with the term at the end of a path exchanged. -/
inductive ItemBody.Exchanged (old new : Term) : Path → ItemBody → ItemBody → Prop where
  /-- In the head of a rule. -/
  | ruleHead {body : List Term} {t t' : Term} {path : Path}
    (inside : Term.Exchanged old new path t t') :
    Exchanged old new (.kind "rule" :: .key "head" :: path) (.rule (some t) body)
      (.rule (some t') body)
  /-- In a goal of a rule. -/
  | goal {head : Option Term} {body : List Term} {n : Nat} {t t' : Term} {path : Path}
    (found : body[n]? = some t) (inside : Term.Exchanged old new path t t') :
    Exchanged old new (.kind "rule" :: .key "body" :: .index n :: path) (.rule head body)
      (.rule head (body.set n t'))
  /-- In the head of a fact. -/
  | factHead {t t' : Term} {path : Path} (inside : Term.Exchanged old new path t t') :
    Exchanged old new (.kind "fact" :: .key "head" :: path) (.fact (some t)) (.fact (some t'))
  /-- In a goal of a directive. -/
  | directive {goals : List Term} {n : Nat} {t t' : Term} {path : Path}
    (found : goals[n]? = some t) (inside : Term.Exchanged old new path t t') :
    Exchanged old new (.kind "directive" :: .key "directives" :: .index n :: path)
      (.directive goals) (.directive (goals.set n t'))

/-- A tree with the term at the end of a path exchanged: it is in one of the items, and of this item
only what it says changes. -/
inductive Tree.Exchanged (old new : Term) : Path → Tree → Tree → Prop where
  /-- In an item. -/
  | item {tree : Tree} {n : Nat} {item : Item} {body : ItemBody} {path : Path}
    (found : tree.items[n]? = some item)
    (inside : ItemBody.Exchanged old new path item.body body) :
    Exchanged old new (.key "predicates" :: .index n :: path) tree
      { tree with items := tree.items.set n { item with body } }

namespace Grammar

variable {levels : Nat} {rule wanted : Rule} {v w : Value} {fields : Fields}
  {table : List (String × Rule)} {name : String}

/-! ## Terms in objects -/

/-- A term stands in an object, at an element of a list or in an optional field: the steps that lead
to it, its value, and the fields with another value in its place. -/
inductive Holds (table : List (String × Rule)) (fields : Fields) :
    Path → Value → (Value → Fields) → Prop where
  /-- At an element of a list. -/
  | listed {name : String} {items : List Value} {n : Nat} {v : Value}
    (entry : (name, .list .term) ∈ table) (present : fields.get? name = some (.list items))
    (element : items[n]? = some v) :
    Holds table fields [.key name, .index n] v
      fun w => Ledger.put fields name (.list (items.set n w))
  /-- In an optional field, which is not null. -/
  | single {name : String} {v : Value} (entry : (name, .optional .term) ∈ table)
    (present : fields.get? name = some v) (solid : v.isNull = false) :
    Holds table fields [.key name] v fun w => Ledger.put fields name w

/-- Whether terms can stand at a site with a rule or below it. -/
def Rule.hasTerms : Rule → Bool
  | .term | .item | .tree => true
  | .optional rule | .list rule => rule.hasTerms
  | _ => false

/-- What is asked of a field can have terms only if its rule can. -/
theorem hasTerms_of_asked? {asked : Rule} (asks : wanted.asked? v = some asked)
    (terms : asked.hasTerms) : wanted.hasTerms := by
  unfold Rule.asked? at asks
  split at asks <;> cases asks
  all_goals exact terms

/-- An object can have terms only if a field of it can. -/
theorem hasTerms_of_entry {form : Form} (shape : form? levels rule fields = some form)
    (inside : (name, wanted) ∈ form.table) (terms : wanted.hasTerms) : rule.hasTerms := by
  have barren {table : List (String × Rule)} (without : ∀ entry ∈ table, ¬entry.2.hasTerms)
      (inside : (name, wanted) ∈ table) : rule.hasTerms := absurd terms (without _ inside)
  unfold form? at shape
  split at shape <;> cases shape
  · exact barren (by decide : ∀ entry ∈ pointFields, ¬entry.2.hasTerms) inside
  · exact barren (by decide : ∀ entry ∈ spanFields, ¬entry.2.hasTerms) inside
  · exact barren (by decide : ∀ entry ∈ operatorFields, ¬entry.2.hasTerms) inside
  all_goals rfl

/-- A site that leads to a term can have terms. -/
theorem Leads.hasTerms {site last : Site} {address : List Nat} {path : Path}
    (leads : Leads site address path last) (term : last.rule.hasTerms) : site.rule.hasTerms := by
  induction leads with
  | here site => exact term
  | further first rest ih =>
    cases first with
    | field shape entry present asks =>
      exact hasTerms_of_entry shape (List.mem_of_getElem? entry) (hasTerms_of_asked? asks (ih term))
    | missing shape whole entry absent =>
      exact hasTerms_of_entry shape (List.mem_of_getElem? entry) (ih term)
    | element present => exact ih term

/-- The fields of terms and items that can have terms are lists of terms and optional terms. -/
theorem term_entry_cases {form : Form} (shape : form? levels rule fields = some form)
    (node : rule = .term ∨ rule = .item) (inside : (name, wanted) ∈ form.table)
    (terms : wanted.hasTerms) : wanted = .list .term ∨ wanted = .optional .term := by
  have ofTerm (kind : TermKind) (inside : (name, wanted) ∈ termFields kind) :
      wanted = .list .term ∨ wanted = .optional .term := by
    cases kind <;> simp [termFields, common] at inside <;> grind [Rule.hasTerms]
  have ofItem (span : String) (kind : ItemKind) (inside : (name, wanted) ∈ itemFields span kind) :
      wanted = .list .term ∨ wanted = .optional .term := by
    cases kind <;> simp [itemFields, bodyFields, common] at inside <;> grind [Rule.hasTerms]
  unfold form? at shape
  split at shape <;> cases shape
  case h_4 => exact ofTerm _ inside
  case h_5 => exact ofItem _ _ inside
  all_goals simp at node

/-- The way from a term or an item to a term below it begins with a term that it holds, and a value
is replaced below it by replacing in this term. -/
theorem Below.holds {site next : Site} {n left : Nat} {step : PathStep} {address : List Nat}
    {path : Path} {x : Value} (first : Below site n step next)
    (rest : Leads next address path ⟨left, .term, some x⟩)
    (node : site.rule = .term ∨ site.rule = .item) :
    ∃ fields form steps v change address' path',
      site.found = some (.object fields) ∧ form? site.levels site.rule fields = some form ∧
      Holds form.table fields steps v change ∧
      Leads ⟨form.levels, .term, some v⟩ address' path' ⟨left, .term, some x⟩ ∧
      step :: path = steps ++ path' ∧
      ∀ new, Value.replaceAt new (step :: path) (.object fields) =
        .object (change (Value.replaceAt new path' v)) := by
  cases first with
  | @field levels rule fields form n name wanted asked v shape entry present asks =>
    have inside := List.mem_of_getElem? entry
    rcases term_entry_cases shape node inside (hasTerms_of_asked? asks (rest.hasTerms rfl))
      with rfl | rfl
    · obtain rfl : .list .term = asked := by simpa [Rule.asked?] using asks
      -- The list itself is no term, so the way goes on to one of its elements.
      cases rest with
      | further second rest =>
        cases second with
        | field shape => cases shape
        | missing shape => cases shape
        | @element _ _ items m w element =>
          refine ⟨fields, form, _, w, _, _, _, rfl, shape, .listed inside present element, rest,
            rfl, fun new => ?_⟩
          rw [Value.replaceAt_key present]
          exact congrArg (fun w => Value.object (Ledger.put fields name w))
            (Value.replaceAt_index element)
    · have solid : v.isNull = false ∧ Rule.term = asked := by
        cases v <;> simp_all [Rule.asked?, Value.isNull]
      obtain ⟨solid, rfl⟩ := solid
      exact ⟨fields, form, _, v, _, _, _, rfl, shape, .single inside present solid, rest, rfl,
        fun new => Value.replaceAt_key present⟩
  | missing =>
    cases rest with
    | further second _ => cases second
  | element => simp at node

end Grammar

namespace Decode

open Grammar

variable {α : Type} {levels : Nat} {v w : Value} {fields : Fields} {name : String}
  {decode : Value → Decoded α}

/-! ## Decoding with another value in one place -/

/-- The names of the fields of every node. -/
def commonNames : List String := common.map Prod.fst

/-- The names of the fields of every item. -/
def itemNames : List String := commonNames ++ ["fullRange", "full_range"]

/-- A field is decoded as before when another one is written. -/
theorem field_put_ne {written : String} {default : α} (other : written ≠ name) :
    field (Ledger.put fields written w) name default decode = field fields name default decode :=
  field_congr (Ledger.get?_put_ne fields other w)

/-- Position and payload are decoded as before when another field is written. -/
theorem mark_put {written : String} (other : written ∉ commonNames) :
    mark (Ledger.put fields written w) = mark fields := by
  refine mark_congr (alikeIn_of_get? fun entry inside => Ledger.get?_put_ne fields ?_ w)
  rintro rfl
  exact other (List.mem_map_of_mem inside)

/-- An element of a list is decoded by itself: with another one in its place the others stay. -/
theorem elements_set {position : Nat} {items : List Value} {list : List α} {n : Nat}
    (decoded : elements decode position items = .ok list) (element : items[n]? = some v) :
    ∃ a, list[n]? = some a ∧ decode v = .ok a ∧
      ∀ w b, decode w = .ok b → elements decode position (items.set n w) = .ok (list.set n b) := by
  induction items generalizing position list n with
  | nil => simp at element
  | cons first rest ih =>
    simp only [elements, bind_eq_ok, under_eq_ok, pure_eq_ok] at decoded
    obtain ⟨a, head, others, tail, rfl⟩ := decoded
    cases n with
    | zero =>
      obtain rfl := Option.some.inj element
      refine ⟨a, rfl, head, fun w b read => ?_⟩
      simp only [List.set_cons_zero, elements, read, tail, under_ok, ok_bind]
      rfl
    | succ n =>
      obtain ⟨b, found, read, swap⟩ := ih tail element
      refine ⟨b, found, read, fun w c fresh => ?_⟩
      simp only [List.set_cons_succ, elements, head, swap w c fresh, under_ok, ok_bind]
      rfl

/-- As many elements are decoded as a list has. -/
theorem length_of_elements {position : Nat} {items : List Value} {list : List α}
    (decoded : elements decode position items = .ok list) : list.length = items.length := by
  induction items generalizing position list with
  | nil =>
    obtain rfl := Except.ok.inj decoded
    rfl
  | cons first rest ih =>
    simp only [elements, bind_eq_ok, under_eq_ok, pure_eq_ok] at decoded
    obtain ⟨a, head, others, tail, rfl⟩ := decoded
    rw [List.length_cons, List.length_cons, ih tail]

/-- An element of a field that is a list is decoded by itself. -/
theorem field_tuple_set {items : List Value} {list : List α} {n : Nat}
    (decoded : field fields name [] (tuple decode) = .ok list)
    (present : fields.get? name = some (.list items)) (element : items[n]? = some v) :
    ∃ a, list[n]? = some a ∧ decode v = .ok a ∧ ∀ w b, decode w = .ok b →
      field (Ledger.put fields name (.list (items.set n w))) name [] (tuple decode) =
        .ok (list.set n b) := by
  rw [field, present, under_eq_ok] at decoded
  obtain ⟨a, found, read, swap⟩ := elements_set decoded element
  exact ⟨a, found, read, fun w b fresh =>
    field_of_get? (Ledger.get?_put_self _ _ _) (swap w b fresh)⟩

/-- What stands in an optional field is decoded by itself. -/
theorem field_nullable_set {found : Option α}
    (decoded : field fields name none (nullable decode) = .ok found)
    (present : fields.get? name = some v) (solid : v.isNull = false) :
    ∃ a, found = some a ∧ decode v = .ok a ∧ ∀ w b, w.isNull = false → decode w = .ok b →
      field (Ledger.put fields name w) name none (nullable decode) = .ok (some b) := by
  rw [field, present, under_eq_ok] at decoded
  rcases nullable_eq_ok.mp decoded with ⟨rfl, -⟩ | ⟨-, a, read, rfl⟩
  · cases solid
  · exact ⟨a, rfl, read, fun w b solid fresh =>
      field_of_get? (Ledger.get?_put_self _ _ _) (nullable_of_present solid fresh)⟩

/-- A term in a term is decoded by itself: with another one in its place, the term around it is the
one with this term exchanged. -/
theorem termOfKind_change {deeper : Value → Decoded Term} {kind : TermKind} {t : Term}
    {steps : Path} {change : Value → Fields}
    (decoded : termOfKind levels deeper kind fields = .ok t)
    (holds : Holds (termFields kind) fields steps v change) :
    ∃ s, deeper v = .ok s ∧ ∀ w s', w.isNull = false → deeper w = .ok s' →
      ∃ t', termOfKind levels deeper kind (change w) = .ok t' ∧ ∀ old new path,
        Term.Exchanged old new path s s' →
          Term.Exchanged old new (.kind kind.name :: (steps ++ path)) t t' := by
  cases holds with
  | @listed name items n v entry present element =>
    cases kind with
    | compound =>
      obtain rfl : name = "params" := by simpa [termFields, common] using entry
      simp only [termOfKind, bind_eq_ok, pure_eq_ok] at decoded
      obtain ⟨mark, markRead, name, nameRead, arity, arityRead, params, paramsRead, rfl⟩ := decoded
      obtain ⟨s, found, read, swap⟩ := field_tuple_set paramsRead present element
      refine ⟨s, read, fun w s' _ fresh => ⟨.compound mark name arity (params.set n s'), ?_,
        fun _ _ _ inside => .params found inside⟩⟩
      simp [termOfKind, mark_put, field_put_ne, commonNames, common, markRead, nameRead, arityRead,
        swap w s' fresh]
    | list =>
      obtain rfl : name = "items" := by simpa [termFields, common] using entry
      simp only [termOfKind, bind_eq_ok, pure_eq_ok] at decoded
      obtain ⟨mark, markRead, items, itemsRead, head, headRead, tail, tailRead, rfl⟩ := decoded
      obtain ⟨s, found, read, swap⟩ := field_tuple_set itemsRead present element
      refine ⟨s, read, fun w s' _ fresh => ⟨.list mark (items.set n s') head tail, ?_,
        fun _ _ _ inside => .items found inside⟩⟩
      simp [termOfKind, mark_put, field_put_ne, commonNames, common, markRead, headRead, tailRead,
        swap w s' fresh]
    | group =>
      obtain rfl : name = "content" := by simpa [termFields, common] using entry
      simp only [termOfKind, bind_eq_ok, pure_eq_ok] at decoded
      obtain ⟨mark, markRead, content, contentRead, rfl⟩ := decoded
      obtain ⟨s, found, read, swap⟩ := field_tuple_set contentRead present element
      refine ⟨s, read, fun w s' _ fresh => ⟨.group mark (content.set n s'), ?_,
        fun _ _ _ inside => .content found inside⟩⟩
      simp [termOfKind, mark_put, commonNames, common, markRead, swap w s' fresh]
    | _ => simp [termFields, common] at entry
  | @single name v entry present solid =>
    cases kind with
    | operation =>
      simp only [termOfKind, bind_eq_ok, pure_eq_ok] at decoded
      obtain ⟨mark, markRead, symbol, symbolRead, left, leftRead, right, rightRead, rfl⟩ := decoded
      obtain rfl | rfl : name = "left" ∨ name = "right" := by simpa [termFields, common] using entry
      · obtain ⟨s, rfl, read, swap⟩ := field_nullable_set leftRead present solid
        refine ⟨s, read, fun w s' solid fresh => ⟨.operation mark symbol (some s') right, ?_,
          fun _ _ _ inside => .left inside⟩⟩
        simp [termOfKind, mark_put, field_put_ne, commonNames, common, markRead, symbolRead,
          rightRead, swap w s' solid fresh]
      · obtain ⟨s, rfl, read, swap⟩ := field_nullable_set rightRead present solid
        refine ⟨s, read, fun w s' solid fresh => ⟨.operation mark symbol left (some s'), ?_,
          fun _ _ _ inside => .right inside⟩⟩
        simp [termOfKind, mark_put, field_put_ne, commonNames, common, markRead, symbolRead,
          leftRead, swap w s' solid fresh]
    | list =>
      simp only [termOfKind, bind_eq_ok, pure_eq_ok] at decoded
      obtain ⟨mark, markRead, items, itemsRead, head, headRead, tail, tailRead, rfl⟩ := decoded
      obtain rfl | rfl : name = "head" ∨ name = "tail" := by simpa [termFields, common] using entry
      · obtain ⟨s, rfl, read, swap⟩ := field_nullable_set headRead present solid
        refine ⟨s, read, fun w s' solid fresh => ⟨.list mark items (some s') tail, ?_,
          fun _ _ _ inside => .head inside⟩⟩
        simp [termOfKind, mark_put, field_put_ne, commonNames, common, markRead, itemsRead,
          tailRead, swap w s' solid fresh]
      · obtain ⟨s, rfl, read, swap⟩ := field_nullable_set tailRead present solid
        refine ⟨s, read, fun w s' solid fresh => ⟨.list mark items head (some s'), ?_,
          fun _ _ _ inside => .tail inside⟩⟩
        simp [termOfKind, mark_put, field_put_ne, commonNames, common, markRead, itemsRead,
          headRead, swap w s' solid fresh]
    | param =>
      obtain rfl : name = "value" := by simpa [termFields, common] using entry
      simp only [termOfKind, bind_eq_ok, pure_eq_ok] at decoded
      obtain ⟨mark, markRead, value, valueRead, rfl⟩ := decoded
      obtain ⟨s, rfl, read, swap⟩ := field_nullable_set valueRead present solid
      refine ⟨s, read, fun w s' solid fresh => ⟨.param mark (some s'), ?_,
        fun _ _ _ inside => .value inside⟩⟩
      simp [termOfKind, mark_put, commonNames, common, markRead, swap w s' solid fresh]
    | _ => simp [termFields, common] at entry

/-- A term in an item is decoded by itself: with another one in its place, the item says the same
with this term exchanged. -/
theorem itemBody_change {span : String} {kind : ItemKind} {body : ItemBody} {steps : Path}
    {change : Value → Fields} (decoded : itemBody kind fields = .ok body)
    (holds : Holds (itemFields span kind) fields steps v change) :
    ∃ s, topTerm v = .ok s ∧ ∀ w s', w.isNull = false → topTerm w = .ok s' →
      ∃ body', itemBody kind (change w) = .ok body' ∧ ∀ old new path,
        Term.Exchanged old new path s s' →
          ItemBody.Exchanged old new (.kind kind.name :: (steps ++ path)) body body' := by
  cases holds with
  | @listed name items n v entry present element =>
    cases kind with
    | rule =>
      obtain rfl : name = "body" := by simpa [itemFields, bodyFields, common] using entry
      simp only [itemBody, bind_eq_ok, pure_eq_ok] at decoded
      obtain ⟨head, headRead, body, bodyRead, rfl⟩ := decoded
      obtain ⟨s, found, read, swap⟩ := field_tuple_set bodyRead present element
      refine ⟨s, read, fun w s' _ fresh => ⟨.rule head (body.set n s'), ?_,
        fun _ _ _ inside => .goal found inside⟩⟩
      simp [itemBody, field_put_ne, headRead, swap w s' fresh]
    | directive =>
      obtain rfl : name = "directives" := by simpa [itemFields, bodyFields, common] using entry
      simp only [itemBody, bind_eq_ok, pure_eq_ok] at decoded
      obtain ⟨goals, goalsRead, rfl⟩ := decoded
      obtain ⟨s, found, read, swap⟩ := field_tuple_set goalsRead present element
      refine ⟨s, read, fun w s' _ fresh => ⟨.directive (goals.set n s'), ?_,
        fun _ _ _ inside => .directive found inside⟩⟩
      simp [itemBody, swap w s' fresh]
    | _ => simp [itemFields, bodyFields, common] at entry
  | @single name v entry present solid =>
    cases kind with
    | rule =>
      obtain rfl : name = "head" := by simpa [itemFields, bodyFields, common] using entry
      simp only [itemBody, bind_eq_ok, pure_eq_ok] at decoded
      obtain ⟨head, headRead, body, bodyRead, rfl⟩ := decoded
      obtain ⟨s, rfl, read, swap⟩ := field_nullable_set headRead present solid
      refine ⟨s, read, fun w s' solid fresh => ⟨.rule (some s') body, ?_,
        fun _ _ _ inside => .ruleHead inside⟩⟩
      simp [itemBody, field_put_ne, bodyRead, swap w s' solid fresh]
    | fact =>
      obtain rfl : name = "head" := by simpa [itemFields, bodyFields, common] using entry
      simp only [itemBody, bind_eq_ok, pure_eq_ok] at decoded
      obtain ⟨head, headRead, rfl⟩ := decoded
      obtain ⟨s, rfl, read, swap⟩ := field_nullable_set headRead present solid
      refine ⟨s, read, fun w s' solid fresh => ⟨.fact (some s'), ?_,
        fun _ _ _ inside => .factHead inside⟩⟩
      simp [itemBody, swap w s' solid fresh]
    | _ => simp [itemFields, bodyFields, common] at entry

/-! ## Terms below terms, items and trees -/

/-- A term that stands in an object stands in a field that can have terms, and only this field
changes with it. -/
theorem exists_put_of_holds {table : List (String × Rule)} {steps : Path} {change : Value → Fields}
    (holds : Holds table fields steps v change) (w : Value) :
    ∃ name rule x, (name, rule) ∈ table ∧ rule.hasTerms ∧ change w = Ledger.put fields name x := by
  cases holds with
  | listed entry present element => exact ⟨_, _, _, entry, rfl, rfl⟩
  | single entry present solid => exact ⟨_, _, _, entry, rfl, rfl⟩

/-- The kind of a node stays when a term in it is exchanged. -/
theorem get?_type_change {rule : Rule} {form : Form} {steps : Path} {change : Value → Fields}
    (shape : form? levels rule fields = some form) (holds : Holds form.table fields steps v change)
    (w : Value) : (change w).get? "type" = fields.get? "type" := by
  obtain ⟨name, wanted, x, entry, terms, same⟩ := exists_put_of_holds holds w
  rw [same]
  refine Ledger.get?_put_ne fields ?_ x
  rintro rfl
  have plain := plain_of_tag shape entry
  cases wanted <;> simp_all [Rule.isPlain, Rule.hasTerms]

/-- A term below a term is decoded by itself: with another one in its place, the whole term is the
one with this term exchanged. -/
theorem term_exchanged {left : Nat} {address : List Nat} {path : Path} {x : Value} {t : Term}
    (leads : Leads ⟨levels, .term, some v⟩ address path ⟨left, .term, some x⟩)
    (decoded : term levels v = .ok t) :
    ∃ old, term left x = .ok old ∧ ∀ new fresh, new.isNull = false → term left new = .ok fresh →
      ∃ t', term levels (Value.replaceAt new path v) = .ok t' ∧
        (Value.replaceAt new path v).isNull = false ∧ Term.Exchanged old fresh path t t' := by
  -- The levels go down with every step to a term below, so the way is taken apart step by step.
  induction levels generalizing v address path t with
  | zero => exact absurd (under_eq_ok.mp decoded) fail_ne_ok
  | succ levels ih =>
    cases leads with
    | here =>
      obtain ⟨kind, named⟩ : ∃ kind, Site.label ⟨levels + 1, .term, some x⟩ = [.kind kind] := by
        cases x <;> exact ⟨_, rfl⟩
      refine ⟨t, decoded, fun new fresh solid read => ?_⟩
      rw [named, Value.replaceAt, Value.replaceAt]
      exact ⟨fresh, read, solid, .here kind⟩
    | further first rest =>
      obtain ⟨fields, form, steps, u, change, address', path', stands, shape, holds, deeper, same,
        replaced⟩ := first.holds rest (.inl rfl)
      obtain rfl := Option.some.inj stands
      have tag (w : Value) := get?_type_change shape holds w
      cases shape
      simp only [term, under_eq_ok, termKind_eq_kindIn] at decoded
      obtain ⟨s, read, swap⟩ := termOfKind_change decoded holds
      obtain ⟨old, oldRead, exchange⟩ := ih deeper read
      refine ⟨old, oldRead, fun new fresh solid newRead => ?_⟩
      obtain ⟨s', sRead, sSolid, exchanged⟩ := exchange new fresh solid newRead
      obtain ⟨t', tRead, around⟩ := swap _ s' sSolid sRead
      rw [Site.replaceAt_label, replaced, same]
      refine ⟨t', ?_, rfl, around old fresh path' exchanged⟩
      rw [term, under_eq_ok, termKind_eq_kindIn, kindIn_congr _ _ (tag _), tRead]

/-- The span of an item is decoded as before when another field is written. -/
theorem itemSpan_put {written : String} (first : written ≠ "fullRange")
    (second : written ≠ "full_range") :
    itemSpan (Ledger.put fields written w) = itemSpan fields := by
  rw [itemSpan, itemSpan, Ledger.has, Ledger.has, Ledger.get?_put_ne fields first,
    field_put_ne first, field_put_ne second]

/-- The fields of items that can have terms are not those of every item. -/
theorem not_mem_itemNames {span : String} {kind : ItemKind} {wanted : Rule}
    (entry : (name, wanted) ∈ itemFields span kind) (terms : wanted.hasTerms) :
    name ∉ itemNames := by
  have own : (name, wanted) ∈ bodyFields kind := by
    simp only [itemFields, common, List.cons_append, List.nil_append, List.mem_cons,
      Prod.mk.injEq] at entry
    rcases entry with ⟨-, rfl⟩ | ⟨-, rfl⟩ | ⟨-, rfl⟩ | ⟨-, rfl⟩ | own
    · cases terms
    · cases terms
    · cases terms
    · cases terms
    · exact own
  cases kind <;> simp [bodyFields] at own <;> grind [itemNames, commonNames, common]

/-- A term below an item is decoded by itself: with another one in its place, the item is the one
with this term exchanged. -/
theorem item_exchanged {left : Nat} {address : List Nat} {path : Path} {x : Value} {found : Item}
    (leads : Leads ⟨levels, .item, some v⟩ address path ⟨left, .term, some x⟩)
    (decoded : item v = .ok found) :
    ∃ old, term left x = .ok old ∧ ∀ new fresh, new.isNull = false → term left new = .ok fresh →
      ∃ body, item (Value.replaceAt new path v) = .ok { found with body } ∧
        ItemBody.Exchanged old fresh path found.body body := by
  cases leads with
  | further first rest =>
    obtain ⟨fields, form, steps, u, change, address', path', stands, shape, holds, deeper, same,
      replaced⟩ := first.holds rest (.inr rfl)
    obtain rfl := Option.some.inj stands
    have tag (w : Value) := get?_type_change shape holds w
    cases shape
    simp only [item, under_eq_ok, itemKind_eq_kindIn, bind_eq_ok, pure_eq_ok] at decoded
    obtain ⟨mark, markRead, span, spanRead, body, bodyRead, rfl⟩ := decoded
    obtain ⟨s, read, swap⟩ := itemBody_change bodyRead holds
    obtain ⟨old, oldRead, exchange⟩ := term_exchanged deeper read
    refine ⟨old, oldRead, fun new fresh solid newRead => ?_⟩
    obtain ⟨s', sRead, sSolid, exchanged⟩ := exchange new fresh solid newRead
    obtain ⟨body', bodyRead, around⟩ := swap _ s' sSolid sRead
    obtain ⟨name, wanted, y, entry, terms, put⟩ :=
      exists_put_of_holds holds (Value.replaceAt new path' u)
    have other : name ∉ itemNames := not_mem_itemNames entry terms
    rw [Site.replaceAt_label, replaced, same]
    refine ⟨body', ?_, around old fresh path' exchanged⟩
    simp only [item, under_eq_ok, itemKind_eq_kindIn, bind_eq_ok, pure_eq_ok]
    refine ⟨mark, ?_, span, ?_, body', ?_, rfl⟩
    · rw [put, mark_put fun inside => other (List.mem_append_left _ inside), markRead]
    · rw [put, itemSpan_put (by rintro rfl; simp [itemNames] at other)
        (by rintro rfl; simp [itemNames] at other), spanRead]
    · rw [kindIn_congr _ _ (tag _), bodyRead]

end Decode

namespace Tree

open Grammar Decode

/-- The items of a tree are decoded one by one: with another one in the place of an item, the tree
is the one with this item exchanged. -/
theorem ofValue_set {fields : Fields} {items : List Value} {n : Nat} {v : Value} {tree : Tree}
    (decoded : ofValue (.object fields) = .ok tree)
    (present : fields.get? "predicates" = some (.list items)) (element : items[n]? = some v) :
    ∃ found, tree.items[n]? = some found ∧ item v = .ok found ∧ ∀ w other, item w = .ok other →
      ofValue (.object (Ledger.put fields "predicates" (.list (items.set n w)))) =
        .ok { tree with items := tree.items.set n other } := by
  obtain ⟨_, same, rooted, read⟩ := ofValue_eq_ok.mp decoded
  obtain rfl := Value.object.inj same
  simp only [Decode.tree, bind_eq_ok, pure_eq_ok] at read
  obtain ⟨file, fileRead, list, listRead, rfl⟩ := read
  obtain ⟨found, among, itemRead, swap⟩ := field_tuple_set listRead present element
  refine ⟨found, among, itemRead, fun w other fresh => ofValue_eq_ok.mpr ⟨_, rfl, ?_, ?_⟩⟩
  · rw [← has_put present, rooted]
  · simp [Decode.tree, field_put_ne, fileRead, swap w other fresh]

/-- A term of a tree is decoded by itself: with another one in its place, the tree is the one with
this term exchanged. -/
theorem ofValue_exchanged {d x : Value} {tree : Tree} {levels : Nat} {address : List Nat}
    {path : Path} (decoded : ofValue d = .ok tree)
    (leads : Leads (.root d) address path ⟨levels, .term, some x⟩) :
    ∃ old, term levels x = .ok old ∧ ∀ new fresh, new.isNull = false → term levels new = .ok fresh →
      ∃ tree', ofValue (Value.replaceAt new path d) = .ok tree' ∧
        Tree.Exchanged old fresh path tree tree' := by
  cases leads with
  | further first rest =>
    cases first with
    | @field _ _ fields form n name wanted asked v shape entry present asks =>
      cases shape
      have inside := List.mem_of_getElem? entry
      have terms := hasTerms_of_asked? asks (rest.hasTerms rfl)
      simp only [rootFields, List.mem_cons, Prod.mk.injEq, List.not_mem_nil, or_false] at inside
      obtain ⟨rfl, rfl⟩ | ⟨rfl, rfl⟩ := inside
      · cases terms
      · obtain rfl : .list .item = asked := by simpa [Rule.asked?] using asks
        cases rest with
        | further second rest =>
          cases second with
          | field shape => cases shape
          | missing shape => cases shape
          | @element _ _ items n v element =>
            obtain ⟨found, among, itemRead, swap⟩ := ofValue_set decoded present element
            obtain ⟨old, oldRead, exchange⟩ := item_exchanged rest itemRead
            refine ⟨old, oldRead, fun new fresh solid newRead => ?_⟩
            obtain ⟨body, bodyRead, exchanged⟩ := exchange new fresh solid newRead
            refine ⟨_, ?_, .item among exchanged⟩
            rw [← swap _ _ bodyRead, Site.replaceAt_label, Value.replaceAt_key present]
            exact congrArg (fun w => ofValue (.object (Ledger.put fields "predicates" w)))
              (Value.replaceAt_index element)
    | missing shape whole => cases shape; cases whole

end Tree

end PredicateIndex
