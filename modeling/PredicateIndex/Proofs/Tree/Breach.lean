import PredicateIndex.Proofs.Tree.Decoder
import PredicateIndex.Proofs.Tree.Site

/-!
# Broken rules and who reports them

A value that is no tree breaks a rule at one or more of its sites, and each break has its words.
What stands at a site is judged by itself here: a list breaks no rule because one of its elements
does, and a term that is too deep is not looked into.

A decoder reports the breaks of a part of a value if it succeeds only where there is none and else
gives the first of them. Main result: this is kept by everything that decoders are made of. Two
steps report the first of all breaks, if each of them does so in its part and the part of the first
is checked before that of the second; fields are such parts in the order of their table, and the
elements of a list in their own order.
-/
namespace PredicateIndex

namespace Grammar

/-! ## Breaks -/

/-- Why a value stands for no integer. -/
inductive NoInteger : Value → Problem → Prop where
  /-- A double that is infinite or undefined. -/
  | infinite (x : Binary64) (endless : x.isFinite = false) : NoInteger (.float x) .notFinite
  /-- A double with a fraction. -/
  | fraction (x : Binary64) (finite : x.isFinite) (broken : x.toInt? = none) :
    NoInteger (.float x) .fractional
  /-- A whole double of 64 bits or more. -/
  | large (x : Binary64) (n : Int) (finite : x.isFinite) (whole : x.toInt? = some n)
    (outside : n ≤ -9223372036854775808 ∨ 9223372036854775808 ≤ n) :
    NoInteger (.float x) .oversized
  /-- A text with an unpaired surrogate. -/
  | surrogate (s : String) (unpaired : Text.isWellFormed s = false) :
    NoInteger (.text s) .notCharacters
  /-- A text that is no numeral. -/
  | word (s : String) (characters : Text.isWellFormed s)
    (read : Numeral.readInteger s = .error .malformed) : NoInteger (.text s) .notIntegerText
  /-- A numeral that is too long. -/
  | long (s : String) (characters : Text.isWellFormed s)
    (read : Numeral.readInteger s = .error .oversized) : NoInteger (.text s) .oversized
  /-- A null. -/
  | null : NoInteger .null .notInteger
  /-- A list. -/
  | list (items : List Value) : NoInteger (.list items) .notInteger
  /-- An object. -/
  | object (fields : Fields) : NoInteger (.object fields) .notInteger

/-- Why a value stands for no number. -/
inductive NoNumber : Value → Problem → Prop where
  /-- A text with an unpaired surrogate. -/
  | surrogate (s : String) (unpaired : Text.isWellFormed s = false) :
    NoNumber (.text s) .notCharacters
  /-- A text that is no numeral of any kind. -/
  | word (s : String) (characters : Text.isWellFormed s)
    (read : Numeral.readInteger s = .error .malformed) (decimal : Numeral.readDecimal? s = none) :
    NoNumber (.text s) .notIntegerText
  /-- A text that starts as a numeral which is too long, and is none of a double. -/
  | long (s : String) (characters : Text.isWellFormed s)
    (read : Numeral.readInteger s = .error .oversized) (decimal : Numeral.readDecimal? s = none) :
    NoNumber (.text s) .oversized
  /-- A null. -/
  | null : NoNumber .null .notInteger
  /-- A list. -/
  | list (items : List Value) : NoNumber (.list items) .notInteger
  /-- An object. -/
  | object (fields : Fields) : NoNumber (.object fields) .notInteger

/-- Why a text or another value is not the tag of an operator. -/
inductive NoOperatorTag : Value → Problem → Prop where
  /-- A text with an unpaired surrogate. -/
  | surrogate (s : String) (unpaired : Text.isWellFormed s = false) :
    NoOperatorTag (.text s) .notCharacters
  /-- Another tag. -/
  | tag (s : String) (characters : Text.isWellFormed s) (other : s ≠ "operator") :
    NoOperatorTag (.text s) .notOperatorTag
  /-- Another value. -/
  | value (v : Value) (other : ∀ s, v ≠ .text s) : NoOperatorTag v .notOperatorTag

/-- What stands at a site breaks the rule of the site by itself, which is put in the words of a
problem. -/
inductive Breaks : Site → Problem → Prop where
  /-- A field has to be present and is not. -/
  | missing (levels : Nat) (rule : Rule) : Breaks ⟨levels, rule, none⟩ .required
  /-- No text in the place of one. -/
  | text (levels : Nat) (v : Value) (other : ∀ s, v ≠ .text s) :
    Breaks ⟨levels, .text, some v⟩ .notText
  /-- No integer in the place of one. -/
  | integer (levels : Nat) (v : Value) (problem : Problem) (why : NoInteger v problem) :
    Breaks ⟨levels, .integer, some v⟩ problem
  /-- No number in the place of one. -/
  | number (levels : Nat) (v : Value) (problem : Problem) (why : NoNumber v problem) :
    Breaks ⟨levels, .number, some v⟩ problem
  /-- Neither a text nor a list of texts in the place of a payload. -/
  | payload (levels : Nat) (v : Value) (other : ¬IsPayload v) :
    Breaks ⟨levels, .payload, some v⟩ .notText
  /-- No object in the place of a point. -/
  | point (levels : Nat) (v : Value) (other : ∀ fields, v ≠ .object fields) :
    Breaks ⟨levels, .point, some v⟩ (.notObject "SpanPoint")
  /-- No object in the place of a span. -/
  | span (levels : Nat) (v : Value) (other : ∀ fields, v ≠ .object fields) :
    Breaks ⟨levels, .span, some v⟩ (.notObject "Span")
  /-- Something else in the place of the tag of an operator. -/
  | operatorTag (levels : Nat) (v : Value) (problem : Problem) (why : NoOperatorTag v problem) :
    Breaks ⟨levels, .operatorTag, some v⟩ problem
  /-- No list in the place of one. -/
  | list (levels : Nat) (rule : Rule) (v : Value) (other : ∀ items, v ≠ .list items) :
    Breaks ⟨levels, .list rule, some v⟩ .notTuple
  /-- An operator for which no level is left. -/
  | deepOperator (v : Value) : Breaks ⟨0, .operator, some v⟩ .tooDeep
  /-- No object in the place of an operator. -/
  | operator (levels : Nat) (v : Value) (other : ∀ fields, v ≠ .object fields) :
    Breaks ⟨levels + 1, .operator, some v⟩ (.notObject "Operator")
  /-- A term for which no level is left. -/
  | deepTerm (v : Value) : Breaks ⟨0, .term, some v⟩ .tooDeep
  /-- No object in the place of an item. -/
  | item (levels : Nat) (v : Value) (other : ∀ fields, v ≠ .object fields) :
    Breaks ⟨levels, .item, some v⟩ (.notObject "UnknownItem")

/-- One address is checked before another. -/
def Earlier (address other : List Nat) : Prop := List.Lex (· < ·) address other

/-- Of two addresses only one is checked before the other. -/
theorem Earlier.not_earlier {address other : List Nat} (earlier : Earlier address other) :
    ¬Earlier other address :=
  List.lex_asymm (fun before after => Nat.lt_asymm before after) earlier

/-- Breaks by the addresses and paths of their sites. -/
abbrev Breaches := List Nat → Path → Problem → Prop

/-- The breaks at a site and below it. -/
def Site.breaches (site : Site) : Breaches := fun address path problem =>
  ∃ last, Leads site address path last ∧ Breaks last problem

/-- The breaks in the part of a site with the given number, seen from the site without its kind. -/
def Site.partBreaches (site : Site) (n : Nat) : Breaches := fun address path problem =>
  ∃ step next rest after, Below site n step next ∧ next.breaches rest after problem ∧
    address = n :: rest ∧ path = step :: after

/-- The breaks in the parts of a site from the given number on. -/
def Site.breachesFrom (site : Site) (start : Nat) : Breaches := fun address path problem =>
  ∃ n, start ≤ n ∧ site.partBreaches n address path problem

/-- The breaks of a value under the rule of its field. -/
def askedBreaches (levels : Nat) (wanted : Rule) (v : Value) : Breaches :=
  fun address path problem => ∃ asked, wanted.asked? v = some asked ∧
    (Site.mk levels asked (some v)).breaches address path problem

/-- A break is at the site itself or below it. -/
theorem Site.breaches_iff {site : Site} {address : List Nat} {path : Path} {problem : Problem} :
    site.breaches address path problem ↔
      address = [] ∧ path = site.label ∧ Breaks site problem ∨
      ∃ after, path = site.label ++ after ∧ site.breachesFrom 0 address after problem := by
  constructor
  · rintro ⟨last, leads, breaks⟩
    cases leads with
    | here => exact .inl ⟨rfl, rfl, breaks⟩
    | further first rest =>
      exact .inr ⟨_, rfl, _, Nat.zero_le _, _, _, _, _, first, ⟨last, rest, breaks⟩, rfl, rfl⟩
  · rintro (⟨rfl, rfl, breaks⟩ | ⟨after, rfl, n, -, step, next, rest, path, first, below, rfl, rfl⟩)
    · exact ⟨site, .here site, breaks⟩
    · obtain ⟨last, leads, breaks⟩ := below
      exact ⟨last, .further first leads, breaks⟩

end Grammar

namespace Decode

open Grammar

variable {α β : Type} {levels : Nat} {rule wanted : Rule} {fields : Fields} {site : Site}

/-! ## Reports -/

/-- A decoder succeeds only where no rule is broken, and else reports the first break. -/
def Reports (breaches : Breaches) : Decoded α → Prop
  | .ok _ => ∀ address path problem, ¬breaches address path problem
  | .error fault => ∃ address, breaches address fault.path fault.problem ∧
      ∀ other path problem, breaches other path problem → ¬Earlier other address

/-- The same breaks are reported alike. -/
theorem Reports.congr {breaches others : Breaches} {decoded : Decoded α}
    (reports : Reports breaches decoded)
    (same : ∀ address path problem, others address path problem ↔ breaches address path problem) :
    Reports others decoded := by
  have equal : others = breaches := by
    funext address path problem
    exact propext (same address path problem)
  exact equal ▸ reports

/-- Where nothing can be broken every success is right. -/
theorem reports_ok {breaches : Breaches} (a : α)
    (none : ∀ address path problem, ¬breaches address path problem) :
    Reports breaches (.ok a : Decoded α) := none

/-- What is made of a result does not matter for the report. -/
theorem Reports.map {breaches : Breaches} {decoded : Decoded α} (reports : Reports breaches decoded)
    (f : α → β) : Reports breaches (decoded.map f) := by
  cases decoded <;> exact reports

/-- Two steps report the first break, if each does so in its part and the part of the first is
checked before that of the second. -/
theorem Reports.bind {part rest : Breaches} {first : Decoded α} {next : α → Decoded β}
    (apart : ∀ address path problem other path' problem', part address path problem →
      rest other path' problem' → Earlier address other)
    (reports : Reports part first) (after : ∀ a, Reports rest (next a)) :
    Reports (fun address path problem => part address path problem ∨ rest address path problem)
      (first >>= next) := by
  cases first with
  | error fault =>
    obtain ⟨address, broken, least⟩ := reports
    refine ⟨address, .inl broken, fun other path problem either => ?_⟩
    rcases either with among | later
    · exact least other path problem among
    · exact (apart _ _ _ _ _ _ broken later).not_earlier
  | ok a =>
    refine (after a).congr fun address path problem => ?_
    exact or_iff_right (reports address path problem)

/-- A step in front of a path changes the path of the report only. -/
theorem Reports.under {breaches : Breaches} {decoded : Decoded α}
    (reports : Reports breaches decoded) (step : PathStep) :
    Reports (fun address path problem => ∃ rest, path = step :: rest ∧
      breaches address rest problem) (Decode.under step decoded) := by
  cases decoded with
  | ok a =>
    rintro address path problem ⟨rest, -, broken⟩
    exact reports address rest problem broken
  | error fault =>
    obtain ⟨address, broken, least⟩ := reports
    refine ⟨address, ⟨fault.path, rfl, broken⟩, ?_⟩
    rintro other path problem ⟨rest, -, among⟩
    exact least other rest problem among

/-- The number of a part in front of an address changes the addresses only. -/
theorem Reports.numbered {breaches : Breaches} {decoded : Decoded α}
    (reports : Reports breaches decoded) (n : Nat) :
    Reports (fun address path problem => ∃ rest, address = n :: rest ∧
      breaches rest path problem) decoded := by
  cases decoded with
  | ok a =>
    rintro address path problem ⟨rest, -, broken⟩
    exact reports rest path problem broken
  | error fault =>
    obtain ⟨address, broken, least⟩ := reports
    refine ⟨n :: address, ⟨address, rfl, broken⟩, ?_⟩
    rintro other path problem ⟨rest, rfl, among⟩ earlier
    rcases List.cons_lex_cons_iff.mp earlier with less | ⟨-, earlier⟩
    · exact Nat.lt_irrefl n less
    · exact least rest path problem among earlier

/-! ## Sites without parts -/

/-- At a site with no part only the site itself can be broken. -/
theorem breaches_of_leaf (leaf : ∀ n step next, ¬Below site n step next) {address : List Nat}
    {path : Path} {problem : Problem} :
    site.breaches address path problem ↔
      address = [] ∧ path = site.label ∧ Breaks site problem := by
  rw [Site.breaches_iff]
  refine or_iff_left ?_
  rintro ⟨after, -, n, -, step, next, -, -, first, -⟩
  exact leaf n step next first

/-- A success at a site with no part is right if the site is not broken. -/
theorem reports_leaf_ok (leaf : ∀ n step next, ¬Below site n step next) (a : α)
    (sound : ∀ problem, ¬Breaks site problem) : Reports site.breaches (.ok a : Decoded α) := by
  intro address path problem broken
  exact sound problem ((breaches_of_leaf leaf).mp broken).2.2

/-- A fault at a site with no part is right if the site is broken so. -/
theorem reports_leaf_error (leaf : ∀ n step next, ¬Below site n step next) {fault : Fault}
    (located : fault.path = site.label) (broken : Breaks site fault.problem) :
    Reports site.breaches (.error fault : Decoded α) := by
  refine ⟨[], (breaches_of_leaf leaf).mpr ⟨rfl, located, broken⟩, ?_⟩
  intro other path problem among
  obtain ⟨rfl, -⟩ := (breaches_of_leaf leaf).mp among
  exact List.not_lex_nil

/-- A decoder reports the first break of every value under a rule. -/
def Finds (levels : Nat) (rule : Rule) (decode : Value → Decoded α) : Prop :=
  ∀ v, Reports (Site.mk levels rule (some v)).breaches (decode v)

/-- A decoder reports the first break of every value under the rule of a field. -/
def FindsIn (levels : Nat) (wanted : Rule) (decode : Value → Decoded α) : Prop :=
  ∀ v, Reports (askedBreaches levels wanted v) (decode v)

/-- Where a field asks for its rule whatever stands there, its breaks are those under the rule. -/
theorem Finds.inField {decode : Value → Decoded α} (finds : Finds levels rule decode)
    (plain : ∀ v, rule.asked? v = some rule) : FindsIn levels rule decode := by
  intro v
  refine (finds v).congr fun address path problem => ?_
  simp [askedBreaches, plain v]

/-- Where null stands for absence nothing is asked of it. -/
theorem Finds.nullable {decode : Value → Decoded α} (finds : Finds levels rule decode) :
    FindsIn levels (.optional rule) (nullable decode) := by
  intro v
  have present : ∀ w : Value, Rule.asked? (.optional rule) w = some rule →
      Reports (askedBreaches levels (.optional rule) w) ((decode w).map some) := by
    intro w asks
    refine ((finds w).map some).congr fun address path problem => ?_
    simp [askedBreaches, asks]
  cases v with
  | null =>
    refine reports_ok none ?_
    rintro address path problem ⟨asked, asks, -⟩
    simp [Rule.asked?] at asks
  | _ => exact present _ rfl

/-! ## Parts -/

/-- Nothing is broken from a number on if no part has such a number. -/
theorem reports_end {start : Nat} (a : α)
    (last : ∀ n step next, Below site n step next → n < start) :
    Reports (site.breachesFrom start) (pure a : Decoded α) := by
  rintro address path problem ⟨n, later, step, next, -, -, first, -⟩
  exact absurd (last n step next first) (by omega)

/-- The breaks from a number on are those in the part of this number and those after it. -/
theorem reports_part {start : Nat} {first : Decoded α} {next : α → Decoded β}
    (part : Reports (site.partBreaches start) first)
    (after : ∀ a, Reports (site.breachesFrom (start + 1)) (next a)) :
    Reports (site.breachesFrom start) (first >>= next) := by
  refine (Reports.bind ?_ part after).congr fun address path problem => ?_
  · rintro address path problem other path' problem' ⟨-, -, rest, -, -, -, rfl, -⟩
      ⟨n, later, -, -, rest', -, -, -, rfl, -⟩
    exact .rel (by omega)
  · constructor
    · rintro ⟨n, startLe, broken⟩
      rcases Nat.lt_or_eq_of_le startLe with later | rfl
      · exact .inr ⟨n, later, broken⟩
      · exact .inl broken
    · rintro (broken | ⟨n, later, broken⟩)
      · exact ⟨start, Nat.le_refl start, broken⟩
      · exact ⟨n, by omega, broken⟩

/-- The part of a field that is present is what stands there under the rule of the field. -/
theorem partBreaches_of_present {form : Form} {n : Nat} {name : String} {v : Value}
    (shape : form? levels rule fields = some form) (entry : form.table[n]? = some (name, wanted))
    (found : fields.get? name = some v) {address : List Nat} {path : Path} {problem : Problem} :
    (Site.mk levels rule (some (.object fields))).partBreaches n address path problem ↔
      ∃ rest, address = n :: rest ∧ ∃ after, path = .key name :: after ∧
        askedBreaches form.levels wanted v rest after problem := by
  constructor
  · rintro ⟨step, next, rest, after, first, broken, rfl, rfl⟩
    cases first with
    | field shape' entry' present asks =>
      obtain rfl := Option.some.inj (shape.symm.trans shape')
      obtain ⟨rfl, rfl⟩ := Prod.mk.inj (Option.some.inj (entry.symm.trans entry'))
      obtain rfl := Option.some.inj (found.symm.trans present)
      exact ⟨rest, rfl, after, rfl, _, asks, broken⟩
    | missing shape' whole entry' absent =>
      obtain rfl := Option.some.inj (shape.symm.trans shape')
      obtain ⟨rfl, rfl⟩ := Prod.mk.inj (Option.some.inj (entry.symm.trans entry'))
      simp [found] at absent
  · rintro ⟨rest, rfl, after, rfl, asked, asks, broken⟩
    exact ⟨_, _, rest, after, .field shape entry found asks, broken, rfl, rfl⟩

/-- A field that is present is decoded for its part. -/
theorem reports_present {form : Form} {n : Nat} {name : String} {v : Value}
    {decode : Value → Decoded α} (shape : form? levels rule fields = some form)
    (entry : form.table[n]? = some (name, wanted)) (found : fields.get? name = some v)
    (finds : FindsIn form.levels wanted decode) :
    Reports ((Site.mk levels rule (some (.object fields))).partBreaches n)
      (under (.key name) (decode v)) := by
  refine (((finds v).under (.key name)).numbered n).congr fun address path problem => ?_
  exact partBreaches_of_present shape entry found

/-- A field that may be absent is decoded for its part. -/
theorem reports_field {form : Form} {n : Nat} {name : String} {default : α}
    {decode : Value → Decoded α} (shape : form? levels rule fields = some form)
    (loose : form.whole = false) (entry : form.table[n]? = some (name, wanted))
    (finds : FindsIn form.levels wanted decode) :
    Reports ((Site.mk levels rule (some (.object fields))).partBreaches n)
      (field fields name default decode) := by
  rw [field]
  cases found : fields.get? name with
  | some v => exact reports_present shape entry found finds
  | none =>
    rintro address path problem ⟨step, next, rest, after, first, -⟩
    cases first with
    | field shape' entry' present asks =>
      obtain rfl := Option.some.inj (shape.symm.trans shape')
      obtain ⟨rfl, rfl⟩ := Prod.mk.inj (Option.some.inj (entry.symm.trans entry'))
      simp [found] at present
    | missing shape' whole entry' absent =>
      obtain rfl := Option.some.inj (shape.symm.trans shape')
      simp [loose] at whole

/-- A field that has to be present is decoded for its part. -/
theorem reports_required {form : Form} {n : Nat} {name : String} {decode : Value → Decoded α}
    (shape : form? levels rule fields = some form) (whole : form.whole)
    (entry : form.table[n]? = some (name, wanted)) (finds : FindsIn form.levels wanted decode)
    (unlabelled : (Site.mk form.levels wanted none).label = []) :
    Reports ((Site.mk levels rule (some (.object fields))).partBreaches n)
      (required fields name decode) := by
  rw [required]
  cases found : fields.get? name with
  | some v => exact reports_present shape entry found finds
  | none =>
    have leaf : ∀ m step next, ¬Below (Site.mk form.levels wanted none) m step next := by
      rintro m step next ⟨⟩
    have absent : Reports (Site.mk form.levels wanted none).breaches
        (fail .required : Decoded α) :=
      reports_leaf_error leaf unlabelled.symm (.missing form.levels wanted)
    refine ((absent.under (.key name)).numbered n).congr fun address path problem => ?_
    constructor
    · rintro ⟨step, next, rest, after, first, broken, rfl, rfl⟩
      cases first with
      | field shape' entry' present asks =>
        obtain rfl := Option.some.inj (shape.symm.trans shape')
        obtain ⟨rfl, rfl⟩ := Prod.mk.inj (Option.some.inj (entry.symm.trans entry'))
        simp [found] at present
      | missing shape' whole' entry' absent =>
        obtain rfl := Option.some.inj (shape.symm.trans shape')
        obtain ⟨rfl, rfl⟩ := Prod.mk.inj (Option.some.inj (entry.symm.trans entry'))
        exact ⟨rest, rfl, after, rfl, broken⟩
    · rintro ⟨rest, rfl, after, rfl, broken⟩
      exact ⟨_, _, rest, after, .missing shape whole entry found, broken, rfl, rfl⟩

/-- The parts of an object are the fields of its form. -/
theorem lt_length_of_below {form : Form} {n : Nat} {step : PathStep} {next : Site}
    (shape : form? levels rule fields = some form)
    (below : Below ⟨levels, rule, some (.object fields)⟩ n step next) : n < form.table.length := by
  cases below with
  | field shape' entry' present asks =>
    obtain rfl := Option.some.inj (shape.symm.trans shape')
    exact (List.getElem?_eq_some_iff.mp entry').1
  | missing shape' whole entry' absent =>
    obtain rfl := Option.some.inj (shape.symm.trans shape')
    exact (List.getElem?_eq_some_iff.mp entry').1

/-- After the last field of its form nothing in an object is broken. -/
theorem reports_last {form : Form} (shape : form? levels rule fields = some form) (a : α) :
    Reports ((Site.mk levels rule (some (.object fields))).breachesFrom form.table.length)
      (pure a : Decoded α) :=
  reports_end a fun _ _ _ below => lt_length_of_below shape below

/-- An object of the form that is asked for is not broken by itself. -/
theorem not_breaks_of_form {form : Form} {problem : Problem}
    (shape : form? levels rule fields = some form) :
    ¬Breaks ⟨levels, rule, some (.object fields)⟩ problem := by
  intro broken
  cases broken with
  | point _ _ other | span _ _ other | operator _ _ other | item _ _ other => exact other fields rfl
  | _ => simp [form?] at shape

/-- What is broken at an object of the form that is asked for is broken in its parts. -/
theorem reports_object {form : Form} {decoded : Decoded α}
    (shape : form? levels rule fields = some form)
    (unlabelled : (Site.mk levels rule (some (.object fields))).label = [])
    (reports : Reports ((Site.mk levels rule (some (.object fields))).breachesFrom 0) decoded) :
    Reports (Site.mk levels rule (some (.object fields))).breaches decoded := by
  refine reports.congr fun address path problem => ?_
  rw [Site.breaches_iff, or_iff_right fun own => not_breaks_of_form shape own.2.2, unlabelled]
  simp

/-- The path to the parts of a node names its kind. -/
theorem reports_node {form : Form} {decoded : Decoded α} {kind : String}
    (shape : form? levels rule fields = some form)
    (labelled : (Site.mk levels rule (some (.object fields))).label = [.kind kind])
    (reports : Reports ((Site.mk levels rule (some (.object fields))).breachesFrom 0) decoded) :
    Reports (Site.mk levels rule (some (.object fields))).breaches
      (under (.kind kind) decoded) := by
  refine (reports.under (.kind kind)).congr fun address path problem => ?_
  rw [Site.breaches_iff, or_iff_right fun own => not_breaks_of_form shape own.2.2, labelled]
  simp

/-! ## Lists -/

/-- The elements of a list from a position on are decoded for their parts. -/
theorem Finds.elements {decode : Value → Decoded α} (finds : Finds levels rule decode)
    {items : List Value} (start : Nat) (rest : List Value) (remaining : items.drop start = rest) :
    Reports ((Site.mk levels (.list rule) (some (.list items))).breachesFrom start)
      (elements decode start rest) := by
  induction rest generalizing start with
  | nil =>
    refine reports_end [] fun n step next below => ?_
    have length : items.length ≤ start := List.drop_eq_nil_iff.mp remaining
    cases below with
    | element present => exact Nat.lt_of_lt_of_le (List.getElem?_eq_some_iff.mp present).1 length
  | cons v others ih =>
    have present : items[start]? = some v := by
      rw [← Nat.add_zero start, ← List.getElem?_drop, remaining]
      rfl
    have tail : items.drop (start + 1) = others := by
      rw [← List.drop_drop, remaining]
      rfl
    have part : Reports ((Site.mk levels (.list rule) (some (.list items))).partBreaches start)
        (under (.index start) (decode v)) := by
      refine (((finds v).under (.index start)).numbered start).congr fun address path problem => ?_
      constructor
      · rintro ⟨step, next, inner, after, first, broken, rfl, rfl⟩
        cases first with
        | element present' =>
          obtain rfl := Option.some.inj (present.symm.trans present')
          exact ⟨inner, rfl, after, rfl, broken⟩
      · rintro ⟨inner, rfl, after, rfl, broken⟩
        exact ⟨_, _, inner, after, .element present, broken, rfl, rfl⟩
    rw [Decode.elements]
    refine reports_part part fun first => ?_
    have mapped := (ih (start + 1) tail).map (first :: ·)
    exact mapped

/-- A list is decoded element by element, and anything else is refused. -/
theorem Finds.tuple {decode : Value → Decoded α} (finds : Finds levels rule decode) :
    Finds levels (.list rule) (tuple decode) := by
  intro v
  cases v with
  | list items =>
    refine (finds.elements 0 items rfl).congr fun address path problem => ?_
    have sound : ¬Breaks ⟨levels, .list rule, some (.list items)⟩ problem := by
      rintro (_ | _)
      rename_i other
      exact other items rfl
    rw [Site.breaches_iff, or_iff_right fun own => sound own.2.2]
    simp [Site.label]
  | _ =>
    refine reports_leaf_error ?_ rfl (.list levels rule _ (by simp))
    rintro n step next (⟨shape, -⟩ | ⟨shape, -⟩ | _)
    all_goals simp [form?] at shape

end Decode

end PredicateIndex
