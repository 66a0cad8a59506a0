import PredicateIndex.Proofs.Tree.Acceptance
import PredicateIndex.Proofs.Tree.Breach

/-!
# The reported fault is the first one

Decoding a value that is no tree reports one broken rule. Main result: the reported path leads to a
site whose rule is broken with the reported words, and at no site that is checked earlier is a rule
broken.

The proof goes through the decoders one by one, from values without parts over spans and operators
to terms, by induction on the levels that are left, and from there to items and trees.
-/
namespace PredicateIndex

namespace Decode

open Grammar

variable {α β : Type} {levels : Nat} {rule wanted : Rule} {fields : Fields} {site : Site}

/-! ## Values without parts -/

/-- Where no object and no list is asked for, a site has no part. -/
theorem not_below_of_plain {found : Option Value}
    (formless : ∀ fields, form? levels rule fields = none)
    (single : ∀ inner, rule ≠ .list inner) (n : Nat) (step : PathStep) (next : Site) :
    ¬Below ⟨levels, rule, found⟩ n step next := by
  intro below
  cases below with
  | field shape => simp [formless] at shape
  | missing shape => simp [formless] at shape
  | element => exact single _ rfl

/-- The decoder of texts reports the first break. -/
theorem finds_text (levels : Nat) : Finds levels .text text := by
  intro v
  have leaf : ∀ n step next, ¬Below ⟨levels, .text, some v⟩ n step next :=
    not_below_of_plain (fun _ => rfl) (by simp)
  cases v with
  | text s =>
    refine reports_leaf_ok leaf s ?_
    rintro problem (_ | _)
    rename_i other
    exact other s rfl
  | _ => exact reports_leaf_error leaf rfl (.text levels _ (by simp))

/-- A decoder of values without parts judges a value right: it succeeds only if nothing is wrong,
and else says what is. -/
def Judges (wrong : Problem → Prop) (label : Path) : Decoded α → Prop
  | .ok _ => ∀ problem, ¬wrong problem
  | .error fault => fault.path = label ∧ wrong fault.problem

/-- A value without parts that is judged right is reported right. -/
theorem Judges.reports {wrong : Problem → Prop} {decoded : Decoded α}
    (judges : Judges wrong site.label decoded)
    (leaf : ∀ n step next, ¬Below site n step next)
    (breaks : ∀ problem, Breaks site problem ↔ wrong problem) :
    Reports site.breaches decoded := by
  cases decoded with
  | ok a => exact reports_leaf_ok leaf a fun problem broken => judges problem ((breaks _).mp broken)
  | error fault => exact reports_leaf_error leaf judges.1 ((breaks _).mpr judges.2)

/-- Doubles are judged right where an integer is wanted. -/
theorem judges_integer_float (x : Binary64) :
    Judges (NoInteger (.float x)) [] (integer (.float x)) := by
  simp only [integer]
  cases finite : x.isFinite with
  | false => exact ⟨rfl, .infinite x finite⟩
  | true =>
    simp only [Bool.not_true, Bool.false_eq_true, if_false]
    cases whole : x.toInt? with
    | none => exact ⟨rfl, .fraction x finite whole⟩
    | some n =>
      have bounds : (-doubleBound < n && n < doubleBound) = true ↔
          -9223372036854775808 < n ∧ n < 9223372036854775808 := by
        rw [Bool.and_eq_true]
        exact and_congr decide_eq_true_iff decide_eq_true_iff
      by_cases inside : (-doubleBound < n && n < doubleBound) = true
      · simp only [inside, if_true]
        intro problem why
        cases why with
        | infinite _ endless => simp [finite] at endless
        | fraction _ _ broken => simp [whole] at broken
        | large _ m _ whole' outside =>
          obtain rfl := Option.some.inj (whole.symm.trans whole')
          have := bounds.mp inside
          omega
      · have outside : n ≤ -9223372036854775808 ∨ 9223372036854775808 ≤ n := by
          have := mt bounds.mpr inside
          omega
        simp only [inside, Bool.false_eq_true, if_false]
        exact ⟨rfl, .large x n finite whole outside⟩

/-- Texts are judged right where an integer is wanted. -/
theorem judges_integer_text (s : String) :
    Judges (NoInteger (.text s)) [] (integer (.text s)) := by
  simp only [integer]
  cases characters : Text.isWellFormed s with
  | false => exact ⟨rfl, .surrogate s characters⟩
  | true =>
    simp only [Bool.not_true, Bool.false_eq_true, if_false]
    cases read : Numeral.readInteger s with
    | ok n =>
      intro problem why
      cases why with
      | surrogate _ unpaired => simp [characters] at unpaired
      | word _ _ read' => simp [read] at read'
      | long _ _ read' => simp [read] at read'
    | error refusal =>
      cases refusal with
      | malformed => exact ⟨rfl, .word s characters read⟩
      | oversized => exact ⟨rfl, .long s characters read⟩

/-- The decoder of integers reports the first break. -/
theorem finds_integer (levels : Nat) : Finds levels .integer integer := by
  intro v
  have judges : Judges (NoInteger v) [] (integer v) := by
    cases v with
    | int n | bool b => rintro _ ⟨⟩
    | float x => exact judges_integer_float x
    | text s => exact judges_integer_text s
    | null => exact ⟨rfl, .null⟩
    | list items => exact ⟨rfl, .list items⟩
    | object fields => exact ⟨rfl, .object fields⟩
  refine judges.reports (not_below_of_plain (fun _ => rfl) (by simp)) fun problem => ?_
  refine ⟨fun broken => ?_, .integer levels v problem⟩
  cases broken with
  | integer _ _ _ why => exact why

/-- Texts are judged right where a number is wanted. -/
theorem judges_number_text (s : String) :
    Judges (NoNumber (.text s)) [.kind "int"] (number (.text s)) := by
  simp only [number]
  cases characters : Text.isWellFormed s with
  | false => exact ⟨rfl, .surrogate s characters⟩
  | true =>
    simp only [Bool.not_true, Bool.false_eq_true, if_false]
    cases read : Numeral.readInteger s with
    | ok n =>
      intro problem why
      cases why with
      | surrogate _ unpaired => simp [characters] at unpaired
      | word _ _ read' => simp [read] at read'
      | long _ _ read' => simp [read] at read'
    | error refusal =>
      cases decimal : Numeral.readDecimal? s with
      | some x =>
        intro problem why
        cases why with
        | surrogate _ unpaired => simp [characters] at unpaired
        | word _ _ _ decimal' => simp [decimal] at decimal'
        | long _ _ _ decimal' => simp [decimal] at decimal'
      | none =>
        cases refusal with
        | malformed => exact ⟨rfl, .word s characters read decimal⟩
        | oversized => exact ⟨rfl, .long s characters read decimal⟩

/-- The decoder of numbers reports the first break. -/
theorem finds_number (levels : Nat) : Finds levels .number number := by
  intro v
  have judges : Judges (NoNumber v) [.kind "int"] (number v) := by
    cases v with
    | int n | bool b | float x => rintro _ ⟨⟩
    | text s => exact judges_number_text s
    | null => exact ⟨rfl, .null⟩
    | list items => exact ⟨rfl, .list items⟩
    | object fields => exact ⟨rfl, .object fields⟩
  refine judges.reports (not_below_of_plain (fun _ => rfl) (by simp)) fun problem => ?_
  refine ⟨fun broken => ?_, .number levels v problem⟩
  cases broken with
  | number _ _ _ why => exact why

/-- The decoder of payloads reports the first break. -/
theorem finds_payload (levels : Nat) : Finds levels .payload payload := by
  intro v
  have leaf : ∀ n step next, ¬Below ⟨levels, .payload, some v⟩ n step next :=
    not_below_of_plain (fun _ => rfl) (by simp)
  have accepted : Accepts (payload v) ↔ IsPayload v := by
    rw [decides_payload levels v]
    refine ⟨fun obeys => ?_, .payload levels v⟩
    cases obeys with
    | payload _ _ stands => exact stands
  cases decoded : payload v with
  | ok written =>
    refine reports_leaf_ok leaf written ?_
    rintro problem (_ | _)
    rename_i other
    exact other (accepted.mp ⟨written, decoded⟩)
  | error fault =>
    have other : ¬IsPayload v := fun stands => by
      obtain ⟨written, accepted⟩ := accepted.mpr stands
      simp [accepted] at decoded
    have words : fault = ⟨[.kind "str"], .notText⟩ := by
      cases v with
      | text s => simp [payload] at decoded
      | list items =>
        simp only [payload] at decoded
        split at decoded
        · simp at decoded
        · exact (Except.error.inj decoded).symm
      | _ => exact (Except.error.inj decoded).symm
    rw [words]
    exact reports_leaf_error leaf rfl (.payload levels v other)

/-- The decoder of the tag of an operator reports the first break. -/
theorem finds_operatorTag (levels : Nat) : Finds levels .operatorTag operatorTag := by
  intro v
  have judges : Judges (NoOperatorTag v) [] (operatorTag v) := by
    cases v with
    | text s =>
      simp only [operatorTag]
      cases characters : Text.isWellFormed s with
      | false => exact ⟨rfl, .surrogate s characters⟩
      | true =>
        by_cases named : s = "operator"
        · simp only [named, Bool.not_true, Bool.false_eq_true, if_false, beq_self_eq_true, if_true]
          intro problem why
          cases why with
          | surrogate _ unpaired => exact absurd unpaired (by decide)
          | tag _ _ other => exact other rfl
          | value _ other => exact other _ rfl
        · simp only [Bool.not_true, Bool.false_eq_true, if_false, beq_iff_eq, named]
          exact ⟨rfl, .tag s characters named⟩
    | _ => exact ⟨rfl, .value _ (by simp)⟩
  refine judges.reports (not_below_of_plain (fun _ => rfl) (by simp)) fun problem => ?_
  refine ⟨fun broken => ?_, .operatorTag levels v problem⟩
  cases broken with
  | operatorTag _ _ _ why => exact why

/-! ## Objects -/

/-- What stands in the place of an object and is none has no part. -/
theorem not_below_of_no_object {v : Value} (other : ∀ fields, v ≠ .object fields)
    (single : ∀ inner, rule ≠ .list inner) (n : Nat) (step : PathStep) (next : Site) :
    ¬Below ⟨levels, rule, some v⟩ n step next := by
  intro below
  cases below with
  | field => exact other _ rfl
  | missing => exact other _ rfl
  | element => exact single _ rfl

/-- The decoder of points reports the first break. -/
theorem finds_spanPoint (levels : Nat) : Finds levels .point spanPoint := by
  intro v
  cases v with
  | object fields =>
    have shape : form? levels .point fields =
        some { levels, table := pointFields, whole := true } := rfl
    have integer : FindsIn levels .integer Decode.integer :=
      (finds_integer levels).inField fun _ => rfl
    refine reports_object shape rfl ?_
    refine reports_part (reports_required shape rfl rfl integer rfl) fun line => ?_
    refine reports_part (reports_required shape rfl rfl integer rfl) fun column => ?_
    exact reports_last shape _
  | _ =>
    refine reports_leaf_error (not_below_of_no_object ?_ ?_) rfl (.point levels _ ?_)
    all_goals rintro _ ⟨⟩

/-- The decoder of spans reports the first break. -/
theorem finds_span (levels : Nat) : Finds levels .span span := by
  intro v
  cases v with
  | object fields =>
    have shape : form? levels .span fields = some { levels, table := spanFields, whole := true } :=
      rfl
    have point : FindsIn levels .point spanPoint := (finds_spanPoint levels).inField fun _ => rfl
    refine reports_object shape rfl ?_
    refine reports_part (reports_required shape rfl rfl point rfl) fun start => ?_
    refine reports_part (reports_required shape rfl rfl point rfl) fun stop => ?_
    exact reports_last shape _
  | _ =>
    refine reports_leaf_error (not_below_of_no_object ?_ ?_) rfl (.span levels _ ?_)
    all_goals rintro _ ⟨⟩

/-- Position and payload are the first three parts of every node. -/
theorem reports_mark {form : Form} {own : List (String × Rule)} {next : Mark → Decoded α}
    (shape : form? levels rule fields = some form) (loose : form.whole = false)
    (table : form.table = common ++ own)
    (after : ∀ written, Reports ((Site.mk levels rule (some (.object fields))).breachesFrom 3)
      (next written)) :
    Reports ((Site.mk levels rule (some (.object fields))).breachesFrom 0)
      (mark fields >>= next) := by
  have integer : FindsIn form.levels (.optional .integer) (nullable Decode.integer) :=
    (finds_integer form.levels).nullable
  have payload : FindsIn form.levels (.optional .payload) (nullable Decode.payload) :=
    (finds_payload form.levels).nullable
  simp only [mark, bind_assoc, pure_bind]
  refine reports_part (reports_field shape loose (by rw [table]; rfl) integer) fun line => ?_
  refine reports_part (reports_field shape loose (by rw [table]; rfl) integer) fun column => ?_
  refine reports_part (reports_field shape loose (by rw [table]; rfl) payload) fun raw => ?_
  exact after _

/-- The decoder of operators reports the first break. -/
theorem finds_operatorAt (levels : Nat) : Finds levels .operator (operatorAt levels) := by
  intro v
  cases levels with
  | zero =>
    have leaf : ∀ n step next, ¬Below ⟨0, .operator, some v⟩ n step next :=
      not_below_of_plain (fun _ => rfl) (by simp)
    cases v <;> exact reports_leaf_error leaf rfl (.deepOperator _)
  | succ levels =>
    cases v with
    | object fields =>
      have shape : form? (levels + 1) .operator fields =
          some { levels, table := Grammar.operatorFields } := rfl
      have tag : FindsIn levels .operatorTag operatorTag :=
        (finds_operatorTag levels).inField fun _ => rfl
      have text : FindsIn levels .text Decode.text := (finds_text levels).inField fun _ => rfl
      refine reports_object shape rfl ?_
      refine reports_mark shape rfl rfl fun written => ?_
      refine reports_part (reports_field shape rfl rfl tag) fun _ => ?_
      refine reports_part (reports_field shape rfl rfl text) fun symbol => ?_
      exact reports_last shape _
    | _ =>
      refine reports_leaf_error (not_below_of_no_object ?_ ?_) rfl (.operator levels _ ?_)
      all_goals rintro _ ⟨⟩

/-! ## Terms, items and trees -/

/-- The fields of a term of a kind are decoded for its parts. -/
theorem reports_termOfKind {deeper : Value → Decoded Term} {kind : TermKind}
    (shape : form? (levels + 1) .term fields = some { levels, table := termFields kind })
    (chosen : termKind fields = kind) (below : Finds levels .term deeper) :
    Reports ((Site.mk (levels + 1) .term (some (.object fields))).breachesFrom 0)
      (termOfKind levels deeper kind fields) := by
  have text : FindsIn levels .text Decode.text := (finds_text levels).inField fun _ => rfl
  have number : FindsIn levels .number Decode.number := (finds_number levels).inField fun _ => rfl
  have arity : FindsIn levels (.optional .integer) (nullable integer) :=
    (finds_integer levels).nullable
  have symbol : FindsIn levels (.optional .operator) (nullable (operatorAt levels)) :=
    (finds_operatorAt levels).nullable
  have terms : FindsIn levels (.list .term) (tuple deeper) := below.tuple.inField fun _ => rfl
  have place : FindsIn levels (.optional .term) (nullable deeper) := below.nullable
  cases kind with
  | atom | operator | unknown =>
    refine reports_mark shape rfl rfl fun written => ?_
    exact reports_part (reports_field shape rfl rfl text) fun own => reports_last shape _
  | var =>
    refine reports_mark shape rfl rfl fun written => ?_
    -- The tag is read once more; it is a text, or the kind would be unknown.
    have tagged : Accepts (field fields "type" "var" Decode.text) := by
      refine accepts_field.mpr fun v found => ?_
      cases v with
      | text s => exact accepts_ok s
      | _ => simp [termKind, found] at chosen
    obtain ⟨tag, tagged⟩ := tagged
    simp only [tagged, ok_bind]
    exact reports_part (reports_field shape rfl rfl text) fun name => reports_last shape _
  | number =>
    refine reports_mark shape rfl rfl fun written => ?_
    exact reports_part (reports_field shape rfl rfl number) fun value => reports_last shape _
  | compound =>
    refine reports_mark shape rfl rfl fun written => ?_
    refine reports_part (reports_field shape rfl rfl text) fun name => ?_
    refine reports_part (reports_field shape rfl rfl arity) fun declared => ?_
    exact reports_part (reports_field shape rfl rfl terms) fun params => reports_last shape _
  | operation =>
    refine reports_mark shape rfl rfl fun written => ?_
    refine reports_part (reports_field shape rfl rfl symbol) fun operator => ?_
    refine reports_part (reports_field shape rfl rfl place) fun left => ?_
    exact reports_part (reports_field shape rfl rfl place) fun right => reports_last shape _
  | list =>
    refine reports_mark shape rfl rfl fun written => ?_
    refine reports_part (reports_field shape rfl rfl terms) fun items => ?_
    refine reports_part (reports_field shape rfl rfl place) fun head => ?_
    exact reports_part (reports_field shape rfl rfl place) fun tail => reports_last shape _
  | group =>
    refine reports_mark shape rfl rfl fun written => ?_
    exact reports_part (reports_field shape rfl rfl terms) fun content => reports_last shape _
  | cut =>
    refine reports_mark shape rfl (List.append_nil common).symm fun written => ?_
    exact reports_last shape _
  | param =>
    refine reports_mark shape rfl rfl fun written => ?_
    exact reports_part (reports_field shape rfl rfl place) fun value => reports_last shape _

/-- The decoder of terms reports the first break, with so many levels left. -/
theorem finds_term (levels : Nat) : Finds levels .term (term levels) := by
  induction levels with
  | zero =>
    intro v
    have leaf : ∀ n step next, ¬Below ⟨0, .term, some v⟩ n step next :=
      not_below_of_plain (fun _ => rfl) (by simp)
    cases v with
    | object fields =>
      refine reports_leaf_error leaf ?_ (.deepTerm _)
      simp only [Site.label, kindOf, termKind_eq_kindIn]
    | _ => exact reports_leaf_error leaf rfl (.deepTerm _)
  | succ levels ih =>
    intro v
    cases v with
    | object fields =>
      rw [term]
      have shape : form? (levels + 1) .term fields =
          some { levels, table := termFields (termKind fields) } := by
        rw [termKind_eq_kindIn]
        rfl
      refine reports_node shape ?_ (reports_termOfKind shape rfl ih)
      simp only [Site.label, termKind_eq_kindIn]
    | _ =>
      refine reports_leaf_ok (not_below_of_no_object ?_ ?_) _ ?_
      all_goals rintro _ ⟨⟩

/-- What an item of a kind says is decoded for its parts after the span. -/
theorem reports_itemBody {kind : ItemKind}
    (shape : form? levels .item fields =
      some { levels := 254, table := itemFields (spanName fields) kind })
    {next : ItemBody → Item} :
    Reports ((Site.mk levels .item (some (.object fields))).breachesFrom 4)
      (itemBody kind fields >>= fun body => pure (next body)) := by
  have text : FindsIn 254 .text Decode.text := (finds_text 254).inField fun _ => rfl
  have below : Finds 254 .term topTerm := finds_term 254
  have terms : FindsIn 254 (.list .term) (tuple topTerm) := below.tuple.inField fun _ => rfl
  have place : FindsIn 254 (.optional .term) (nullable topTerm) := below.nullable
  cases kind with
  | rule =>
    simp only [itemBody, bind_assoc, pure_bind]
    refine reports_part (reports_field shape rfl rfl place) fun head => ?_
    exact reports_part (reports_field shape rfl rfl terms) fun body => reports_last shape _
  | fact =>
    simp only [itemBody, bind_assoc, pure_bind]
    exact reports_part (reports_field shape rfl rfl place) fun head => reports_last shape _
  | directive =>
    simp only [itemBody, bind_assoc, pure_bind]
    exact reports_part (reports_field shape rfl rfl terms) fun goals => reports_last shape _
  | parseError | unknown =>
    simp only [itemBody, unknownTag, bind_assoc, pure_bind]
    exact reports_part (reports_field shape rfl rfl text) fun own => reports_last shape _

/-- The decoder of items reports the first break. -/
theorem finds_item (levels : Nat) : Finds levels .item item := by
  intro v
  cases v with
  | object fields =>
    rw [item]
    have shape : form? levels .item fields = some
        { levels := 254, table := itemFields (spanName fields) (itemKind fields) } := by
      rw [itemKind_eq_kindIn]
      rfl
    have extent : FindsIn 254 (.optional .span) (nullable span) := (finds_span 254).nullable
    refine reports_node shape (by simp only [Site.label, itemKind_eq_kindIn]) ?_
    refine reports_mark shape rfl rfl fun written => ?_
    have span : Reports ((Site.mk levels .item (some (.object fields))).partBreaches 3)
        (itemSpan fields) := by
      rw [itemSpan]
      by_cases named : Ledger.has fields "fullRange"
      · have entry : (itemFields (spanName fields) (itemKind fields))[3]? =
            some ("fullRange", .optional .span) := by rw [spanName, if_pos named]; rfl
        rw [if_pos named]
        exact reports_field shape rfl entry extent
      · have entry : (itemFields (spanName fields) (itemKind fields))[3]? =
            some ("full_range", .optional .span) := by rw [spanName, if_neg named]; rfl
        rw [if_neg named]
        exact reports_field shape rfl entry extent
    exact reports_part span fun _ => reports_itemBody shape
  | _ =>
    refine reports_leaf_error (not_below_of_no_object ?_ ?_) rfl (.item levels _ ?_)
    all_goals rintro _ ⟨⟩

/-- The decoder of trees reports the first break. -/
theorem reports_tree (fields : Fields) :
    Reports (Site.root (.object fields)).breaches (tree fields) := by
  have shape : form? 0 .tree fields = some { levels := 0, table := rootFields } := rfl
  have text : FindsIn 0 .text Decode.text := (finds_text 0).inField fun _ => rfl
  have items : FindsIn 0 (.list .item) (tuple item) :=
    (finds_item 0).tuple.inField fun _ => rfl
  refine reports_object shape rfl ?_
  refine reports_part (reports_field shape rfl rfl text) fun file => ?_
  refine reports_part (reports_field shape rfl rfl items) fun items => ?_
  exact reports_last shape _

end Decode

namespace Tree

open Grammar

/-- A value with items that is refused for its form is refused for the first broken rule. The reason
consists of a path and words: following the path leads to a value, or to where a field is missing,
that breaks the rule of its place in these words, and no place that is checked earlier breaks its
rule. -/
theorem reported_fault_is_first {fields : Fields} {error : TreeError} {reason : String}
    (rooted : fields.has "predicates") (refused : ofValue (.object fields) = .error error)
    (reported : error.report = .malformed reason) :
    ∃ address path site problem, reason = Path.text path ++ ": " ++ problem.message ∧
      Leads (.root (.object fields)) address path site ∧
      (Value.object fields).follow? path = site.found ∧ Breaks site problem ∧
      ∀ other path' site', Leads (.root (.object fields)) other path' site' →
        Earlier other address → ∀ problem', ¬Breaks site' problem' := by
  have located : ∃ fault, Decode.tree fields = .error fault ∧ reason = fault.line := by
    simp only [ofValue, rooted, Bool.not_true, Bool.false_eq_true, if_false] at refused
    cases tag : Decode.badTag? fields with
    | some bad =>
      rw [tag] at refused
      obtain rfl := Except.error.inj refused
      simp [TreeError.report] at reported
    | none =>
      rw [tag] at refused
      cases decoded : Decode.tree fields with
      | ok tree => simp [decoded, Except.mapError] at refused
      | error fault =>
        simp only [decoded, Except.mapError, Except.error.injEq] at refused
        subst refused
        exact ⟨fault, rfl, (TreeError.Report.malformed.inj reported).symm⟩
  obtain ⟨fault, decoded, rfl⟩ := located
  have report := Decode.reports_tree fields
  rw [decoded] at report
  obtain ⟨address, ⟨site, leads, breaks⟩, least⟩ := report
  refine ⟨address, fault.path, site, fault.problem, rfl, leads, leads.follow? rfl, breaks, ?_⟩
  intro other path' site' leads' earlier problem' breaks'
  exact least other path' problem' ⟨site', leads', breaks'⟩ earlier

/-- A file with three broken rules: a span of the second item lacks a column and its other end is no
object, and the name of its head is no text. -/
def brokenFile : Fields :=
  [("predicates", .list [.object [("type", .text "fact")], .object [
    ("head", .object [("type", .text "functor"), ("name", .int 3)]),
    ("fullRange", .object [("end", .int 7), ("start", .object [("line", .int 1)])]),
    ("type", .text "rule")]])]

/-- The missing column is reported, since the start of a span is checked before its end and a span
before the head, in whatever order they are written. -/
theorem reported_fault_is_first_missing : ∃ address path site problem,
    "predicates.1.rule.fullRange.start.column: Field required" =
      Path.text path ++ ": " ++ problem.message ∧
    Leads (.root (.object brokenFile)) address path site ∧
    (Value.object brokenFile).follow? path = site.found ∧ Breaks site problem ∧
    ∀ other path' site', Leads (.root (.object brokenFile)) other path' site' →
      Earlier other address → ∀ problem', ¬Breaks site' problem' := by
  have refused : ofValue (.object brokenFile) = .error (.field
      ⟨[.key "predicates", .index 1, .kind "rule", .key "fullRange", .key "start", .key "column"],
        .required⟩) := rfl
  exact reported_fault_is_first rfl refused (by decide +kernel)

end Tree

end PredicateIndex
