import PredicateIndex.Indicator
import PredicateIndex.Proofs.Index.Indicator

/-!
# Which texts are indicators

An indicator is cut at its last slash. What stands before the slash is the name, and what stands
after it has to be made of digits, of which two classes count: whether a text has the form of an
indicator is asked of digit characters of any kind, but only decimal digits have a place value, and
no more than 4300 of them are read. Those at the front are counted before the others are looked at.

Main result: every text is read as a predicate, refused as malformed, or refused because its digits
have no value, and for each of the three it is said of which texts. The third is not foreseen by the
form: a superscript passes as a digit and has no value.
-/
namespace PredicateIndex

/-! ## Counts -/

namespace Count

/-- Decimal digits of any script write a number: each has a place value, and the last one counts
units. -/
def Writes (digits : String) (n : Nat) : Prop :=
  ∃ values : List Nat, digits.toList.map Text.decimalValue? = values.map some ∧
    n = Nat.ofDigits 10 values.reverse

/-- The longest run of decimal digits at the front of digits. -/
structure Leads (digits run : String) : Prop where
  /-- The run is made of decimal digits. -/
  decimal : ∃ n, Writes run n
  /-- What follows it does not begin with one. -/
  longest : ∃ rest, digits = run ++ rest ∧
    ∀ c, rest.toList.head? = some c → Text.decimalValue? c = none

/-- One more digit is worth the units of ten times what stands before it. -/
theorem decimalNat?_snoc (cs : List Char) (c : Char) :
    decimalNat? (cs ++ [c]) =
      (decimalNat? cs).bind fun n => (Text.decimalValue? c).map fun d => 10 * n + d := by
  rw [decimalNat?, List.foldl_append, List.foldl_cons, List.foldl_nil, decimalNat?]
  cases List.foldl _ (some 0) cs with
  | none => rfl
  | some n => cases Text.decimalValue? c <;> rfl

/-- A list of optional values that are all present ends with a present one. -/
theorem map_snoc_eq_map_some {α β : Type} {f : α → Option β} {list : List α} {a : α}
    {values : List β} :
    (list ++ [a]).map f = values.map some ↔
      ∃ front last, values = front ++ [last] ∧ list.map f = front.map some ∧ f a = some last := by
  constructor
  · intro same
    have split : values.map some = list.map f ++ [f a] := by simpa using same.symm
    obtain ⟨front, tail, rfl, fronts, tails⟩ := List.map_eq_append_iff.mp split
    obtain ⟨last, rfl, present⟩ := List.map_eq_singleton_iff.mp tails
    exact ⟨front, last, rfl, fronts.symm, present.symm⟩
  · rintro ⟨front, last, rfl, fronts, present⟩
    simp [fronts, present]

/-- Characters have the number that they write as decimal digits. -/
theorem decimalNat?_eq_some {cs : List Char} {n : Nat} :
    decimalNat? cs = some n ↔ Writes (String.ofList cs) n := by
  rw [Writes, String.toList_ofList]
  induction cs using List.reverseRecOn generalizing n with
  | nil =>
    constructor
    · intro found
      exact ⟨[], rfl, (Option.some.inj found).symm⟩
    · rintro ⟨values, placed, rfl⟩
      obtain rfl := List.map_eq_nil_iff.mp placed.symm
      rfl
  | append_singleton cs c ih =>
    simp only [decimalNat?_snoc, Option.bind_eq_some_iff, Option.map_eq_some_iff, ih,
      map_snoc_eq_map_some]
    constructor
    · rintro ⟨m, ⟨front, fronts, rfl⟩, d, digit, rfl⟩
      exact ⟨front ++ [d], ⟨front, d, rfl, fronts, digit⟩, by simp [Nat.ofDigits_cons, add_comm]⟩
    · rintro ⟨-, ⟨front, d, rfl, fronts, digit⟩, rfl⟩
      exact ⟨_, ⟨front, fronts, rfl⟩, d, digit, by simp [Nat.ofDigits_cons, add_comm]⟩

/-- Characters write a number if each of them has a place value. -/
theorem exists_writes_iff {digits : String} :
    (∃ n, Writes digits n) ↔ ∀ c ∈ digits.toList, (Text.decimalValue? c).isSome := by
  constructor
  · rintro ⟨n, values, placed, -⟩ c inside
    have valued : Text.decimalValue? c ∈ values.map some := placed ▸ List.mem_map_of_mem inside
    obtain ⟨d, -, digit⟩ := List.mem_map.mp valued
    simp [← digit]
  · intro each
    refine ⟨_, digits.toList.filterMap Text.decimalValue?, ?_, rfl⟩
    have kept : digits.toList.filterMap Text.decimalValue? =
        digits.toList.map fun c => (Text.decimalValue? c).getD 0 := by
      rw [← List.filterMap_eq_map]
      refine List.filterMap_congr fun c inside => ?_
      obtain ⟨d, digit⟩ := Option.isSome_iff_exists.mp (each c inside)
      simp [digit]
    rw [kept, List.map_map]
    refine List.map_congr_left fun c inside => ?_
    obtain ⟨d, digit⟩ := Option.isSome_iff_exists.mp (each c inside)
    simp [digit]

/-- What has a place value is a digit. -/
theorem all_isDigitLike_of_writes {digits : String} {n : Nat} (written : Writes digits n) :
    digits.toList.all Text.isDigitLike := by
  refine List.all_eq_true.mpr fun c inside => ?_
  obtain ⟨d, digit⟩ := Option.isSome_iff_exists.mp (exists_writes_iff.mp ⟨n, written⟩ c inside)
  simp [Text.isDigitLike, digit]

/-- The longest run is found by walking from the front. -/
theorem leads_iff {digits run : String} :
    Leads digits run ↔
      run.toList = digits.toList.takeWhile fun c => (Text.decimalValue? c).isSome := by
  constructor
  · rintro ⟨decimal, rest, rfl, stop⟩
    rw [String.toList_append, List.takeWhile_append_of_pos (exists_writes_iff.mp decimal)]
    cases after : rest.toList with
    | nil => simp
    | cons c others => simp [stop c (by simp [after])]
  · intro walked
    refine ⟨exists_writes_iff.mpr fun c inside => ?_, String.ofList (digits.toList.dropWhile
      fun c => (Text.decimalValue? c).isSome), ?_, fun c first => ?_⟩
    · rw [walked] at inside
      exact List.all_eq_true.mp List.all_takeWhile c inside
    · exact String.toList_inj.mp (by simp [walked])
    · rw [String.toList_ofList] at first
      simpa [first] using List.head?_dropWhile_not (fun c => (Text.decimalValue? c).isSome)
        digits.toList

/-- The longest run has the length that is counted. -/
theorem Leads.length_eq {digits run : String} (leads : Leads digits run) :
    run.length = leading digits.toList := by
  rw [leading, ← leads_iff.mp leads, String.length_toList]

/-- There is a longest run. -/
theorem exists_leads (digits : String) : ∃ run, Leads digits run :=
  ⟨String.ofList (digits.toList.takeWhile fun c => (Text.decimalValue? c).isSome),
    leads_iff.mpr (by simp)⟩

/-- Decimal digits are their own longest run. -/
theorem leading_of_writes {digits : String} {n : Nat} (written : Writes digits n) :
    leading digits.toList = digits.length := by
  rw [leading, List.takeWhile_eq_self_iff.mpr (exists_writes_iff.mp ⟨n, written⟩),
    String.length_toList]

/-- Digits are read as the number that they write if there are not too many, and else refused with
the reason. -/
theorem read_eq {digits : String} (present : digits ≠ "") :
    (∀ n, read digits.toList = .ok n ↔
      Writes digits n ∧ digits.length ≤ Numeral.digitLimit) ∧
    ∀ fault, read digits.toList = .error fault ↔
      ∃ run, Leads digits run ∧
        (fault = .oversized run.length ∧ Numeral.digitLimit < run.length ∨
          fault = .notDecimal digits ∧ run.length ≤ Numeral.digitLimit ∧
            ¬∃ n, Writes digits n) := by
  obtain ⟨run, leads⟩ := exists_leads digits
  have only : ∀ {other}, Leads digits other → other = run := fun other =>
    String.toList_inj.mp ((leads_iff.mp other).trans (leads_iff.mp leads).symm)
  have some_iff : ∀ n, decimalNat? digits.toList = some n ↔ Writes digits n := fun n => by
    rw [decimalNat?_eq_some, String.ofList_toList]
  have filled : digits.toList.isEmpty = false := by simpa using present
  have counted : ∀ {n}, Writes digits n → digits.length = run.length := fun written => by
    rw [leads.length_eq, leading_of_writes written]
  simp only [read, filled, Bool.false_eq_true, if_false, ← leads.length_eq]
  by_cases many : Numeral.digitLimit < run.length
  · rw [if_pos many]
    refine ⟨fun n => iff_of_false (by simp) fun ⟨written, few⟩ => ?_, fun fault => ?_⟩
    · exact absurd (counted written ▸ few) (Nat.not_le.mpr many)
    · constructor
      · intro same
        exact ⟨run, leads, .inl ⟨(Except.error.inj same).symm, many⟩⟩
      · rintro ⟨other, its, ⟨rfl, -⟩ | ⟨-, few, -⟩⟩
        · rw [only its]
        · exact absurd (only its ▸ few) (Nat.not_le.mpr many)
  · rw [if_neg many]
    have few := Nat.not_lt.mp many
    cases number : decimalNat? digits.toList with
    | none =>
      have unwritten : ¬∃ n, Writes digits n := fun ⟨n, written⟩ => by
        simpa [number] using (some_iff n).mpr written
      refine ⟨fun n => iff_of_false (by simp) fun written => unwritten ⟨n, written.1⟩,
        fun fault => ?_⟩
      rw [String.ofList_toList]
      constructor
      · intro same
        exact ⟨run, leads, .inr ⟨(Except.error.inj same).symm, few, unwritten⟩⟩
      · rintro ⟨other, its, ⟨-, above⟩ | ⟨rfl, -, -⟩⟩
        · exact absurd (only its ▸ above) many
        · rfl
    | some m =>
      have written := (some_iff m).mp number
      refine ⟨fun n => ?_, fun fault => iff_of_false (by simp) ?_⟩
      · rw [← some_iff, number, counted written]
        simp [few]
      · rintro ⟨other, its, ⟨-, above⟩ | ⟨-, -, unwritten⟩⟩
        · exact many (only its ▸ above)
        · exact unwritten ⟨m, written⟩

end Count

/-! ## Indicators -/

namespace Indicator

/-- A text is cut at a slash into a name and an arity, neither of which is empty. -/
structure Shaped (value name arity : String) : Prop where
  /-- The slash stands between the two. -/
  cut : value = name ++ "/" ++ arity
  /-- There is a name. -/
  named : name ≠ ""
  /-- There is an arity. -/
  counted : arity ≠ ""

/-- A slash is no digit of any kind. -/
theorem slash_not_mem_of_all_isDigitLike {digits : String}
    (each : digits.toList.all Text.isDigitLike) : '/' ∉ digits.toList := fun inside =>
  absurd (List.all_eq_true.mp each '/' inside) (by decide)

/-- A text with a slash is cut at the last one. -/
theorem exists_last_slash {value : String} (inside : '/' ∈ value.toList) :
    ∃ name arity, value = name ++ "/" ++ arity ∧ '/' ∉ arity.toList := by
  obtain ⟨before, after, reversed, last⟩ :=
    List.eq_append_cons_of_mem (List.mem_reverse.mpr inside)
  refine ⟨String.ofList after.reverse, String.ofList before.reverse, ?_, by simpa using last⟩
  apply String.toList_inj.mp
  have whole : value.toList = after.reverse ++ '/' :: before.reverse := by
    simpa using congrArg List.reverse reversed
  simp [whole]

/-- A text without a slash is malformed. -/
theorem parse_of_no_slash {value : String} (outside : '/' ∉ value.toList) :
    parse value = .error (.malformed value) := by
  have nothing : value.toList.reverse.dropWhile (· != '/') = [] := by
    refine List.dropWhile_eq_nil_iff.mpr fun c inside => ?_
    simpa using fun same : c = '/' => outside (same ▸ List.mem_reverse.mp inside)
  simp [parse, nothing]

/-- How a text is read that is cut at its last slash. -/
theorem parse_of_last_slash {name arity : String} (last : '/' ∉ arity.toList) :
    parse (name ++ "/" ++ arity) =
      if name ≠ "" ∧ Count.isWritten arity.toList then
        ((Count.read arity.toList).mapError .arity).map fun n => (name, n)
      else .error (.malformed (name ++ "/" ++ arity)) := by
  have digits : ∀ c ∈ arity.toList.reverse, (c != '/') = true := fun c inside => by
    simpa using fun same : c = '/' => last (same ▸ List.mem_reverse.mp inside)
  have reversed : (name ++ "/" ++ arity).toList.reverse =
      arity.toList.reverse ++ '/' :: name.toList.reverse := by simp
  have after : (name ++ "/" ++ arity).toList.reverse.takeWhile (· != '/') =
      arity.toList.reverse := by
    rw [reversed, List.takeWhile_append_of_pos digits]
    simp
  have before : (name ++ "/" ++ arity).toList.reverse.dropWhile (· != '/') =
      '/' :: name.toList.reverse := by
    rw [reversed, List.dropWhile_append_of_pos digits]
    simp
  simp only [parse, after, before, List.reverse_reverse]
  cases front : name.toList.reverse with
  | nil =>
    have unnamed : name = "" := by simpa using front
    simp [unnamed]
  | cons c rest =>
    have named : name ≠ "" := by
      rintro rfl
      simp at front
    have restored : String.ofList (c :: rest).reverse = name := by
      rw [← front, List.reverse_reverse, String.ofList_toList]
    simp only [restored, named, ne_eq, not_false_eq_true, true_and]

/-- A text is cut into a name and digits in one way only. -/
theorem Shaped.unique {value name name' arity arity' : String} (one : Shaped value name arity)
    (digits : arity.toList.all Text.isDigitLike) (other : Shaped value name' arity')
    (digits' : arity'.toList.all Text.isDigitLike) : name = name' ∧ arity = arity' := by
  have same : name.toList ++ '/' :: arity.toList = name'.toList ++ '/' :: arity'.toList := by
    simpa using congrArg String.toList (one.cut.symm.trans other.cut)
  obtain ⟨names, arities⟩ := append_cons_inj_of_last (slash_not_mem_of_all_isDigitLike digits)
    (slash_not_mem_of_all_isDigitLike digits') same
  exact ⟨String.toList_inj.mp names, String.toList_inj.mp arities⟩

/-- An indicator has digits of any kind after its slash, and there is no slash among them. -/
theorem Shaped.parse_eq {value name arity : String} (shaped : Shaped value name arity)
    (each : arity.toList.all Text.isDigitLike) :
    parse value = ((Count.read arity.toList).mapError .arity).map fun n => (name, n) := by
  have written : Count.isWritten arity.toList := by
    have present : arity.toList.isEmpty = false := by simpa using shaped.counted
    simp only [Count.isWritten, present, each, Bool.not_false, Bool.and_self]
  rw [shaped.cut, parse_of_last_slash (slash_not_mem_of_all_isDigitLike each),
    if_pos ⟨shaped.named, written⟩]

/-- A text that is not cut into a name and digits is malformed. -/
theorem parse_of_not_shaped {value : String}
    (other : ¬∃ name arity, Shaped value name arity ∧ arity.toList.all Text.isDigitLike) :
    parse value = .error (.malformed value) := by
  by_cases inside : '/' ∈ value.toList
  · obtain ⟨name, arity, cut, last⟩ := exists_last_slash inside
    rw [cut, parse_of_last_slash last, if_neg]
    rintro ⟨named, written⟩
    simp only [Count.isWritten, Bool.and_eq_true, Bool.not_eq_true', List.isEmpty_eq_false_iff]
      at written
    exact other ⟨name, arity, ⟨cut, named, by simpa using written.1⟩, written.2⟩
  · exact parse_of_no_slash inside

/-- What reading an indicator gives is what reading its digits gives. -/
theorem map_mapError_eq_ok {name found : String} {count : Except Count.Fault Nat} {n : Nat} :
    (count.mapError Refusal.arity).map (fun n => (name, n)) = .ok (found, n) ↔
      name = found ∧ count = .ok n := by
  cases count <;> simp [Except.mapError, Except.map]

/-- What refuses an indicator is what refuses its digits. -/
theorem map_mapError_eq_error {name : String} {count : Except Count.Fault Nat} {refusal : Refusal} :
    (count.mapError Refusal.arity).map (fun n => (name, n)) = .error refusal ↔
      ∃ fault, count = .error fault ∧ refusal = .arity fault := by
  cases count <;> simp [Except.mapError, Except.map, eq_comm]

/-- The three ways in which reading a text ends. It is read as a predicate if it is a name, a slash
and at most 4300 decimal digits, which write the arity; it is malformed if it is not a name, a slash
and digit characters of any kind; and in all other cases the digits have no value, because more than
4300 decimal digits stand at the front or, if there are fewer, because one of them is no decimal digit.
-/
theorem parse_outcome (value : String) :
    (∀ name n, parse value = .ok (name, n) ↔ ∃ arity, Shaped value name arity ∧
      Count.Writes arity n ∧ arity.length ≤ 4300) ∧
    (parse value = .error (.malformed value) ↔
      ¬∃ name arity, Shaped value name arity ∧ arity.toList.all Text.isDigitLike) ∧
    ∀ fault, parse value = .error (.arity fault) ↔ ∃ name arity, Shaped value name arity ∧
      arity.toList.all Text.isDigitLike ∧ ∃ run, Count.Leads arity run ∧
        (fault = .oversized run.length ∧ 4300 < run.length ∨
          fault = .notDecimal arity ∧ run.length ≤ 4300 ∧ ¬∃ n, Count.Writes arity n) := by
  by_cases shape : ∃ name arity, Shaped value name arity ∧ arity.toList.all Text.isDigitLike
  · obtain ⟨front, digits, shaped, each⟩ := shape
    have unique : ∀ {name arity}, Shaped value name arity → arity.toList.all Text.isDigitLike →
        name = front ∧ arity = digits := fun other among =>
      other.unique among shaped each
    obtain ⟨read_ok, read_error⟩ := Count.read_eq shaped.counted
    rw [shaped.parse_eq each]
    refine ⟨fun name n => ?_, ?_, fun fault => ?_⟩
    · rw [map_mapError_eq_ok, read_ok]
      constructor
      · rintro ⟨rfl, written, few⟩
        exact ⟨digits, shaped, written, few⟩
      · rintro ⟨arity, other, written, few⟩
        obtain ⟨rfl, rfl⟩ := unique other (Count.all_isDigitLike_of_writes written)
        exact ⟨rfl, written, few⟩
    · rw [map_mapError_eq_error]
      refine iff_of_false ?_ (not_not_intro ⟨front, digits, shaped, each⟩)
      rintro ⟨fault, -, other⟩
      exact absurd other (by simp)
    · simp only [map_mapError_eq_error, Refusal.arity.injEq, exists_eq_right', read_error]
      constructor
      · intro reason
        exact ⟨front, digits, shaped, each, reason⟩
      · rintro ⟨name, arity, other, among, reason⟩
        obtain ⟨rfl, rfl⟩ := unique other among
        exact reason
  · rw [parse_of_not_shaped shape]
    refine ⟨fun name n => iff_of_false (by simp) ?_, iff_of_true rfl shape,
      fun fault => iff_of_false (by simp) ?_⟩
    · rintro ⟨arity, shaped, written, -⟩
      exact shape ⟨name, arity, shaped, Count.all_isDigitLike_of_writes written⟩
    · rintro ⟨name, arity, shaped, each, -⟩
      exact shape ⟨name, arity, shaped, each⟩

/-- A superscript two passes as a digit and has no value, so that an unforeseen error takes the
place of the refusal that every text deserves which is not a name, a slash and decimal digits. -/
theorem not_forall_parsed_or_malformed :
    ¬∀ value, (∀ name n, parse value = .ok (name, n) ↔
        ∃ arity, Shaped value name arity ∧ Count.Writes arity n) ∧
      ((∀ name n, parse value ≠ .ok (name, n)) → parse value = .error (.malformed value)) := by
  intro law
  have unforeseen : parse "a/²" = .error (.arity (.notDecimal "²")) := by decide +kernel
  have malformed := (law "a/²").2 (by simp [unforeseen])
  rw [unforeseen] at malformed
  exact absurd malformed (by simp)

end Indicator

end PredicateIndex
