import PredicateIndex.Proofs.Config.Revalidation
import PredicateIndex.Proofs.Config.Rules

/-!
# The checker finds what is broken

Each check finds what is broken under the rule of its place. The checks of values without parts are
judged one by one; options, lists and groups find what is broken in their parts if the checks of the
parts do. Main result: the faults of a configuration, those of sections that do not exist included,
are those of all breaks, each of them once, in the order of their addresses.
-/
namespace PredicateIndex.Config

open Yaml (Entries field? mapError_eq_error mapError_eq_ok toOption_bind_eq_none
  toOption_bind_eq_some)

/-! ## Places without parts -/

section Places

variable {α β : Type} {homes : FilePath.Homes} {rule inner : Rule} {v : Yaml}
  {check : Yaml → Checked α}

/-- A check finds everything that is broken under a rule. -/
def Finds (homes : FilePath.Homes) (rule : Rule) (check : Yaml → Checked α) : Prop :=
  ∀ v, Enumerates (Broken homes rule v) (check v).faults

/-- What is made of a value does not matter for its faults. -/
theorem faults_map (f : α → β) (checked : Checked α) : (f <$> checked).faults = checked.faults :=
  List.append_nil _

/-- A value without parts is judged right: there is no fault if nothing is wrong, and else there is
one, which says what is. -/
inductive Judged (wrong : Problem → Prop) (v : Yaml) : List Fault → Prop where
  /-- Nothing is wrong. -/
  | fine (none : ∀ problem, ¬wrong problem) : Judged wrong v []
  /-- One thing is wrong. -/
  | refused (problem : Problem) (only : ∀ other, wrong other ↔ other = problem) :
    Judged wrong v [{ path := [], problem, found := v }]

/-- A rule of values without parts. -/
def Rule.IsPlain : Rule → Prop
  | .level | .format | .text | .destination | .wait => True
  | _ => False

/-- Under a rule of values without parts only this rule is broken. -/
theorem broken_of_isPlain (plain : rule.IsPlain) {address : List Nat} {fault : Fault} :
    Broken homes rule v address fault ↔
      address = [] ∧ ∃ problem, rule.Unfit homes v problem ∧
        fault = { path := [], problem, found := v } := by
  have formless : rule.form? = none := by
    cases rule <;> first | rfl | exact plain.elim
  constructor
  · intro broken
    cases broken with
    | here wrong =>
      cases wrong with
      | plain why => exact ⟨rfl, _, why, rfl⟩
      | list => exact plain.elim
      | group form => cases formless.symm.trans form
    | field form => cases formless.symm.trans form
    | present | element | surplus => exact plain.elim
  · rintro ⟨rfl, problem, why, rfl⟩
    exact .here (.plain why)

/-- What is judged right is found. -/
theorem Judged.enumerates {faults : List Fault} (plain : rule.IsPlain)
    (judged : Judged (rule.Unfit homes v) v faults) : Enumerates (Broken homes rule v) faults := by
  cases judged with
  | fine none =>
    refine .nil fun address fault broken => ?_
    obtain ⟨-, problem, why, -⟩ := (broken_of_isPlain plain).mp broken
    exact none problem why
  | refused problem only =>
    refine .singleton [] fun address fault => ?_
    rw [broken_of_isPlain plain]
    simp [only]

/-- Choices are judged right. -/
theorem judged_choice (all : List α) (name : α → String) (default : α) (v : Yaml) :
    Judged (NoChoice (all.map name) v) v (choice all name default v).faults := by
  have other : (∀ s, v ≠ .text s) → Judged (NoChoice (all.map name) v) v
      [{ path := [], problem := .choice (all.map name), found := v }] := by
    intro noText
    refine .refused _ fun problem => ⟨fun wrong => ?_, fun same => same ▸ .value v noText⟩
    cases wrong with
    | value => rfl
    | surrogate | word => exact absurd rfl (noText _)
  cases v with
  | text s =>
    rw [choice]
    cases characters : Text.isWellFormed s with
    | false =>
      refine .refused _ fun problem => ⟨fun wrong => ?_, fun same => same ▸ .surrogate s characters⟩
      cases wrong with
      | surrogate => rfl
      | word _ paired => simp [characters] at paired
      | value _ noText => exact absurd rfl (noText s)
    | true =>
      simp only [Bool.not_true, Bool.false_eq_true, if_false]
      cases found : all.find? fun item => name item == s with
      | some item =>
        have among : s ∈ all.map name := by
          have named := List.find?_some found
          exact List.mem_map.mpr ⟨item, List.mem_of_find?_eq_some found, by simpa using named⟩
        refine .fine fun problem wrong => ?_
        cases wrong with
        | surrogate _ unpaired => simp [characters] at unpaired
        | word _ _ apart => exact apart among
        | value _ noText => exact noText s rfl
      | none =>
        have apart : s ∉ all.map name := by
          simpa using found
        refine .refused _ fun problem =>
          ⟨fun wrong => ?_, fun same => same ▸ .word s characters apart⟩
        cases wrong with
        | surrogate _ unpaired => simp [characters] at unpaired
        | word => rfl
        | value => rfl
  | _ => exact other nofun

/-- The check of levels finds what is broken. -/
theorem finds_level : Finds homes .level level := fun v =>
  (judged_choice LogLevel.all LogLevel.settingName _ v).enumerates trivial

/-- The check of formats finds what is broken. -/
theorem finds_format : Finds homes .format (choice LogFormat.all LogFormat.name .console) := fun v =>
  (judged_choice LogFormat.all LogFormat.name _ v).enumerates trivial

/-- The text that is read is the one that a value is. -/
theorem textOf_eq_ok {s : String} : textOf v = .ok s ↔ IsText v s := by
  constructor
  · intro read
    cases v with
    | text t =>
      obtain rfl := Except.ok.inj read
      exact .text t
    | bytes raw => exact .bytes raw s (mapError_eq_ok.mp read)
    | _ => cases read
  · intro isText
    cases isText with
    | text => rfl
    | bytes raw _ decoded => rw [textOf, decoded]; rfl

/-- The reason why no text is read is the one why a value is none. -/
theorem textOf_eq_error {problem : Problem} : textOf v = .error problem ↔ NoText v problem := by
  constructor
  · intro refused
    cases v with
    | text s => cases refused
    | bytes raw =>
      obtain ⟨fault, broken, rfl⟩ := mapError_eq_error.mp refused
      exact .bytes raw fault broken
    | _ =>
      obtain rfl := Except.error.inj refused
      exact .value _ (by simp) (by simp)
  · intro why
    cases why with
    | bytes raw fault broken => rw [textOf, broken]; rfl
    | value v noText noBytes =>
      cases v with
      | text s => exact absurd rfl (noText s)
      | bytes raw => exact absurd rfl (noBytes raw)
      | _ => rfl

/-- Texts are judged right. -/
theorem judged_text (v : Yaml) : Judged (NoText v) v (text v).faults := by
  rw [text]
  cases read : textOf v with
  | ok s =>
    refine .fine fun problem wrong => ?_
    cases read.symm.trans (textOf_eq_error.mpr wrong)
  | error problem =>
    refine .refused problem fun other => ?_
    rw [← textOf_eq_error, read, Except.error.injEq, eq_comm]

/-- The check of texts finds what is broken. -/
theorem finds_text : Finds homes .text text := fun v => (judged_text v).enumerates trivial

/-- Destinations are judged right. -/
theorem judged_destination (homes : FilePath.Homes) (v : Yaml) :
    Judged (NoDestination homes v) v (destination homes v).faults := by
  cases read : textOf v with
  | error problem =>
    rw [destination_of_refused homes read]
    refine .refused problem fun other =>
      ⟨fun wrong => ?_, fun same => .value (textOf_eq_error.mp (same ▸ read))⟩
    cases wrong with
    | value why => exact Except.error.inj ((textOf_eq_error.mpr why).symm.trans read)
    | homeless _ _ isText | relative _ _ isText => cases (textOf_eq_ok.mpr isText).symm.trans read
  | ok s =>
    rw [destination_of_text homes read]
    have own : IsText v s := textOf_eq_ok.mp read
    have only : ∀ {t}, IsText v t → t = s := fun other =>
      Except.ok.inj ((textOf_eq_ok.mpr other).symm.trans read)
    have fine : ∀ {problem}, ¬NoText v problem := fun why => by
      cases (textOf_eq_error.mpr why).symm.trans read
    cases stream : LogOutput.isStream s with
    | true =>
      refine .fine fun problem wrong => ?_
      cases wrong with
      | value why => exact fine why
      | homeless _ _ other file | relative _ _ other file => simp [only other, stream] at file
    | false =>
      simp only [Bool.false_eq_true, if_false]
      cases expanded : (FilePath.ofText s).expandHome homes with
      | error fault =>
        refine .refused _ fun problem =>
          ⟨fun wrong => ?_, fun same => same ▸ .homeless s fault own stream expanded⟩
        cases wrong with
        | value why => exact absurd why fine
        | homeless _ fault' other _ lost =>
          rw [only other] at lost
          rw [Except.error.inj (lost.symm.trans expanded)]
        | relative _ _ other _ found =>
          rw [only other] at found
          cases found.symm.trans expanded
      | ok path =>
        cases absolute : path.isAbsolute with
        | true =>
          simp only [absolute, if_true]
          refine .fine fun problem wrong => ?_
          cases wrong with
          | value why => exact fine why
          | homeless _ _ other _ lost =>
            rw [only other] at lost
            cases lost.symm.trans expanded
          | relative _ path' other _ found relative =>
            rw [only other] at found
            rw [Except.ok.inj (found.symm.trans expanded), absolute] at relative
            cases relative
        | false =>
          simp only [absolute, Bool.false_eq_true, if_false]
          refine .refused _ fun problem =>
            ⟨fun wrong => ?_, fun same => same ▸ .relative s path own stream expanded absolute⟩
          cases wrong with
          | value why => exact absurd why fine
          | homeless _ _ other _ lost =>
            rw [only other] at lost
            cases lost.symm.trans expanded
          | relative _ _ other => rw [only other]

/-- The check of destinations finds what is broken. -/
theorem finds_destination : Finds homes .destination (destination homes) := fun v =>
  (judged_destination homes v).enumerates trivial

/-- A value is read as the one number that it stands for, or refused for the one reason why it
stands for none. -/
inductive ReadsNumber (v : Yaml) : Checked Binary64 → Prop where
  /-- It stands for a number. -/
  | number (x : Binary64) (only : ∀ y, StandsFor v y ↔ y = x) (none : ∀ problem, ¬NoNumber v problem) :
    ReadsNumber v (pure x)
  /-- It stands for none. -/
  | refused (problem : Problem) (only : ∀ other, NoNumber v other ↔ other = problem)
    (none : ∀ y, ¬StandsFor v y) : ReadsNumber v (.refused default problem v)

/-- A value that stands for no number, for one reason only, is refused for that reason. -/
theorem ReadsNumber.of_noNumber {v : Yaml} {problem : Problem} (why : NoNumber v problem)
    (only : ∀ other, NoNumber v other → other = problem) (none : ∀ y, ¬StandsFor v y) :
    ReadsNumber v (.refused default problem v) :=
  .refused problem (fun other => ⟨only other, fun same => same ▸ why⟩) none

/-- A value that stands for one number, and for no other, is read as that number. -/
theorem ReadsNumber.of_standsFor {v : Yaml} {x : Binary64} (stands : StandsFor v x)
    (only : ∀ y, StandsFor v y → y = x) (none : ∀ problem, ¬NoNumber v problem) :
    ReadsNumber v (pure x) :=
  .number x (fun y => ⟨only y, fun same => same ▸ stands⟩) none

/-- Numbers are read right. -/
theorem readsNumber (v : Yaml) : ReadsNumber v (number v) := by
  cases v with
  | float x =>
    refine .of_standsFor (.float x) (fun y stands => ?_) fun problem why => ?_
    · cases stands
      rfl
    · cases why with
      | kind _ other => exact other trivial
  | bool b =>
    refine .of_standsFor (.bool b) (fun y stands => ?_) fun problem why => ?_
    · cases stands
      rfl
    · cases why with
      | kind _ other => exact other trivial
  | int n =>
    rw [number]
    cases range : (Binary64.ofInt n).isInfinite with
    | true =>
      refine .of_noNumber (.large n range) (fun problem why => ?_) fun y stands => ?_
      · cases why with
        | large => rfl
        | kind _ other => exact absurd trivial other
      · cases stands with
        | int _ inside => simp [range] at inside
    | false =>
      refine .of_standsFor (.int n range) (fun y stands => ?_) fun problem why => ?_
      · cases stands
        rfl
      · cases why with
        | large _ outside => simp [range] at outside
        | kind _ other => exact other trivial
  | text s =>
    rw [number]
    cases characters : Text.isWellFormed s with
    | false =>
      refine .of_noNumber (.surrogate s characters) (fun problem why => ?_) fun y stands => ?_
      · cases why with
        | surrogate => rfl
        | word _ paired => simp [characters] at paired
        | kind _ other => exact absurd trivial other
      · cases stands with
        | text _ _ paired => simp [characters] at paired
    | true =>
      simp only [Bool.not_true, Bool.false_eq_true, if_false]
      cases read : Numeral.readDecimal? s with
      | some x =>
        refine .of_standsFor (.text s x characters read) (fun y stands => ?_) fun problem why => ?_
        · cases stands with
          | text _ _ _ read' => exact Option.some.inj (read'.symm.trans read)
        · cases why with
          | surrogate _ unpaired => simp [characters] at unpaired
          | word _ _ read' => cases read'.symm.trans read
          | kind _ other => exact other trivial
      | none =>
        refine .of_noNumber (.word s characters read) (fun problem why => ?_) fun y stands => ?_
        · cases why with
          | surrogate _ unpaired => simp [characters] at unpaired
          | word => rfl
          | kind _ other => exact absurd trivial other
        · cases stands with
          | text _ _ _ read' => cases read'.symm.trans read
  | bytes raw =>
    rw [number]
    cases read : (Utf8.decode raw).toOption.bind Numeral.readDecimal? with
    | some x =>
      obtain ⟨s, decoded, numeral⟩ := toOption_bind_eq_some.mp read
      refine .of_standsFor (.bytes raw s x decoded numeral) (fun y stands => ?_) fun problem why => ?_
      · cases stands with
        | bytes _ t _ decoded' numeral' =>
          obtain rfl := Except.ok.inj (decoded'.symm.trans decoded)
          exact Option.some.inj (numeral'.symm.trans numeral)
      · cases why with
        | bytes _ none => cases (none s decoded).symm.trans numeral
        | kind _ other => exact other trivial
    | none =>
      have none := toOption_bind_eq_none.mp read
      refine .of_noNumber (.bytes raw none) (fun problem why => ?_) fun y stands => ?_
      · cases why with
        | bytes => rfl
        | kind _ other => exact absurd trivial other
      · cases stands with
        | bytes _ s _ decoded numeral => cases (none s decoded).symm.trans numeral
  | null | stamp | list | set | pair | mapping =>
    refine .of_noNumber (.kind _ id) (fun problem why => ?_) fun y stands => by cases stands
    cases why
    rfl

/-- Waits are judged right. -/
theorem judged_debounce (v : Yaml) : Judged (NoWait v) v (debounce v).faults := by
  have reads := readsNumber v
  rw [debounce]
  generalize number v = checked at reads
  cases reads with
  | number x only none =>
    cases below : x.isBelowZero with
    | true =>
      simp only [pure, List.isEmpty_nil, Bool.and_self, if_true]
      refine .refused _ fun problem => ⟨fun wrong => ?_, fun same => ?_⟩
      · cases wrong with
        | value why => exact absurd why (none _)
        | negative y stands _ => rw [(only y).mp stands]
      · rw [same]
        exact .negative x ((only x).mpr rfl) below
    | false =>
      simp only [pure, Bool.and_false, Bool.false_eq_true, if_false]
      refine .fine fun problem wrong => ?_
      cases wrong with
      | value why => exact none _ why
      | negative y stands negative =>
        rw [(only y).mp stands, below] at negative
        cases negative
  | refused problem only none =>
    refine .refused problem fun other => ⟨fun wrong => ?_, fun same => .value ((only other).mpr same)⟩
    cases wrong with
    | value why => exact (only other).mp why
    | negative y stands => exact absurd stands (none y)

/-- The check of waits finds what is broken. -/
theorem finds_debounce : Finds homes .wait debounce := fun v => (judged_debounce v).enumerates trivial

/-! ## Parts -/

/-- Where null is allowed, everything else is checked as it is. -/
theorem Finds.optional (finds : Finds homes rule check) :
    Finds homes (.optional rule) (optional check) := by
  intro v
  have only : ∀ {address fault}, Broken homes (.optional rule) v address fault →
      v ≠ .null ∧ Broken homes rule v address fault := by
    intro address fault broken
    cases broken with
    | here wrong =>
      cases wrong with
      | plain why => exact why.elim
      | group form => cases form
    | present there broken => exact ⟨there, broken⟩
    | field form => cases form
  by_cases null : v = .null
  · subst null
    exact .nil fun address fault broken => (only broken).1 rfl
  · rw [optional_of_present null, faults_map]
    exact (finds v).congr fun address fault => ⟨fun broken => (only broken).2, .present null⟩

/-- What is broken in the part with the given number. -/
def brokenAt (homes : FilePath.Homes) (rule : Rule) (v : Yaml) (n : Nat) : Breaks :=
  fun address fault => ∃ rest, address = n :: rest ∧ Broken homes rule v address fault

/-- What is broken in the parts from the given number on. -/
def brokenFrom (homes : FilePath.Homes) (rule : Rule) (v : Yaml) (start : Nat) : Breaks :=
  fun address fault => ∃ n, start ≤ n ∧ brokenAt homes rule v n address fault

/-- Where no part is left nothing is broken. -/
theorem enumerates_end {start : Nat} (last : ∀ n, start ≤ n → ∀ address fault,
    ¬brokenAt homes rule v n address fault) : Enumerates (brokenFrom homes rule v start) [] :=
  .nil fun address fault ⟨n, later, broken⟩ => last n later address fault broken

/-- What is broken from a number on is broken in the part of this number or in those after it. -/
theorem enumerates_part {start : Nat} {first rest : List Fault}
    (part : Enumerates (brokenAt homes rule v start) first)
    (after : Enumerates (brokenFrom homes rule v (start + 1)) rest) :
    Enumerates (brokenFrom homes rule v start) (first ++ rest) := by
  refine (part.append ?_ after).congr fun address fault => ⟨?_, ?_⟩
  · rintro address fault other fault' ⟨_, rfl, -⟩ ⟨n, later, _, rfl, -⟩
    exact List.cons_lt_cons_iff.mpr (.inl later)
  · rintro ⟨n, later, broken⟩
    rcases Nat.eq_or_lt_of_le later with rfl | greater
    · exact .inl broken
    · exact .inr ⟨n, greater, broken⟩
  · rintro (broken | ⟨n, later, broken⟩)
    · exact ⟨start, Nat.le_refl _, broken⟩
    · exact ⟨n, Nat.le_of_succ_le later, broken⟩

/-- What breaks no rule by itself is broken in its parts. -/
theorem enumerates_whole {faults : List Fault} (fine : ∀ problem, ¬Wrong homes rule v problem)
    (plain : ∀ inner, rule ≠ .optional inner)
    (parts : Enumerates (brokenFrom homes rule v 0) faults) :
    Enumerates (Broken homes rule v) faults := by
  refine parts.congr fun address fault => ⟨fun broken => ?_, fun ⟨_, _, _, _, broken⟩ => broken⟩
  cases address with
  | nil =>
    cases broken with
    | here wrong => exact absurd wrong (fine _)
    | present => exact absurd rfl (plain _)
  | cons n rest => exact ⟨n, Nat.zero_le n, rest, rfl, broken⟩

/-- A part that is checked by its own rule is found in the whole. -/
theorem enumerates_brokenAt {n : Nat} {step : PathStep} {u : Yaml} (finds : Finds homes inner check)
    (same : ∀ address fault, Broken homes rule v (n :: address) fault ↔
      ∃ below, fault = below.inside step ∧ Broken homes inner u address below) :
    Enumerates (brokenAt homes rule v n) ((check u).under step).faults := by
  refine ((finds u).inside n step).congr fun address fault => ⟨?_, ?_⟩
  · rintro ⟨rest, rfl, broken⟩
    obtain ⟨below, rfl, deeper⟩ := (same rest fault).mp broken
    exact ⟨rest, below, rfl, rfl, deeper⟩
  · rintro ⟨rest, below, rfl, rfl, broken⟩
    exact ⟨rest, rfl, (same rest _).mpr ⟨below, rfl, broken⟩⟩

/-- The elements that are found are those of a value that is taken as a list. -/
theorem elements?_eq_some {elements : List Yaml} : elements? v = some elements ↔ Lists v elements := by
  constructor
  · intro found
    cases v with
    | list | set | pair =>
      obtain rfl := Option.some.inj found
      constructor
    | _ => cases found
  · intro lists
    cases lists <;> rfl

/-- A value has its elements in one way only. -/
theorem Lists.unique {items others : List Yaml} (one : Lists v items) (other : Lists v others) :
    others = items :=
  Option.some.inj ((elements?_eq_some.mpr other).symm.trans (elements?_eq_some.mpr one))

/-- The elements of a list are found from a position on. -/
theorem enumerates_items (finds : Finds homes rule check) (before elements : List Yaml)
    (lists : Lists v (before ++ elements)) :
    Enumerates (brokenFrom homes (.list rule) v before.length)
      (items check before.length elements).faults := by
  have only : ∀ {others}, Lists v others → others = before ++ elements := lists.unique
  induction elements generalizing before with
  | nil =>
    refine enumerates_end fun n later address fault => ?_
    rintro ⟨rest, rfl, broken⟩
    cases broken with
    | element other stands =>
      rw [only other, List.append_nil, List.getElem?_eq_none later] at stands
      cases stands
    | field form => cases form
  | cons u rest ih =>
    have stands : (before ++ u :: rest)[before.length]? = some u := by simp
    have whole : before ++ u :: rest = (before ++ [u]) ++ rest := by simp
    have others := ih (before ++ [u]) (whole ▸ lists) fun other => whole ▸ only other
    rw [List.length_append, List.length_singleton] at others
    have tail : (items check before.length (u :: rest)).faults =
        ((check u).under (.index before.length)).faults ++
          (items check (before.length + 1) rest).faults :=
      congrArg _ (List.append_nil _)
    rw [tail]
    refine enumerates_part (enumerates_brokenAt finds fun address fault => ⟨fun broken => ?_, ?_⟩)
      others
    · cases broken with
      | element other found broken =>
        rw [only other] at found
        obtain rfl := Option.some.inj (stands.symm.trans found)
        exact ⟨_, rfl, broken⟩
      | field form => cases form
    · rintro ⟨below, rfl, broken⟩
      exact .element lists stands broken

/-- The check of lists finds what is broken in their elements. -/
theorem Finds.list (finds : Finds homes rule check) : Finds homes (.list rule) (list check) := by
  intro v
  rw [Config.list]
  cases listed : elements? v with
  | none =>
    have other : ∀ elements, ¬Lists v elements := fun elements lists => by
      cases listed.symm.trans (elements?_eq_some.mpr lists)
    refine .singleton [] fun address fault => ⟨fun broken => ?_, ?_⟩
    · cases broken with
      | here wrong =>
        cases wrong with
        | plain why => exact why.elim
        | list => exact ⟨rfl, rfl⟩
        | group form => cases form
      | element lists => exact absurd lists (other _)
      | field form => cases form
    · rintro ⟨rfl, rfl⟩
      exact .here (.list other)
  | some elements =>
    have lists := elements?_eq_some.mp listed
    refine enumerates_whole (fun problem wrong => ?_) (by simp)
      (enumerates_items finds [] elements lists)
    cases wrong with
    | plain why => exact why.elim
    | list other => exact other _ lists
    | group form => cases form

/-- The part of a setting is broken exactly if the setting is. -/
theorem brokenAt_field {name key : String} {fields : List (String × Rule)} {n : Nat}
    (form : rule.form? = some (name, fields)) (placed : fields[n]? = some (key, inner))
    (homes : FilePath.Homes) (entries : Entries) (address : List Nat) (fault : Fault) :
    Broken homes rule (.mapping entries) (n :: address) fault ↔
      ∃ u below, field? entries key = some u ∧ fault = below.inside (.key key) ∧
        Broken homes inner u address below := by
  constructor
  · intro broken
    generalize numbered : n :: address = place at broken
    cases broken with
    | here => cases numbered
    | present | element => cases form
    | field form' placed' stands broken =>
      obtain ⟨rfl, rfl⟩ := List.cons.inj numbered
      obtain ⟨rfl, rfl⟩ := Prod.mk.inj (Option.some.inj (form.symm.trans form'))
      obtain ⟨rfl, rfl⟩ := Prod.mk.inj (Option.some.inj (placed.symm.trans placed'))
      exact ⟨_, _, stands, rfl, broken⟩
    | surplus =>
      -- A section that does not exist has a number after those of all settings.
      obtain ⟨rfl, rfl⟩ := List.cons.inj numbered
      cases form
      cases placed.symm.trans (List.getElem?_eq_none (by simp))
  · rintro ⟨u, below, stands, rfl, broken⟩
    exact .field form placed stands broken

/-- A setting is found in the mapping that has it. -/
theorem enumerates_field {name key : String} {fields : List (String × Rule)} {entries : Entries}
    {n : Nat} (default : α) (finds : Finds homes inner check)
    (form : rule.form? = some (name, fields)) (placed : fields[n]? = some (key, inner)) :
    Enumerates (brokenAt homes rule (.mapping entries) n) (field entries key default check).faults := by
  have part := brokenAt_field form placed homes entries
  rw [field]
  cases stands : field? entries key with
  | none =>
    refine .nil ?_
    rintro address fault ⟨rest, rfl, broken⟩
    obtain ⟨u, -, found, -⟩ := (part rest fault).mp broken
    cases found.symm.trans stands
  | some u =>
    refine enumerates_brokenAt finds fun address fault => ?_
    rw [part address fault]
    simp [stands]

/-- A mapping has no part after its settings. -/
theorem enumerates_fields_end (rule : Rule) {name : String} {fields : List (String × Rule)}
    {entries : Entries} (form : rule.form? = some (name, fields)) (closed : rule ≠ .config) :
    Enumerates (brokenFrom homes rule (.mapping entries) fields.length) [] := by
  refine enumerates_end fun n later address fault => ?_
  rintro ⟨rest, rfl, broken⟩
  cases broken with
  | present | element => cases form
  | field form' placed =>
    obtain ⟨rfl, rfl⟩ := Prod.mk.inj (Option.some.inj (form.symm.trans form'))
    rw [List.getElem?_eq_none later] at placed
    cases placed
  | surplus => exact closed rfl

/-- The check of a group finds what is broken in its settings. -/
theorem finds_group {name : String} {fields : List (String × Rule)} {default : α}
    {check : Entries → Checked α} (form : rule.form? = some (name, fields))
    (parts : ∀ entries, Enumerates (brokenFrom homes rule (.mapping entries) 0)
      (check entries).faults) : Finds homes rule (group name default check) := by
  intro v
  have grouped : ∀ {u : Yaml} {problem : Problem}, Wrong homes rule u problem →
      problem = .notMapping name ∧ ∀ entries, u ≠ .mapping entries := by
    intro u problem wrong
    cases wrong with
    | group form' other =>
      obtain ⟨rfl, -⟩ := Prod.mk.inj (Option.some.inj (form.symm.trans form'))
      exact ⟨rfl, other⟩
    | plain why => cases rule <;> first | exact why.elim | cases form
    | list => cases form
  have refused : (∀ entries, v ≠ .mapping entries) → Enumerates (Broken homes rule v)
      [{ path := [], problem := .notMapping name, found := v }] := by
    intro other
    refine .singleton [] fun address fault => ⟨fun broken => ?_, ?_⟩
    · cases broken with
      | here wrong =>
        obtain ⟨rfl, -⟩ := grouped wrong
        exact ⟨rfl, rfl⟩
      | present | element => cases form
      | field | surplus => exact absurd rfl (other _)
    · rintro ⟨rfl, rfl⟩
      exact .here (.group form other)
  cases v with
  | mapping entries =>
    refine enumerates_whole (fun problem wrong => (grouped wrong).2 entries rfl) ?_ (parts entries)
    rintro inner rfl
    cases form
  | _ => exact refused nofun

/-! ## Sections -/

/-- The check of outputs finds what is broken. -/
theorem finds_logOutput : Finds homes .output (logOutput homes) :=
  finds_group rfl fun _ =>
    enumerates_part (enumerates_field _ finds_format rfl rfl) <|
    enumerates_part (enumerates_field _ finds_destination rfl rfl) <|
    enumerates_part (enumerates_field _ finds_level.optional rfl rfl) <|
    enumerates_fields_end .output rfl nofun

/-- The check of the logging section finds what is broken. -/
theorem finds_loggingSection : Finds homes .logging (loggingSection homes) :=
  finds_group rfl fun _ =>
    enumerates_part (enumerates_field _ finds_level rfl rfl) <|
    enumerates_part (enumerates_field _ finds_logOutput.list rfl rfl) <|
    enumerates_fields_end .logging rfl nofun

/-- The check of the analyzer's path finds what is broken. -/
theorem finds_executable : Finds homes (.optional .text) executable := by
  intro v
  rw [executable]
  exact (faults_map _ (optional text v)).symm ▸ finds_text.optional v

/-- The check of the analyzer section finds what is broken. -/
theorem finds_analyzerSection : Finds homes .analyzer analyzerSection :=
  finds_group rfl fun _ =>
    enumerates_part (enumerates_field _ finds_executable rfl rfl) <|
    enumerates_part (enumerates_field _ finds_text.list rfl rfl) <|
    enumerates_fields_end .analyzer rfl nofun

/-- The check of the pipeline section finds what is broken. -/
theorem finds_pipelineSection : Finds homes .pipeline pipelineSection :=
  finds_group rfl fun _ =>
    enumerates_part (enumerates_field _ finds_debounce rfl rfl) <|
    enumerates_fields_end .pipeline rfl nofun

/-- The fault of an entry that is no section. -/
def unknownSection? (entry : Yaml × Yaml) : Option Fault :=
  match entry.1 with
  | .text name =>
    if ["logging", "analyzer", "pipeline"].contains name then none
    else some { path := [.key name], problem := .unknown, found := entry.2 }
  | _ => none

/-- An entry has a fault exactly if it is named by a text that names no section. -/
theorem unknownSection?_eq_some {entry : Yaml × Yaml} {fault : Fault} :
    unknownSection? entry = some fault ↔ ∃ name, entry.1 = .text name ∧
      name ∉ ["logging", "analyzer", "pipeline"] ∧
      fault = { path := [.key name], problem := .unknown, found := entry.2 } := by
  obtain ⟨key, v⟩ := entry
  cases key with
  | text name =>
    simp only [unknownSection?, List.contains_eq_mem, decide_eq_true_eq, Yaml.text.injEq,
      exists_eq_left']
    split
    · rename_i known
      simp [known]
    · rename_i unknown
      simp [unknown, eq_comm]
  | _ => simp [unknownSection?]

/-- After the settings of a configuration only a section that does not exist is broken. -/
theorem broken_surplus {entries : Entries} {entry : Yaml × Yaml} {n : Nat} {address : List Nat}
    {fault : Fault} (stands : entries[n]? = some entry) :
    Broken homes .config (.mapping entries) ((3 + n) :: address) fault ↔
      address = [] ∧ unknownSection? entry = some fault := by
  rw [unknownSection?_eq_some]
  constructor
  · intro broken
    generalize numbered : (3 + n) :: address = place at broken
    cases broken with
    | here => cases numbered
    | field form placed =>
      obtain ⟨rfl, rfl⟩ := List.cons.inj numbered
      cases form
      cases placed.symm.trans (List.getElem?_eq_none (by simp))
    | surplus found unknown =>
      obtain ⟨same, rfl⟩ := List.cons.inj numbered
      obtain rfl := Nat.add_left_cancel same
      obtain rfl := Option.some.inj (stands.symm.trans found)
      exact ⟨rfl, _, rfl, unknown, rfl⟩
  · rintro ⟨rfl, name, named, unknown, rfl⟩
    obtain ⟨key, v⟩ := entry
    obtain rfl : key = .text name := named
    exact .surplus stands unknown

/-- Sections that do not exist are found from a position on. -/
theorem enumerates_unknownSections (before rest : Entries) :
    Enumerates (brokenFrom homes .config (.mapping (before ++ rest)) (3 + before.length))
      (unknownSections rest) := by
  induction rest generalizing before with
  | nil =>
    refine enumerates_end fun n later address fault => ?_
    rintro ⟨place, rfl, broken⟩
    cases broken with
    | field form placed =>
      cases form
      have outside : 3 ≤ n := by omega
      rw [List.getElem?_eq_none outside] at placed
      cases placed
    | surplus stands =>
      rw [List.append_nil, List.getElem?_eq_none (by omega)] at stands
      cases stands
  | cons entry rest ih =>
    have stands : (before ++ entry :: rest)[before.length]? = some entry := by simp
    have others := ih (before ++ [entry])
    rw [List.append_assoc, List.singleton_append, List.length_append, List.length_singleton,
      ← Nat.add_assoc] at others
    have split : unknownSections (entry :: rest) =
        (unknownSection? entry).toList ++ unknownSections rest := by
      change List.filterMap unknownSection? (entry :: rest) = _
      rw [List.filterMap_cons]
      cases unknownSection? entry <;> rfl
    rw [split]
    refine enumerates_part ?_ others
    cases found : unknownSection? entry with
    | none =>
      refine .nil ?_
      rintro address fault ⟨place, rfl, broken⟩
      obtain ⟨-, same⟩ := (broken_surplus stands).mp broken
      cases found.symm.trans same
    | some fault =>
      refine .singleton [3 + before.length] fun address other => ⟨?_, ?_⟩
      · rintro ⟨place, rfl, broken⟩
        obtain ⟨rfl, same⟩ := (broken_surplus stands).mp broken
        exact ⟨rfl, Option.some.inj (same.symm.trans found)⟩
      · rintro ⟨rfl, rfl⟩
        exact ⟨[], rfl, (broken_surplus stands).mpr ⟨rfl, found⟩⟩

/-- The faults of a configuration are those of all breaks, in the order of their addresses. -/
theorem enumerates_config (homes : FilePath.Homes) (entries : Entries) :
    Enumerates (Broken homes .config (.mapping entries))
      ((sections homes entries).faults ++ unknownSections entries) := by
  have faults : (sections homes entries).faults =
      (field entries "logging" {} (loggingSection homes)).faults ++
        ((field entries "analyzer" {} analyzerSection).faults ++
          ((field entries "pipeline" {} pipelineSection).faults ++ [])) := rfl
  rw [faults, List.append_nil, List.append_assoc, List.append_assoc]
  have parts : Enumerates (brokenFrom homes .config (.mapping entries) 0) _ :=
    enumerates_part (enumerates_field {} finds_loggingSection rfl rfl) <|
    enumerates_part (enumerates_field {} finds_analyzerSection rfl rfl) <|
    enumerates_part (enumerates_field {} finds_pipelineSection rfl rfl) <|
    enumerates_unknownSections [] entries
  refine enumerates_whole (fun problem wrong => ?_) nofun parts
  cases wrong with
  | plain why => exact why.elim
  | group form other => exact other entries rfl

end Places

end PredicateIndex.Config
