import Mathlib.Data.List.Lex
import Mathlib.Order.Basic
import PredicateIndex.Config.Check

/-!
# The rules of a configuration

Every place of a configuration has a rule: that of a section, of a setting, or of an element of a list.
A break is told by its address, which is the numbers of the parts that lead to it; the parts of a
mapping are the settings in the order of their table, and those of a list are its elements. A section
that does not exist is a part that comes after all others. A list of faults enumerates breaks if it has
each of them once, in the order of their addresses; then the first fault of any kind is that of the
break with the smallest address.
-/
namespace PredicateIndex.Config

open Yaml (Entries field?)

/-! ## Rules and breaks -/

/-- What a place of a configuration asks for. -/
inductive Rule where
  /-- A level. -/
  | level
  /-- A format. -/
  | format
  /-- A text. -/
  | text
  /-- A place that records go to. -/
  | destination
  /-- A number of seconds. -/
  | wait
  /-- Null, or what a rule asks for. -/
  | optional (rule : Rule)
  /-- A list of what a rule asks for. -/
  | list (rule : Rule)
  /-- An output of the log. -/
  | output
  /-- The logging section. -/
  | logging
  /-- The analyzer section. -/
  | analyzer
  /-- The pipeline section. -/
  | pipeline
  /-- The whole configuration. -/
  | config
  deriving DecidableEq, Repr

/-- The name and the settings of a rule that asks for a mapping. -/
def Rule.form? : Rule → Option (String × List (String × Rule))
  | .output => some ("LogOutputConfig",
      [("format", .format), ("destination", .destination), ("level", .optional .level)])
  | .logging => some ("LoggingConfig", [("level", .level), ("outputs", .list .output)])
  | .analyzer => some ("AnalyzerConfig", [("path", .optional .text), ("args", .list .text)])
  | .pipeline => some ("PipelineConfig", [("debounce_sec", .wait)])
  | .config => some ("ClauseIndexConfig",
      [("logging", .logging), ("analyzer", .analyzer), ("pipeline", .pipeline)])
  | _ => none

/-- Why a value is none of some names. -/
inductive NoChoice (names : List String) : Yaml → Problem → Prop where
  /-- A text with an unpaired surrogate. -/
  | surrogate (s : String) (unpaired : Text.isWellFormed s = false) :
    NoChoice names (.text s) .notCharacters
  /-- Another text. -/
  | word (s : String) (characters : Text.isWellFormed s) (other : s ∉ names) :
    NoChoice names (.text s) (.choice names)
  /-- No text. -/
  | value (v : Yaml) (other : ∀ s, v ≠ .text s) : NoChoice names v (.choice names)

/-- A value is a text, or the bytes of one. -/
inductive IsText : Yaml → String → Prop where
  /-- A text. -/
  | text (s : String) : IsText (.text s) s
  /-- Bytes. -/
  | bytes (raw : List UInt8) (s : String) (decoded : Utf8.decode raw = .ok s) : IsText (.bytes raw) s

/-- Why a value is no text. -/
inductive NoText : Yaml → Problem → Prop where
  /-- Bytes of no text. -/
  | bytes (raw : List UInt8) (fault : Utf8.Fault) (broken : Utf8.decode raw = .error fault) :
    NoText (.bytes raw) .notCharacters
  /-- Something else. -/
  | value (v : Yaml) (noText : ∀ s, v ≠ .text s) (noBytes : ∀ raw, v ≠ .bytes raw) :
    NoText v .notText

/-- Why records cannot go to a value. -/
inductive NoDestination (homes : FilePath.Homes) (v : Yaml) : Problem → Prop where
  /-- No text. -/
  | value {problem : Problem} (why : NoText v problem) : NoDestination homes v problem
  /-- A path below a home directory that cannot be found. -/
  | homeless (s : String) (fault : FilePath.HomeFault) (isText : IsText v s)
    (file : LogOutput.isStream s = false)
    (lost : (FilePath.ofText s).expandHome homes = .error fault) :
    NoDestination homes v (.noHome fault)
  /-- A relative path. -/
  | relative (s : String) (path : FilePath) (isText : IsText v s)
    (file : LogOutput.isStream s = false)
    (expanded : (FilePath.ofText s).expandHome homes = .ok path)
    (relative : path.isAbsolute = false) : NoDestination homes v (.relativeDestination s)

/-- Values of the kinds that can stand for numbers. -/
def MayCount : Yaml → Prop
  | .float _ | .int _ | .bool _ | .text _ | .bytes _ => True
  | _ => False

/-- A value stands for a number. -/
inductive StandsFor : Yaml → Binary64 → Prop where
  /-- A double. -/
  | float (x : Binary64) : StandsFor (.float x) x
  /-- An integer in the range of doubles. -/
  | int (n : Int) (inside : (Binary64.ofInt n).isInfinite = false) :
    StandsFor (.int n) (.ofInt n)
  /-- A truth value. -/
  | bool (b : Bool) : StandsFor (.bool b) (.ofInt (if b then 1 else 0))
  /-- A numeral. -/
  | text (s : String) (x : Binary64) (characters : Text.isWellFormed s)
    (read : Numeral.readDecimal? s = some x) : StandsFor (.text s) x
  /-- The bytes of a numeral. -/
  | bytes (raw : List UInt8) (s : String) (x : Binary64) (decoded : Utf8.decode raw = .ok s)
    (read : Numeral.readDecimal? s = some x) : StandsFor (.bytes raw) x

/-- Why a value stands for no number. -/
inductive NoNumber : Yaml → Problem → Prop where
  /-- An integer outside of the range of doubles. -/
  | large (n : Int) (outside : (Binary64.ofInt n).isInfinite) : NoNumber (.int n) .notNumber
  /-- A text with an unpaired surrogate. -/
  | surrogate (s : String) (unpaired : Text.isWellFormed s = false) :
    NoNumber (.text s) .notCharacters
  /-- A text that is no numeral. -/
  | word (s : String) (characters : Text.isWellFormed s) (read : Numeral.readDecimal? s = none) :
    NoNumber (.text s) .notNumberText
  /-- Bytes of no numeral. -/
  | bytes (raw : List UInt8)
    (read : ∀ s, Utf8.decode raw = .ok s → Numeral.readDecimal? s = none) :
    NoNumber (.bytes raw) .notNumberText
  /-- A value of another kind. -/
  | kind (v : Yaml) (other : ¬MayCount v) : NoNumber v .notNumber

/-- Why nobody can wait for a value. -/
inductive NoWait (v : Yaml) : Problem → Prop where
  /-- No number. -/
  | value {problem : Problem} (why : NoNumber v problem) : NoWait v problem
  /-- A number below zero. -/
  | negative (x : Binary64) (stands : StandsFor v x) (below : x.isBelowZero) :
    NoWait v (.negativeDebounce x)

/-- The elements of a value that is taken as a list. -/
inductive Lists : Yaml → List Yaml → Prop where
  /-- A list. -/
  | list (items : List Yaml) : Lists (.list items) items
  /-- A set. -/
  | set (members : List Yaml) : Lists (.set members) members
  /-- A pair. -/
  | pair (first second : Yaml) : Lists (.pair first second) [first, second]

/-- Why a value is not what a rule of values without parts asks for. -/
def Rule.Unfit (homes : FilePath.Homes) : Rule → Yaml → Problem → Prop
  | .level => NoChoice (LogLevel.all.map LogLevel.settingName)
  | .format => NoChoice (LogFormat.all.map LogFormat.name)
  | .text => NoText
  | .destination => NoDestination homes
  | .wait => NoWait
  | _ => fun _ _ => False

/-- What stands at a place breaks the rule of the place by itself, whatever is in it. -/
inductive Wrong (homes : FilePath.Homes) : Rule → Yaml → Problem → Prop where
  /-- A value without parts is not what it should be. -/
  | plain {rule : Rule} {v : Yaml} {problem : Problem} (why : rule.Unfit homes v problem) :
    Wrong homes rule v problem
  /-- No list. -/
  | list {rule : Rule} {v : Yaml} (other : ∀ items, ¬Lists v items) :
    Wrong homes (.list rule) v .notList
  /-- No mapping. -/
  | group {rule : Rule} {v : Yaml} {name : String} {fields : List (String × Rule)}
    (form : rule.form? = some (name, fields)) (other : ∀ entries, v ≠ .mapping entries) :
    Wrong homes rule v (.notMapping name)

/-- The fault as it is seen from one step further out. -/
def Fault.inside (fault : Fault) (step : PathStep) : Fault :=
  { fault with path := step :: fault.path }

/-- Breaks by their addresses. -/
abbrev Breaks := List Nat → Fault → Prop

/-- The rules that are broken by a value under a rule. -/
inductive Broken (homes : FilePath.Homes) : Rule → Yaml → Breaks where
  /-- The rule itself. -/
  | here {rule : Rule} {v : Yaml} {problem : Problem} (wrong : Wrong homes rule v problem) :
    Broken homes rule v [] { path := [], problem, found := v }
  /-- The rule of what is not null. -/
  | present {rule : Rule} {v : Yaml} {address : List Nat} {fault : Fault} (there : v ≠ .null)
    (broken : Broken homes rule v address fault) : Broken homes (.optional rule) v address fault
  /-- The rule of an element. -/
  | element {rule : Rule} {v u : Yaml} {items : List Yaml} {n : Nat} {address : List Nat}
    {fault : Fault} (lists : Lists v items) (stands : items[n]? = some u)
    (broken : Broken homes rule u address fault) :
    Broken homes (.list rule) v (n :: address) (fault.inside (.index n))
  /-- The rule of a setting. -/
  | field {rule inner : Rule} {name key : String} {fields : List (String × Rule)}
    {entries : Entries} {v : Yaml} {n : Nat} {address : List Nat} {fault : Fault}
    (form : rule.form? = some (name, fields)) (placed : fields[n]? = some (key, inner))
    (stands : field? entries key = some v) (broken : Broken homes inner v address fault) :
    Broken homes rule (.mapping entries) (n :: address) (fault.inside (.key key))
  /-- A section that does not exist. -/
  | surplus {entries : Entries} {name : String} {v : Yaml} {n : Nat}
    (stands : entries[n]? = some (.text name, v))
    (unknown : name ∉ ["logging", "analyzer", "pipeline"]) :
    Broken homes .config (.mapping entries) [3 + n]
      { path := [.key name], problem := .unknown, found := v }

/-! ## Faults in the order of addresses -/

/-- Faults are those of all breaks, each of them once, in the order of the addresses. -/
def Enumerates (breaks : Breaks) (faults : List Fault) : Prop :=
  ∃ places : List (List Nat × Fault), places.map Prod.snd = faults ∧
    places.Pairwise (fun one other => one.1 < other.1) ∧
    ∀ address fault, (address, fault) ∈ places ↔ breaks address fault

namespace Enumerates

variable {breaks others : Breaks} {faults : List Fault}

/-- The same breaks are enumerated alike. -/
theorem congr (enumerates : Enumerates breaks faults)
    (same : ∀ address fault, others address fault ↔ breaks address fault) :
    Enumerates others faults := by
  obtain ⟨places, listed, ordered, all⟩ := enumerates
  exact ⟨places, listed, ordered, fun address fault => (all address fault).trans
    (same address fault).symm⟩

/-- Where nothing is broken there is no fault. -/
theorem nil (none : ∀ address fault, ¬breaks address fault) : Enumerates breaks [] :=
  ⟨[], rfl, .nil, fun address fault => iff_of_false List.not_mem_nil (none address fault)⟩

/-- Where one rule is broken there is one fault. -/
theorem singleton (place : List Nat) {fault : Fault}
    (one : ∀ address other, breaks address other ↔ address = place ∧ other = fault) :
    Enumerates breaks [fault] := by
  refine ⟨[(place, fault)], rfl, List.pairwise_singleton _ _, fun address other => ?_⟩
  rw [List.mem_singleton, Prod.mk.injEq, one]

/-- Two parts are enumerated one after the other, if the addresses of the first come before those of
the second. -/
theorem append {first second : Breaks} {before after : List Fault}
    (apart : ∀ address fault other fault', first address fault → second other fault' →
      address < other)
    (one : Enumerates first before) (other : Enumerates second after) :
    Enumerates (fun address fault => first address fault ∨ second address fault)
      (before ++ after) := by
  obtain ⟨places, rfl, ordered, all⟩ := one
  obtain ⟨places', rfl, ordered', all'⟩ := other
  refine ⟨places ++ places', List.map_append, List.pairwise_append.mpr ⟨ordered, ordered', ?_⟩, ?_⟩
  · intro place among place' among'
    exact apart _ _ _ _ ((all _ _).mp among) ((all' _ _).mp among')
  · intro address fault
    rw [List.mem_append, all, all']

/-- The faults of a part, seen from outside. -/
theorem inside (enumerates : Enumerates breaks faults) (n : Nat) (step : PathStep) :
    Enumerates (fun address fault => ∃ rest inner, address = n :: rest ∧
      fault = inner.inside step ∧ breaks rest inner) (faults.map (·.inside step)) := by
  obtain ⟨places, rfl, ordered, all⟩ := enumerates
  refine ⟨places.map fun place => (n :: place.1, place.2.inside step), ?_, ?_, ?_⟩
  · rw [List.map_map, List.map_map]
    rfl
  · refine List.pairwise_map.mpr (ordered.imp fun less => ?_)
    exact List.cons_lt_cons_iff.mpr (.inr ⟨rfl, less⟩)
  · intro address fault
    constructor
    · intro among
      obtain ⟨place, there, same⟩ := List.mem_map.mp among
      obtain ⟨rfl, rfl⟩ := Prod.mk.inj same
      exact ⟨place.1, place.2, rfl, rfl, (all _ _).mp there⟩
    · rintro ⟨rest, inner, rfl, rfl, broken⟩
      exact List.mem_map.mpr ⟨(rest, inner), (all _ _).mpr broken, rfl⟩

/-- Something is found in the faults exactly if it is found in a break, and in none with a smaller
address. -/
theorem findSome?_eq_some {β : Type} (enumerates : Enumerates breaks faults)
    (f : Fault → Option β) (b : β) :
    faults.findSome? f = some b ↔ ∃ address fault, breaks address fault ∧ f fault = some b ∧
      ∀ other fault', breaks other fault' → other < address → f fault' = none := by
  obtain ⟨places, rfl, ordered, all⟩ := enumerates
  rw [List.findSome?_map, List.findSome?_eq_some_iff]
  constructor
  · rintro ⟨before, place, after, rfl, found, none⟩
    refine ⟨place.1, place.2, (all _ _).mp (by simp), found, ?_⟩
    intro other fault' broken less
    obtain ⟨-, later, -⟩ := List.pairwise_append.mp ordered
    rcases List.mem_append.mp ((all _ _).mpr broken) with earlier | rest
    · exact none _ earlier
    · -- No place from here on has a smaller address.
      exfalso
      rcases List.mem_cons.mp rest with same | after
      · rw [← same] at less
        exact lt_irrefl _ less
      · exact lt_asymm less ((List.pairwise_cons.mp later).1 _ after)
  · rintro ⟨address, fault, broken, found, none⟩
    obtain ⟨before, after, split⟩ := List.append_of_mem ((all _ _).mpr broken)
    refine ⟨before, (address, fault), after, split, found, fun place among => ?_⟩
    rw [split] at ordered
    obtain ⟨-, -, earlier⟩ := List.pairwise_append.mp ordered
    refine none place.1 place.2 ((all _ _).mp ?_) (earlier place among _ List.mem_cons_self)
    rw [split]
    exact List.mem_append_left _ among

/-- Nothing is found in the faults exactly if it is found in no break. -/
theorem findSome?_eq_none {β : Type} (enumerates : Enumerates breaks faults)
    (f : Fault → Option β) :
    faults.findSome? f = none ↔ ∀ address fault, breaks address fault → f fault = none := by
  obtain ⟨places, rfl, -, all⟩ := enumerates
  rw [List.findSome?_map, List.findSome?_eq_none_iff]
  exact ⟨fun none address fault broken => none _ ((all _ _).mpr broken),
    fun none place among => none _ _ ((all _ _).mp among)⟩

end Enumerates

end PredicateIndex.Config
