import PredicateIndex.Decimal.Numeral
import PredicateIndex.Decimal.Shortest
import PredicateIndex.Text.Quoted
import PredicateIndex.Value
import PredicateIndex.Yaml.Timestamp

/-!
# Values of a configuration document

A document holds null, booleans, integers, doubles, texts, points in time, lists and mappings, and
where a tag asks for them bytes, sets and pairs. A mapping may have keys of any scalar kind; it keeps
them in the order in which they first appeared. Numbers and booleans that are equal as numbers are the
same key. Every structured value is such a value.
-/
namespace PredicateIndex

/-- A value of a configuration document. -/
inductive Yaml where
  /-- The absent value. -/
  | null
  /-- A truth value. -/
  | bool (b : Bool)
  /-- An integer. -/
  | int (n : Int)
  /-- A double. -/
  | float (x : Binary64)
  /-- A text. -/
  | text (s : String)
  /-- A point in time. -/
  | stamp (t : Timestamp)
  /-- Bytes. -/
  | bytes (raw : List UInt8)
  /-- A list. -/
  | list (items : List Yaml)
  /-- A set, with its members in the order in which they are visited. -/
  | set (members : List Yaml)
  /-- A pair. -/
  | pair (first second : Yaml)
  /-- A mapping. -/
  | mapping (entries : List (Yaml × Yaml))
  deriving Repr, Inhabited

namespace Yaml

/-- The entries of a mapping. -/
abbrev Entries := List (Yaml × Yaml)

/-- The number a value is equal to as a key: that of an integer, a boolean or a whole double. -/
def wholeNumber? : Yaml → Option Int
  | .int n => some n
  | .bool b => some (if b then 1 else 0)
  | .float x => x.toInt?
  | _ => none

/-- Whether two values are the same key. -/
def sameKey (a b : Yaml) : Bool :=
  match a, b with
  | .null, .null => true
  | .text s, .text t => s == t
  | .stamp s, .stamp t => s == t
  | .bytes raw, .bytes other => raw == other
  | .float x, .float y => x == y || (wholeNumber? a).isSome && wholeNumber? a == wholeNumber? b
  | _, _ => (wholeNumber? a).isSome && wholeNumber? a == wholeNumber? b

/-- The value under a key. -/
def lookup (entries : Entries) (key : Yaml) : Option Yaml :=
  (entries.find? fun entry => entry.1.sameKey key).map Prod.snd

/-- Set a key: an old key keeps its place and its form, a new key goes to the end. -/
def put : Entries → Yaml → Yaml → Entries
  | [], key, value => [(key, value)]
  | (k, old) :: rest, key, value =>
    if k.sameKey key then (k, value) :: rest else (k, old) :: put rest key value

/-- The value under a text. -/
def field? (entries : Entries) (name : String) : Option Yaml := lookup entries (.text name)

mutual

/-- A structured value as a value of a document. -/
def ofValue : Value → Yaml
  | .null => .null
  | .bool b => .bool b
  | .int n => .int n
  | .float x => .float x
  | .text s => .text s
  | .list items => .list (ofValues items)
  | .object fields => .mapping (ofFields fields)

/-- The values of a list as values of a document. -/
def ofValues : List Value → List Yaml
  | [] => []
  | v :: rest => ofValue v :: ofValues rest

/-- The fields of an object as entries of a mapping. -/
def ofFields : List (String × Value) → Entries
  | [] => []
  | (key, v) :: rest => (.text key, ofValue v) :: ofFields rest

end

mutual

/-- The literal form of a value in a message. -/
def literal : Yaml → String
  | .null => "None"
  | .bool true => "True"
  | .bool false => "False"
  | .int n => toString n
  | .float x => x.text
  | .text s => Text.quoted s
  | .stamp t => t.literal
  | .bytes raw => Text.quotedBytes raw
  | .list items => "[" ++ String.intercalate ", " (literals items) ++ "]"
  | .set [] => "set()"
  | .set members => "\x7b" ++ String.intercalate ", " (literals members) ++ "\x7d"
  | .pair first second => "(" ++ literal first ++ ", " ++ literal second ++ ")"
  | .mapping entries => "\x7b" ++ String.intercalate ", " (entryLiterals entries) ++ "\x7d"

/-- The literal forms of the values of a list. -/
def literals : List Yaml → List String
  | [] => []
  | v :: rest => literal v :: literals rest

/-- The literal forms of the entries of a mapping. -/
def entryLiterals : List (Yaml × Yaml) → List String
  | [] => []
  | (key, v) :: rest => (literal key ++ ": " ++ literal v) :: entryLiterals rest

end

/-- A value as it stands in a message: a text stands for itself, and so does a point in time. -/
def display : Yaml → String
  | .text s => s
  | .stamp t => t.text
  | v => literal v

mutual

/-- Whether a value can be put into a message: no integer in it is written with too many digits. -/
def isWritable : Yaml → Bool
  | .int n => n.natAbs < Nat.pow 10 Numeral.digitLimit
  | .list items => areWritable items
  | .set members => areWritable members
  | .pair first second => isWritable first && isWritable second
  | .mapping entries => haveWritable entries
  | _ => true

/-- Whether the values of a list can be put into a message. -/
def areWritable : List Yaml → Bool
  | [] => true
  | v :: rest => isWritable v && areWritable rest

/-- Whether the keys and values of a mapping can be put into a message. -/
def haveWritable : List (Yaml × Yaml) → Bool
  | [] => true
  | (key, v) :: rest => isWritable key && isWritable v && haveWritable rest

end

mutual

/-- A value overridden by another: mappings are merged key by key, anything else is replaced. -/
def merge (base : Yaml) : Yaml → Yaml
  | .mapping entries =>
    match base with
    | .mapping old => .mapping (mergeEntries old entries)
    | _ => .mapping entries
  | v => v

/-- A mapping overridden by entries, one after another. -/
def mergeEntries (base : Entries) : List (Yaml × Yaml) → Entries
  | [] => base
  | (key, v) :: rest =>
    mergeEntries
      (put base key (match lookup base key with
        | some old => merge old v
        | none => v))
      rest

end

/-- Whether a document counts as empty: null, false, zero and everything without content. -/
def isEmptyDocument : Yaml → Bool
  | .null | .bool false | .text "" | .bytes [] | .list [] | .set [] | .mapping [] => true
  | .int n => n == 0
  | .float x => x.toInt? == some 0
  | _ => false

end Yaml

end PredicateIndex
