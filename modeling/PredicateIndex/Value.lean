import PredicateIndex.Decimal.Binary64
import PredicateIndex.Ledger

/-!
# Structured values

The data that the analyzer, the configuration and the reports exchange: null, booleans, integers
of any size, doubles, texts, lists, and objects. The fields of an object are a ledger: they stand in
the order in which their keys first appeared.
-/
namespace PredicateIndex

/-- A structured value. -/
inductive Value where
  /-- The absent value. -/
  | null
  /-- A truth value. -/
  | bool (b : Bool)
  /-- An integer of any size. -/
  | int (n : Int)
  /-- A double. -/
  | float (x : Binary64)
  /-- A text. -/
  | text (s : String)
  /-- A list of values. -/
  | list (items : List Value)
  /-- An object: its fields in order of first appearance. -/
  | object (fields : List (String × Value))
  deriving Repr, Inhabited

/-- The fields of an object, in order. -/
abbrev Fields := Ledger Value

namespace Value

/-- The fields of a value; a value that is no object has none. -/
def fields : Value → Fields
  | .object fs => fs
  | _ => []

/-- The value of a key of an object. -/
def get? (v : Value) (key : String) : Option Value := v.fields.get? key

/-- A text or null. -/
def ofText? : Option String → Value
  | some s => .text s
  | none => .null

/-- An integer or null. -/
def ofInt? : Option Int → Value
  | some n => .int n
  | none => .null

mutual

/-- A value without the fields whose key is refused, at any depth. -/
def dropKeys (refused : String → Bool) : Value → Value
  | .list items => .list (dropKeysList refused items)
  | .object fields => .object (dropKeysFields refused fields)
  | v => v

/-- The values of a list without the refused fields. -/
def dropKeysList (refused : String → Bool) : List Value → List Value
  | [] => []
  | v :: rest => dropKeys refused v :: dropKeysList refused rest

/-- The fields that are not refused, each without the refused fields below it. -/
def dropKeysFields (refused : String → Bool) : List (String × Value) → List (String × Value)
  | [] => []
  | (key, v) :: rest =>
    if refused key then dropKeysFields refused rest
    else (key, dropKeys refused v) :: dropKeysFields refused rest

end

/-- A value without the debugging payloads that the analyzer attaches under `raw`. -/
def stripRaw (v : Value) : Value := dropKeys (· == "raw") v

/-- Whether a value is null. -/
def isNull : Value → Bool
  | .null => true
  | _ => false

mutual

/-- A value without the null fields of its objects, at any depth. -/
def dropNulls : Value → Value
  | .list items => .list (dropNullsList items)
  | .object fields => .object (dropNullsFields fields)
  | v => v

/-- The values of a list without null fields; a null element stays. -/
def dropNullsList : List Value → List Value
  | [] => []
  | v :: rest => dropNulls v :: dropNullsList rest

/-- The fields that are not null, each without null fields below it. -/
def dropNullsFields : List (String × Value) → List (String × Value)
  | [] => []
  | (key, v) :: rest =>
    if v.isNull then dropNullsFields rest else (key, dropNulls v) :: dropNullsFields rest

end

end Value

end PredicateIndex
