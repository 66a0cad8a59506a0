import PredicateIndex.Table.Literal.Lexeme

/-!
# What expressions are worth

An expression is worth a value if it is made of numbers, quoted texts, the words for values, and
tuples, sets and dictionaries of values. Sets and dictionaries cannot be members of a set or keys of a
dictionary, and neither can tuples that hold them. What is no value is found out from left to right.
-/
namespace PredicateIndex.Literal

/-- Why an expression has no value. -/
inductive NoValue where
  /-- A part of it is not made of values. -/
  | malformed
  /-- A part of it unpacks entries into a dictionary. -/
  | unpacked
  /-- A value of a type stands where it cannot. -/
  | unhashable (type : String)
  deriving DecidableEq, Repr

/-- The words of what has no value. -/
def NoValue.message : NoValue → String
  | .malformed => "malformed node or string on line 1"
  | .unpacked => "malformed node or string: None"
  | .unhashable type => s!"unhashable type: '{type}'"

/-- What an expression is worth. -/
inductive Worth where
  /-- A number, which may be imaginary, and may have a sign. -/
  | number (isReal isSigned : Bool)
  /-- Another value, which can be a key. -/
  | plain
  /-- A value that cannot be a key because of a type. -/
  | keyless (type : String)
  /-- No value. -/
  | none (reason : NoValue)
  deriving DecidableEq, Repr

namespace Worth

/-- What is not made of values. -/
def malformed : Worth := .none .malformed

/-- What a numeral is worth. -/
def ofNumber : NumberKind → Worth
  | .imaginary => .number false false
  | _ => .number true false

/-- What a signed expression is worth: only a number without a sign can have one. -/
def signed : Worth → Worth
  | .number isReal false => .number isReal true
  | _ => malformed

/-- What a sum or difference is worth: a real number can be followed by an imaginary one. -/
def sum : Worth → Worth → Worth
  | .number true _, .number false false => .plain
  | _, _ => malformed

/-- What a tuple is worth with one more item. -/
def tupleWith : Worth → Worth → Worth
  | .none reason, _ | _, .none reason => .none reason
  | .keyless type, _ | _, .keyless type => .keyless type
  | _, _ => .plain

/-- What an empty set is worth. -/
def emptySet : Worth := .keyless "set"

/-- What a set is worth with one more item. -/
def setWith : Worth → Worth → Worth
  | .none reason, _ | _, .none reason => .none reason
  | _, .keyless type => .none (.unhashable type)
  | _, _ => emptySet

/-- What an empty dictionary is worth. -/
def emptyDictionary : Worth := .keyless "dict"

/-- What a dictionary is worth with one more entry. -/
def dictionaryWith : Worth → Worth → Worth → Worth
  | .none reason, _, _ | _, .none reason, _ | _, _, .none reason => .none reason
  | _, .keyless type, _ => .none (.unhashable type)
  | _, _, _ => emptyDictionary

/-- Why there is no value, if there is none. -/
def noValue? : Worth → Option NoValue
  | .none reason => some reason
  | _ => Option.none

end Worth

end PredicateIndex.Literal
