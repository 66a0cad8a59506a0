import PredicateIndex.Failure
import PredicateIndex.Json.Reader
import PredicateIndex.Value.Path

/-!
# Why a value is no syntax tree

A fault names the first field, in checking order, that breaks its rule: the path that leads to it
and what is wrong there. Besides fields and positions a path has the kind chosen at each node,
which is no part of the data. A tag that is a list or an object is refused before any field is
looked at.
-/
namespace PredicateIndex

/-- The rule a field breaks. -/
inductive Problem where
  /-- A text is wanted. -/
  | notText
  /-- A text in the place of a number or a tag holds an unpaired surrogate. -/
  | notCharacters
  /-- A list is wanted. -/
  | notTuple
  /-- An object is wanted, for a node of the named kind. -/
  | notObject (model : String)
  /-- A required field is absent. -/
  | required
  /-- The tag of an operator must say so. -/
  | notOperatorTag
  /-- An integer is wanted. -/
  | notInteger
  /-- A text is no integer numeral. -/
  | notIntegerText
  /-- A number has a fraction. -/
  | fractional
  /-- A number is infinite or undefined. -/
  | notFinite
  /-- A number is too large. -/
  | oversized
  /-- The nesting is too deep. -/
  | tooDeep
  deriving DecidableEq, Repr

/-- The words of a problem. -/
def Problem.message : Problem → String
  | .notText => "Input should be a valid string"
  | .notCharacters => "Input should be a valid string, unable to parse raw data as a unicode string"
  | .notTuple => "Input should be a valid tuple"
  | .notObject model => "Input should be a valid dictionary or instance of " ++ model
  | .required => "Field required"
  | .notOperatorTag => "Input should be 'operator'"
  | .notInteger => "Input should be a valid integer"
  | .notIntegerText => "Input should be a valid integer, unable to parse string as an integer"
  | .fractional => "Input should be a valid integer, got a number with a fractional part"
  | .notFinite => "Input should be a finite number"
  | .oversized => "Unable to parse input string as an integer, exceeded maximum size"
  | .tooDeep => "Recursion error - maximum validation depth exceeded"

/-- The first broken rule: where and which. -/
structure Fault where
  /-- The path to the field. -/
  path : Path
  /-- The rule it breaks. -/
  problem : Problem
  deriving DecidableEq, Repr

/-- A fault as one line. -/
def Fault.line (fault : Fault) : String :=
  Path.text fault.path ++ ": " ++ fault.problem.message

/-- A structured value used as a tag. -/
inductive BadTag where
  /-- The tag is a list. -/
  | list
  /-- The tag is an object. -/
  | object
  deriving DecidableEq, Repr

/-- The words of a refused tag. -/
def BadTag.message : BadTag → String
  | .list => "unhashable type: 'list'"
  | .object => "unhashable type: 'dict'"

/-- Why analyzer output is no syntax tree. -/
inductive TreeError where
  /-- The text is no JSON. -/
  | text (error : Json.Complaint) (place : Json.Place)
  /-- The text holds an integer that is too long. -/
  | oversizedInteger (digits : Nat)
  /-- The text holds lists or objects that are nested too deep. -/
  | nesting (shape : String)
  /-- The root is no object with a list of items. -/
  | root
  /-- A tag is a list or an object. -/
  | tag (bad : BadTag)
  /-- A field breaks its rule. -/
  | field (fault : Fault)
  deriving DecidableEq, Repr

/-- What a tree error means for the caller: a reported failure, or an unexpected error of the
given words. -/
inductive TreeError.Report where
  /-- Malformed output, with the reason. -/
  | malformed (reason : String)
  /-- An integer that cannot be converted. -/
  | conversion (message : String)
  /-- Lists or objects that are nested too deep. -/
  | nesting (message : String)
  /-- A tag that cannot be looked up. -/
  | lookup (message : String)
  deriving DecidableEq, Repr

/-- How a tree error is reported. -/
def TreeError.report : TreeError → TreeError.Report
  | .text complaint place => .malformed (Json.ReadError.malformed complaint place).message
  | .oversizedInteger digits => .conversion (Numeral.oversizedMessage digits)
  | .nesting shape => .nesting (Json.tooDeepMessage shape)
  | .root => .malformed "root must be an object with a 'predicates' list"
  | .tag bad => .lookup bad.message
  | .field fault => .malformed fault.line

end PredicateIndex
