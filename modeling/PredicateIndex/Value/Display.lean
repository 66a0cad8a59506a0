import PredicateIndex.Decimal.Shortest
import PredicateIndex.Text.Quoted
import PredicateIndex.Value

/-!
# Text of a value in messages

Messages show a value as text: a bare text stands for itself, and everything inside a list or an
object is shown in its literal form, with texts quoted.
-/
namespace PredicateIndex.Value

mutual

/-- The literal form of a value. -/
def literal : Value → String
  | .null => "None"
  | .bool true => "True"
  | .bool false => "False"
  | .int n => toString n
  | .float x => x.text
  | .text s => Text.quoted s
  | .list items => "[" ++ String.intercalate ", " (literals items) ++ "]"
  | .object fields => "\x7b" ++ String.intercalate ", " (fieldLiterals fields) ++ "\x7d"

/-- The literal forms of the values of a list. -/
def literals : List Value → List String
  | [] => []
  | v :: rest => literal v :: literals rest

/-- The literal forms of the fields of an object. -/
def fieldLiterals : List (String × Value) → List String
  | [] => []
  | (key, v) :: rest => (Text.quoted key ++ ": " ++ literal v) :: fieldLiterals rest

end

/-- A value as it stands in a message. -/
def display : Value → String
  | .text s => s
  | v => literal v

end PredicateIndex.Value
