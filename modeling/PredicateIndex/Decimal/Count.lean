import PredicateIndex.Decimal.Numeral
import PredicateIndex.Text.Quoted

/-!
# Counts written in digits of any script

A count is written in digit characters alone. It has a value only if all of them are decimal digits and
there are not too many. Whether there are too many is seen first, and only as far as the decimal digits
reach from the front.
-/
namespace PredicateIndex.Count

/-- Why digit characters have no value. -/
inductive Fault where
  /-- One of them has no place value. -/
  | notDecimal (digits : String)
  /-- Too many decimal digits stand at the front. -/
  | oversized (digits : Nat)
  deriving DecidableEq, Repr

/-- The words of a fault. -/
def Fault.message : Fault → String
  | .notDecimal digits => "invalid literal for int() with base 10: " ++ Text.quotedStart digits
  | .oversized digits => Numeral.oversizedMessage digits

/-- Whether characters are digits of any kind, and there is one. -/
def isWritten (cs : List Char) : Bool := !cs.isEmpty && cs.all Text.isDigitLike

/-- The number written by decimal digits of any script. -/
def decimalNat? (cs : List Char) : Option Nat :=
  cs.foldl (fun n? c => do return 10 * (← n?) + (← Text.decimalValue? c)) (some 0)

/-- How many decimal digits stand at the front. -/
def leading (cs : List Char) : Nat :=
  (cs.takeWhile fun c => (Text.decimalValue? c).isSome).length

/-- The value of digit characters, of which there must be one. -/
def read (cs : List Char) : Except Fault Nat :=
  if Numeral.digitLimit < leading cs then .error (.oversized (leading cs))
  else
    match if cs.isEmpty then none else decimalNat? cs with
    | none => .error (.notDecimal (String.ofList cs))
    | some n => .ok n

end PredicateIndex.Count
