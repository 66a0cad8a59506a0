import PredicateIndex.Decimal.Binary64

/-!
# Shortest decimal text of a double

A finite double is written with the fewest significant digits that read back as the same double;
of two such decimals of that length the nearer one is taken, and of two equally near ones the
even one. The digits are placed positionally while the decimal exponent is at least `-4` and
below `16`, and otherwise after one leading digit with a signed exponent of at least two digits.
-/
namespace PredicateIndex.Binary64

/-- Whether a quotient is at least a power of ten. -/
def atLeastTenTo (num den : Nat) (power : Int) : Bool :=
  if 0 ≤ power then den * Nat.pow 10 power.toNat ≤ num
  else den ≤ num * Nat.pow 10 (-power).toNat

/-- The exponent of the greatest power of ten not above a positive quotient. -/
def decimalExponent (num den : Nat) : Int :=
  let guess := (((Nat.log2 num : Int) - (Nat.log2 den : Int)) * 30103).fdiv 100000 - 1
  if atLeastTenTo num den (guess + 2) then guess + 2
  else if atLeastTenTo num den (guess + 1) then guess + 1
  else if atLeastTenTo num den guess then guess
  else guess - 1

/-- A decimal with integer digits. -/
structure Decimal where
  /-- The digits read as one natural number. -/
  digits : Nat
  /-- The power of ten they are multiplied by. -/
  power : Int
  deriving DecidableEq, Repr, Inhabited

/-- The decimal of `count` digits nearest to a positive quotient among the two neighbours that
read back as `code`. -/
def candidate (num den code : Nat) (top : Int) (count : Nat) : Option Decimal :=
  let power := top - (count : Int) + 1
  let (n, d) :=
    if 0 ≤ power then (num, den * Nat.pow 10 power.toNat)
    else (num * Nat.pow 10 (-power).toNat, den)
  let low := n / d
  let rest := n % d
  let readsBack := fun digits => decimalCode digits power == code
  match readsBack low, readsBack (low + 1) with
  | true, true =>
    if 2 * rest < d || (2 * rest == d && low % 2 == 0) then some ⟨low, power⟩
    else some ⟨low + 1, power⟩
  | true, false => some ⟨low, power⟩
  | false, true => some ⟨low + 1, power⟩
  | false, false => none

/-- The shortest decimal of a finite positive code. -/
def shortest (code : Nat) : Decimal :=
  let (num, den) := scaled (significand code) (exponent code)
  let top := decimalExponent num den
  ((List.range 17).findSome? fun n => candidate num den code top (n + 1)).getD ⟨0, 0⟩

/-- The decimal digits of a natural number without the zeros at its end. -/
def significantDigits (n : Nat) : List Char :=
  ((Nat.toDigits 10 n).reverse.dropWhile (· == '0')).reverse

/-- Exponents in this range are written positionally. -/
def isPositional (top : Int) : Bool := -4 ≤ top && top < 16

/-- An exponent with its sign and at least two digits. -/
def exponentText (top : Int) : String :=
  let digits := String.ofList (Nat.toDigits 10 top.natAbs)
  (if top < 0 then "e-" else "e+") ++ (if digits.length < 2 then "0" ++ digits else digits)

/-- Digits placed around the point of a decimal whose leading digit stands at `10 ^ top`. -/
def positionalText (digits : List Char) (top : Int) : String :=
  if top < 0 then
    "0." ++ String.ofList (List.replicate (-top - 1).toNat '0' ++ digits)
  else
    let whole := top.toNat + 1
    let padded := digits ++ List.replicate (whole - digits.length) '0'
    let fraction := padded.drop whole
    String.ofList (padded.take whole) ++ "." ++ (if fraction.isEmpty then "0" else String.ofList fraction)

/-- Digits after one leading digit, followed by the exponent. -/
def scientificText (digits : List Char) (top : Int) : String :=
  let tail := digits.drop 1
  String.ofList (digits.take 1) ++ (if tail.isEmpty then "" else "." ++ String.ofList tail) ++
    exponentText top

/-- The text of a magnitude code. -/
def magnitudeText (code : Nat) : String :=
  if code == 0 then "0.0"
  else
    let decimal := shortest code
    let top := decimal.power + ((Nat.toDigits 10 decimal.digits).length : Int) - 1
    let digits := significantDigits decimal.digits
    if isPositional top then positionalText digits top else scientificText digits top

/-- The text of a double. -/
def text (x : Binary64) : String :=
  if x.isNotANumber then "nan"
  else
    (if x.negative then "-" else "") ++ (if x.isInfinite then "inf" else magnitudeText x.code)

end PredicateIndex.Binary64
