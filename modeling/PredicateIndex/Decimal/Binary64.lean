/-!
# Binary64 numbers as exact codes

A double is a sign and a magnitude code: the code counts the representable magnitudes upwards
from zero, so code `0` is zero, the codes from `infinityCode` on are infinity and the undefined
value, and a larger finite code is a larger magnitude. Everything here is exact natural-number
arithmetic: a quotient of two naturals is rounded to the nearest code, a tie to the even one.
-/
namespace PredicateIndex

/-- A double: its sign and the code of its magnitude. -/
structure Binary64 where
  /-- Whether the sign bit is set. -/
  negative : Bool
  /-- Position among the magnitudes, counted from zero. -/
  code : Nat
  deriving DecidableEq, Repr, Inhabited

namespace Binary64

/-- Number of fractions of one binade. -/
def fractionCount : Nat := Nat.pow 2 52

/-- Code of an infinite magnitude. -/
def infinityCode : Nat := 2047 * fractionCount

/-- The undefined value. -/
def notANumber : Binary64 := ⟨false, infinityCode + 1⟩

/-- The infinity of a sign. -/
def infinity (negative : Bool) : Binary64 := ⟨negative, infinityCode⟩

/-- Whether a double is the undefined value. -/
def isNotANumber (x : Binary64) : Bool := infinityCode < x.code

/-- Whether a double is an infinity. -/
def isInfinite (x : Binary64) : Bool := x.code == infinityCode

/-- Whether a double is a real number. -/
def isFinite (x : Binary64) : Bool := x.code < infinityCode

/-- Whether a double lies strictly below zero; the negative zero does not. -/
def isBelowZero (x : Binary64) : Bool := x.negative && x.code != 0 && !x.isNotANumber

/-- Integer significand of a magnitude code. -/
def significand (code : Nat) : Nat :=
  if code < fractionCount then code else fractionCount + code % fractionCount

/-- Power of two that scales the significand of a magnitude code. -/
def exponent (code : Nat) : Int :=
  if code < fractionCount then -1074 else (code / fractionCount : Nat) - 1075

/-- A natural number times a power of two, as a quotient of naturals. -/
def scaled (n : Nat) (power : Int) : Nat × Nat :=
  if 0 ≤ power then (n * Nat.pow 2 power.toNat, 1) else (n, Nat.pow 2 (-power).toNat)

/-- The exact magnitude of a finite double as a quotient of naturals. -/
def quotient (x : Binary64) : Nat × Nat :=
  scaled (significand x.code) (exponent x.code)

/-- A quotient rounded to the nearest natural number, a tie to the even one. -/
def roundHalfEven (num den : Nat) : Nat :=
  let q := num / den
  let r := num % den
  if den < 2 * r || (den == 2 * r && q % 2 == 1) then q + 1 else q

/-- The power of two whose multiples form the grid on which a positive quotient is rounded. -/
def gridPower (num den : Nat) : Int :=
  let guess : Int := (Nat.log2 num : Int) - (Nat.log2 den : Int) - 53
  let (n, d) := scaled num (-guess)
  let power := if 2 * fractionCount ≤ n / (d * den) then guess + 1 else guess
  max power (-1074)

/-- Code of the magnitude nearest to a quotient. -/
def quotientCode (num den : Nat) : Nat :=
  if num == 0 then 0
  else
    let power := gridPower num den
    let (n, d) := scaled num (-power)
    min ((power + 1074).toNat * fractionCount + roundHalfEven n (d * den)) infinityCode

/-- The double nearest to a signed quotient. -/
def ofQuotient (negative : Bool) (num den : Nat) : Binary64 := ⟨negative, quotientCode num den⟩

/-- The double nearest to an integer. -/
def ofInt (n : Int) : Binary64 := ofQuotient (n < 0) n.natAbs 1

/-- Code of the magnitude nearest to `digits * 10 ^ power`. Powers far outside the range of
doubles are answered before the power of ten is built. -/
def decimalCode (digits : Nat) (power : Int) : Nat :=
  if digits == 0 then 0
  else if 0 ≤ power then
    if 400 < power then infinityCode else quotientCode (digits * Nat.pow 10 power.toNat) 1
  else if (Nat.log2 digits / 3 + 1 : Nat) + power < -400 then 0
  else quotientCode digits (Nat.pow 10 (-power).toNat)

/-- The double nearest to a signed decimal. -/
def ofDecimal (negative : Bool) (digits : Nat) (power : Int) : Binary64 :=
  ⟨negative, decimalCode digits power⟩

/-- The integer a finite double equals, if it equals one. -/
def toInt? (x : Binary64) : Option Int :=
  let (num, den) := x.quotient
  if x.isFinite && num % den == 0 then
    some (if x.negative then -((num / den : Nat) : Int) else ((num / den : Nat) : Int))
  else none

/-- The rounded product of a finite magnitude with a natural number. -/
def times (x : Binary64) (n : Nat) : Binary64 :=
  let (num, den) := x.quotient
  ofQuotient x.negative (num * n) den

/-- The rounded sum of two finite magnitudes. -/
def plusMagnitude (x y : Binary64) : Binary64 :=
  let (a, b) := x.quotient
  let (c, d) := y.quotient
  ofQuotient false (a * d + c * b) (b * d)

end Binary64

end PredicateIndex
