import PredicateIndex.Decimal.Binary64
import PredicateIndex.Text.Blank
import PredicateIndex.Text.Digit

/-!
# Numerals written in text

Texts stand for numbers where a field wants one. An integer numeral is trimmed, may have a sign
and zeros in front, may group its digits with single underscores and may end in a fraction of
zeros. Underscores between the zeros in front are skipped with them, and a minus that follows these
zeros still makes the integer negative. A decimal numeral has the usual point and exponent, or names
an infinity or the undefined value. It is trimmed, or it holds underscores, which are dropped when
none is first, last or doubled.
-/
namespace PredicateIndex.Numeral

open Text

/-- The most digits an integer numeral may have. -/
def digitLimit : Nat := 4300

/-- The message of an integer that has too many digits. -/
def oversizedMessage (digits : Nat) : String :=
  s!"Exceeds the limit ({digitLimit} digits) for integer string conversion: value has {digits} digits; use sys.set_int_max_str_digits() to increase the limit"

/-- The message of an integer that would be written with too many digits. -/
def unwritableMessage : String :=
  s!"Exceeds the limit ({digitLimit} digits) for integer string conversion; use sys.set_int_max_str_digits() to increase the limit"

/-- Why a text is no integer. -/
inductive Refusal where
  /-- It is not an integer numeral. -/
  | malformed
  /-- It starts with more digits than the limit. -/
  | oversized
  deriving DecidableEq, Repr

/-- The sign in front of a numeral and the characters after it; no sign is positive. -/
def splitSign : List Char → Bool × List Char
  | '+' :: rest => (false, rest)
  | '-' :: rest => (true, rest)
  | cs => (false, cs)

/-- The groups between the occurrences of a separator. -/
def splitAt (separator : Char) : List Char → List (List Char)
  | [] => [[]]
  | c :: rest =>
    match splitAt separator rest with
    | [] => [[c]]
    | group :: groups => if c == separator then [] :: group :: groups else (c :: group) :: groups

/-- The characters without underscores, if none of these is first, last or doubled. -/
def withoutUnderscores? (cs : List Char) : Option (List Char) :=
  if (splitAt '_' cs).any List.isEmpty then none else some (cs.filter (· != '_'))

/-- The whole part of an integer numeral: what stands before a fraction of zeros. -/
def wholePart? (cs : List Char) : Option (List Char) :=
  match cs.dropWhile (· != '.') with
  | [] => some cs
  | _ :: zeros =>
    if !zeros.isEmpty && zeros.all (· == '0') then some (cs.takeWhile (· != '.')) else none

/-- What follows a zero and further zeros and underscores; a numeral of nothing else keeps its last
character, and only a digit or a minus may follow. -/
def afterZeros? (last : Char) : List Char → Option (List Char)
  | [] => some [last]
  | c :: rest =>
    if c == '0' || c == '_' then afterZeros? c rest
    else if isAsciiDigit c || c == '-' then some (c :: rest)
    else none

/-- Unsigned characters without the zeros in front. -/
def withoutLeadingZeros? : List Char → Option (List Char)
  | [] => none
  | c :: rest =>
    if c == '0' then afterZeros? c rest
    else if isAsciiDigit c then some (c :: rest)
    else none

/-- The characters of an integer numeral in plain form: trimmed, without a plus, zeros in front, a
fraction of zeros or underscores. -/
def plainInteger? (cs : List Char) : Option (List Char) := do
  let (negative, unsigned) := splitSign (trim isSpace cs)
  let digits ← (wholePart? unsigned).bind withoutLeadingZeros?
  withoutUnderscores? (if negative then '-' :: digits else digits)

/-- The integer of a plain numeral: an optional minus, and digits that start with a zero only if
this is all there is. -/
def strictInteger? (cs : List Char) : Option Int :=
  let (negative, digits) := match cs with
    | '-' :: rest => (true, rest)
    | _ => (false, cs)
  if digits.isEmpty || digitLimit < digits.length || !digits.all isAsciiDigit
      || (digits.head? == some '0' && digits.length != 1) then none
  else some (if negative then -(asciiNat digits : Int) else (asciiNat digits : Int))

/-- Whether a text starts with more digits than the limit, after an optional minus. -/
def startsOversized (cs : List Char) : Bool :=
  let digits := (match cs with | '-' :: rest => rest | _ => cs).takeWhile isAsciiDigit
  digits.head? != some '0' && digitLimit < digits.length

/-- The integer a text stands for. -/
def readInteger (s : String) : Except Refusal Int :=
  let cs := s.toList
  if startsOversized cs then .error .oversized
  else match (plainInteger? cs).bind strictInteger? with
    | some n => .ok n
    | none => .error .malformed

/-- The exponent at the end of a decimal numeral; an absent exponent is zero. -/
def exponentPart? : List Char → Option Int
  | [] => some 0
  | c :: rest =>
    let (negative, digits) := splitSign rest
    if (c == 'e' || c == 'E') && !digits.isEmpty && digits.all isAsciiDigit then
      some (if negative then -(asciiNat digits : Int) else (asciiNat digits : Int))
    else none

/-- The double written by digits, an optional point and an optional exponent. -/
def unsignedDecimal? (negative : Bool) (cs : List Char) : Option Binary64 :=
  let whole := cs.takeWhile isAsciiDigit
  let afterWhole := cs.dropWhile isAsciiDigit
  let (fraction, tail) := match afterWhole with
    | '.' :: rest => (rest.takeWhile isAsciiDigit, rest.dropWhile isAsciiDigit)
    | rest => ([], rest)
  if whole.isEmpty && fraction.isEmpty then none
  else (exponentPart? tail).map fun power =>
    Binary64.ofDecimal negative (asciiNat (whole ++ fraction)) (power - (fraction.length : Int))

/-- The double a text stands for without any underscore. -/
def plainDecimal? (cs : List Char) : Option Binary64 :=
  let (negative, rest) := splitSign cs
  let name := String.ofList (rest.map Char.toLower)
  if name == "inf" || name == "infinity" then some (.infinity negative)
  else if name == "nan" then some .notANumber
  else unsignedDecimal? negative rest

/-- The double a text stands for. -/
def readDecimal? (s : String) : Option Binary64 :=
  let cs := s.toList
  (plainDecimal? (trim isSpace cs)).or ((withoutUnderscores? cs).bind plainDecimal?)

end PredicateIndex.Numeral
