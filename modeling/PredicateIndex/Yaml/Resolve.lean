import PredicateIndex.Decimal.Numeral
import PredicateIndex.Json.Reader
import PredicateIndex.Yaml.Basic
import PredicateIndex.Yaml.Token

/-!
# What a plain scalar means

A plain scalar is null, a boolean, an integer, a double or a point in time if it is spelled like one,
and a text otherwise; the two marks `<<` and `=` mean something before a colon only. Integers are
decimal, octal after a zero, hexadecimal, binary, or in base sixty with
colons; doubles have a point and may be in base sixty too. Underscores may stand between digits.
-/
namespace PredicateIndex.Yaml

open Text (isAsciiDigit asciiNat)

/-- The spellings of null. -/
def nullWords : List String := ["", "~", "null", "Null", "NULL"]

/-- The spellings of true. -/
def trueWords : List String :=
  ["yes", "Yes", "YES", "true", "True", "TRUE", "on", "On", "ON"]

/-- The spellings of false. -/
def falseWords : List String :=
  ["no", "No", "NO", "false", "False", "FALSE", "off", "Off", "OFF"]

/-- A digit or an underscore. -/
def isDigitOrLine (c : Char) : Bool := isAsciiDigit c || c == '_'

/-- A text of digits and underscores that starts with a digit. -/
def isGroupedNumber : List Char → Bool
  | c :: rest => isAsciiDigit c && rest.all isDigitOrLine
  | [] => false

/-- A digit of base sixty: at most two decimal digits below sixty. -/
def isSixtieth : List Char → Bool
  | [a] => isAsciiDigit a
  | [a, b] => '0' ≤ a && a ≤ '5' && isAsciiDigit b
  | _ => false

/-- Digits without underscores. -/
def ungrouped (cs : List Char) : List Char := cs.filter (· != '_')

/-- The value of digits in a base. -/
def valueInBase (base : Nat) (digits : List Char) : Nat :=
  digits.foldl (fun n c => base * n + (Json.hexValue? c).getD 0) 0

/-- A whole number in a base whose digits may all be underscores, which leaves nothing to convert. -/
def inBase (base : Nat) (cs : List Char) : Except ReadError Nat :=
  let digits := ungrouped cs
  if digits.isEmpty then
    let name := toString base
    .error (.conversion s!"invalid literal for int() with base {name}: ''")
  else .ok (valueInBase base digits)

/-- A whole decimal number, unless it has too many digits. -/
def inDecimal (cs : List Char) : Except ReadError Nat :=
  let digits := ungrouped cs
  if Numeral.digitLimit < digits.length then
    .error (.conversion (Numeral.oversizedMessage digits.length))
  else .ok (asciiNat digits)

/-- The number that groups in base sixty stand for. -/
def inSixties (groups : List Nat) : Nat := groups.foldl (fun n group => 60 * n + group) 0

/-- The size of the integer that a text without its sign spells. -/
def integerSize? (cs : List Char) : Option (Except ReadError Nat) :=
  let isHex := fun c => (Json.hexValue? c).isSome || c == '_'
  match cs with
  | ['0'] => some (.ok 0)
  | '0' :: 'b' :: digits =>
    if !digits.isEmpty && digits.all fun c => c == '0' || c == '1' || c == '_' then
      some (inBase 2 digits)
    else none
  | '0' :: 'x' :: digits =>
    if !digits.isEmpty && digits.all isHex then some (inBase 16 digits) else none
  | '0' :: digits =>
    if digits.all fun c => ('0' ≤ c && c ≤ '7') || c == '_' then
      some (.ok (valueInBase 8 (ungrouped digits)))
    else none
  | _ =>
    match Numeral.splitAt ':' cs with
    | [digits] => if isGroupedNumber digits then some (inDecimal digits) else none
    | first :: groups =>
      if isGroupedNumber first && groups.all isSixtieth then
        some ((inDecimal first).map fun n => inSixties (n :: groups.map asciiNat))
      else none
    | [] => none

/-- The size of a double in base sixty: the groups are added from the last to the first, each with
its weight. -/
def sixtiesSize (groups : List Binary64) : Binary64 :=
  (groups.reverse.foldl
    (fun (sum, weight) group => (Binary64.plusMagnitude sum (group.times weight), weight * 60))
    (Binary64.ofInt 0, 1)).1

/-- Whether the end of a double is absent or an exponent with a sign. -/
def isExponent : List Char → Bool
  | [] => true
  | mark :: sign :: digits =>
    (mark == 'e' || mark == 'E') && (sign == '+' || sign == '-') && !digits.isEmpty &&
      digits.all isAsciiDigit
  | _ => false

/-- A decimal with a point: digits before it, or a digit after it. -/
def isPointed (cs : List Char) : Bool :=
  let whole := cs.takeWhile isDigitOrLine
  match cs.dropWhile isDigitOrLine with
  | '.' :: after =>
    let startsWell :=
      if whole.isEmpty then after.head?.any isAsciiDigit else isGroupedNumber whole
    startsWell && isExponent (after.dropWhile isDigitOrLine)
  | _ => false

/-- Digits and a point: the last group of a double in base sixty. -/
def isLastSixtieth (cs : List Char) : Bool :=
  match cs.dropWhile isAsciiDigit with
  | '.' :: after => isSixtieth (cs.takeWhile isAsciiDigit) && after.all isDigitOrLine
  | _ => false

/-- The groups of a double in base sixty. -/
def sixtiesGroups? (cs : List Char) : Option (List (List Char)) :=
  match Numeral.splitAt ':' cs with
  | first :: second :: rest =>
    let groups := second :: rest
    if isGroupedNumber first && groups.dropLast.all isSixtieth && isLastSixtieth (groups.getLastD [])
    then some (first :: groups) else none
  | _ => none

/-- The double that a text spells. -/
def double? (cs : List Char) : Option Binary64 :=
  let (negative, rest) := Numeral.splitSign cs
  let hasSign := rest.length < cs.length
  let word := String.ofList rest
  if [".inf", ".Inf", ".INF"].contains word then some (.infinity negative)
  else if !hasSign && [".nan", ".NaN", ".NAN"].contains word then some .notANumber
  else if isPointed rest && !(hasSign && rest.head? == some '.') then
    Numeral.unsignedDecimal? negative (ungrouped rest)
  else
    (sixtiesGroups? rest).map fun groups =>
      let numbers := groups.map fun group =>
        (Numeral.unsignedDecimal? false (ungrouped group)).getD (Binary64.ofInt 0)
      { sixtiesSize numbers with negative }

/-- The integer that a text spells. -/
def integer? (cs : List Char) : Option (Except ReadError Int) :=
  let (negative, rest) := Numeral.splitSign cs
  (integerSize? rest).map fun size => size.map fun n => if negative then -(n : Int) else (n : Int)

/-- The key under which other mappings are merged. -/
def mergeMark : String := "<<"

/-- The key that stands for the value of a mapping. -/
def valueMark : String := "="

/-- The meaning of a plain scalar. -/
def resolve (cs : List Char) : Except ReadError Yaml :=
  let word := String.ofList cs
  if nullWords.contains word then .ok .null
  else if trueWords.contains word then .ok (.bool true)
  else if falseWords.contains word then .ok (.bool false)
  else
    match integer? cs, double? cs, Timestamp.spelled? cs with
    | some size, _, _ => size.map .int
    | none, some x, _ => .ok (.float x)
    | none, none, some point =>
      match point.fault? with
      | none => .ok (.stamp point)
      | some fault => .error (.conversion fault.message)
    | none, none, none =>
      if word == mergeMark || word == valueMark then .error .malformed else .ok (.text word)

end PredicateIndex.Yaml
