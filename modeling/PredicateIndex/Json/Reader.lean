import PredicateIndex.Decimal.Numeral
import PredicateIndex.Text.CodePoint
import PredicateIndex.Value

/-!
# Reading JSON text

The reader works on the characters that are left, and a fault remembers how many of them were
left where it arose, so its place in the text follows from the length of the text. White space is
space, tab, line feed and carriage return; `NaN`, `Infinity` and `-Infinity` are numbers; an
integer has at most `Numeral.digitLimit` digits; lists and objects nest at most `nestingLimit`
deep; and a repeated key has its last value at its first place.
-/
namespace PredicateIndex.Json

open Text (isAsciiDigit asciiNat)

/-- What the reader misses or refuses at a place of the text. -/
inductive Complaint where
  /-- A value was expected. -/
  | value
  /-- A key was expected. -/
  | propertyName
  /-- A colon was expected after a key. -/
  | colon
  /-- A comma was expected after an element or a field. -/
  | comma
  /-- Text follows the value. -/
  | extraData
  /-- A text has no closing quote; its place is the opening quote. -/
  | unterminated
  /-- A control character stands inside a text. -/
  | controlCharacter
  /-- A backslash is followed by a character that names no escape. -/
  | escape
  /-- A numeric escape lacks its four hexadecimal digits. -/
  | unicodeEscape
  /-- The text starts with a byte order mark. -/
  | byteOrderMark
  deriving DecidableEq, Repr

/-- The words of a complaint. -/
def Complaint.message : Complaint → String
  | .value => "Expecting value"
  | .propertyName => "Expecting property name enclosed in double quotes"
  | .colon => "Expecting ':' delimiter"
  | .comma => "Expecting ',' delimiter"
  | .extraData => "Extra data"
  | .unterminated => "Unterminated string starting at"
  | .controlCharacter => "Invalid control character at"
  | .escape => "Invalid \\escape"
  | .unicodeEscape => "Invalid \\uXXXX escape"
  | .byteOrderMark => "Unexpected UTF-8 BOM (decode using utf-8-sig)"

/-- Why reading stopped. -/
inductive Fault where
  /-- A complaint where `left` characters of the text were left. -/
  | malformed (complaint : Complaint) (left : Nat)
  /-- An integer of more digits than the limit. -/
  | oversized (digits : Nat)
  /-- A list or an object inside more of them than the limit. -/
  | tooDeep (shape : String)
  deriving DecidableEq, Repr

/-- White space between the parts of a value. -/
def isGap (c : Char) : Bool := c == ' ' || c == '\t' || c == '\n' || c == '\r'

/-- The characters after leading white space. -/
def skipGaps (cs : List Char) : List Char := cs.dropWhile isGap

/-- The value of a hexadecimal digit. -/
def hexValue? (c : Char) : Option Nat :=
  if isAsciiDigit c then some (c.toNat - '0'.toNat)
  else if 'a' ≤ c && c ≤ 'f' then some (c.toNat - 'a'.toNat + 10)
  else if 'A' ≤ c && c ≤ 'F' then some (c.toNat - 'A'.toNat + 10)
  else none

/-- The number written by four hexadecimal digits. -/
def hexQuad? (a b c d : Char) : Option Nat := do
  return 4096 * (← hexValue? a) + 256 * (← hexValue? b) + 16 * (← hexValue? c) + (← hexValue? d)

/-- The character named by the letter after a backslash. -/
def letterEscape? (c : Char) : Option Char :=
  if c == '"' || c == '\\' || c == '/' then some c
  else if c == 'b' then some (Char.ofNat 8)
  else if c == 'f' then some (Char.ofNat 12)
  else if c == 'n' then some '\n'
  else if c == 'r' then some '\r'
  else if c == 't' then some '\t'
  else none

/-- Whether a UTF-16 unit is the first of a surrogate pair. -/
def isHighSurrogate (n : Nat) : Bool := 0xd800 ≤ n && n < 0xdc00

/-- Whether a UTF-16 unit is the second of a surrogate pair. -/
def isLowSurrogate (n : Nat) : Bool := 0xdc00 ≤ n && n < 0xe000

/-- The code point of a surrogate pair. -/
def pairPoint (high low : Nat) : Nat := 0x10000 + (high - 0xd800) * 0x400 + (low - 0xdc00)

/-- Read a text after its opening quote; `opening` characters were left at that quote. -/
def readText (opening : Nat) : List Char → Except Fault (List Char × List Char)
  | [] => .error (.malformed .unterminated opening)
  | '"' :: rest => .ok ([], rest)
  | ['\\'] => .error (.malformed .unterminated opening)
  | '\\' :: 'u' :: a :: b :: c :: d :: '\\' :: 'u' :: e :: f :: g :: h :: rest =>
    match hexQuad? a b c d, hexQuad? e f g h with
    | none, _ => .error (.malformed .unicodeEscape (rest.length + 11))
    | some _, none => .error (.malformed .unicodeEscape (rest.length + 5))
    | some high, some low =>
      if rest.isEmpty then .error (.malformed .unicodeEscape 5)
      else if isHighSurrogate high && isLowSurrogate low then do
        let (text, left) ← readText opening rest
        return (Text.ofCodePoint (pairPoint high low) ++ text, left)
      else if isHighSurrogate low then do
        let (text, left) ← readText opening ('\\' :: 'u' :: e :: f :: g :: h :: rest)
        return (Text.ofCodePoint high ++ text, left)
      else do
        let (text, left) ← readText opening rest
        return (Text.ofCodePoint high ++ Text.ofCodePoint low ++ text, left)
  | '\\' :: 'u' :: a :: b :: c :: d :: next :: rest =>
    match hexQuad? a b c d with
    | none => .error (.malformed .unicodeEscape (rest.length + 6))
    | some unit => do
      let (text, left) ← readText opening (next :: rest)
      return (Text.ofCodePoint unit ++ text, left)
  | '\\' :: 'u' :: rest => .error (.malformed .unicodeEscape (rest.length + 1))
  | '\\' :: c :: rest =>
    match letterEscape? c with
    | none => .error (.malformed .escape (rest.length + 2))
    | some named => do
      let (text, left) ← readText opening rest
      return (named :: text, left)
  | c :: rest =>
    if c.toNat < 0x20 then .error (.malformed .controlCharacter (rest.length + 1))
    else do
      let (text, left) ← readText opening rest
      return (c :: text, left)

/-- The digits of a number without leading zeros, and the characters after them. -/
def wholeDigits? : List Char → Option (List Char × List Char)
  | '0' :: rest => some (['0'], rest)
  | cs =>
    let digits := cs.takeWhile isAsciiDigit
    if digits.isEmpty then none else some (digits, cs.dropWhile isAsciiDigit)

/-- The digits after a point, if there are any. -/
def fractionDigits : List Char → List Char × List Char
  | '.' :: rest =>
    let digits := rest.takeWhile isAsciiDigit
    if digits.isEmpty then ([], '.' :: rest) else (digits, rest.dropWhile isAsciiDigit)
  | cs => ([], cs)

/-- The exponent after its mark, if it is complete. -/
def exponentPart (cs : List Char) : Option Int × List Char :=
  match cs with
  | c :: rest =>
    let (negative, digits) := Numeral.splitSign rest
    let power := digits.takeWhile isAsciiDigit
    if (c == 'e' || c == 'E') && !power.isEmpty then
      (some (if negative then -(asciiNat power : Int) else (asciiNat power : Int)),
        digits.dropWhile isAsciiDigit)
    else (none, cs)
  | [] => (none, [])

/-- A number without its sign. -/
def readMagnitude (negative : Bool) (left : Nat) (cs : List Char) :
    Except Fault (Value × List Char) :=
  match wholeDigits? cs with
  | none => .error (.malformed .value left)
  | some (whole, afterWhole) =>
    let (fraction, afterFraction) := fractionDigits afterWhole
    let (power, rest) := exponentPart afterFraction
    if fraction.isEmpty && power.isNone then
      if Numeral.digitLimit < whole.length then .error (.oversized whole.length)
      else .ok (.int (if negative then -(asciiNat whole : Int) else (asciiNat whole : Int)), rest)
    else
      .ok (.float (Binary64.ofDecimal negative (asciiNat (whole ++ fraction))
        (power.getD 0 - (fraction.length : Int))), rest)

/-- The characters after a word that starts the text, if it does. -/
def afterWord? (word : String) (cs : List Char) : Option (List Char) :=
  if word.toList.isPrefixOf cs then some (cs.drop word.length) else none

/-- The words that are values of their own. -/
def words : List (String × Value) :=
  [("null", .null), ("true", .bool true), ("false", .bool false),
   ("NaN", .float .notANumber), ("Infinity", .float (.infinity false)),
   ("-Infinity", .float (.infinity true))]

/-- A number or a word. -/
def readAtomic (cs : List Char) : Except Fault (Value × List Char) :=
  match words.findSome? fun word => (afterWord? word.1 cs).map fun rest => (word.2, rest) with
  | some found => .ok found
  | none =>
    match cs with
    | '-' :: rest => readMagnitude true cs.length rest
    | _ => readMagnitude false cs.length cs

mutual

/-- Read one value inside lists and objects that leave room for some more levels; each level and each
element takes one of `fuel`. -/
def readValue : Nat → Nat → List Char → Except Fault (Value × List Char)
  | _, 0, cs => .error (.malformed .value cs.length)
  | levels, fuel + 1, cs =>
    match cs with
    | '"' :: rest => do
      let (text, left) ← readText cs.length rest
      return (.text (String.ofList text), left)
    | '[' :: rest =>
      if levels == 0 then .error (.tooDeep "array")
      else match skipGaps rest with
        | ']' :: left => .ok (.list [], left)
        | inner => do
          let (items, left) ← readElements (levels - 1) fuel inner
          return (.list items, left)
    | '{' :: rest =>
      if levels == 0 then .error (.tooDeep "object")
      else match skipGaps rest with
        | '}' :: left => .ok (.object [], left)
        | inner => do
          let (pairs, left) ← readMembers (levels - 1) fuel inner
          return (.object (Ledger.ofPairs pairs), left)
    | _ => readAtomic cs

/-- Read the elements of a list up to its closing bracket. -/
def readElements : Nat → Nat → List Char → Except Fault (List Value × List Char)
  | _, 0, cs => .error (.malformed .value cs.length)
  | levels, fuel + 1, cs => do
    let (item, left) ← readValue levels fuel cs
    match skipGaps left with
    | ']' :: rest => return ([item], rest)
    | ',' :: rest =>
      let (items, left) ← readElements levels fuel (skipGaps rest)
      return (item :: items, left)
    | other => throw (.malformed .comma other.length)

/-- Read the fields of an object up to its closing brace. -/
def readMembers : Nat → Nat → List Char → Except Fault (List (String × Value) × List Char)
  | _, 0, cs => .error (.malformed .value cs.length)
  | levels, fuel + 1, cs =>
    match cs with
    | '"' :: rest => do
      let (key, left) ← readText cs.length rest
      match skipGaps left with
      | ':' :: afterColon =>
        let (item, left) ← readValue levels fuel (skipGaps afterColon)
        match skipGaps left with
        | '}' :: rest => return ([(String.ofList key, item)], rest)
        | ',' :: rest =>
          let (pairs, left) ← readMembers levels fuel (skipGaps rest)
          return ((String.ofList key, item) :: pairs, left)
        | other => throw (.malformed .comma other.length)
      | other => throw (.malformed .colon other.length)
    | other => .error (.malformed .propertyName other.length)

end

/-- How many lists and objects may stand inside each other. -/
def nestingLimit : Nat := 990

/-- Read a whole text as one value. -/
def readAll (cs : List Char) : Except Fault Value :=
  match cs with
  | c :: _ =>
    if c.toNat == 0xfeff then .error (.malformed .byteOrderMark cs.length)
    else do
      let (value, left) ← readValue nestingLimit (2 * cs.length + 2) (skipGaps cs)
      match skipGaps left with
      | [] => return value
      | other => throw (.malformed .extraData other.length)
  | [] => .error (.malformed .value 0)

/-- A place of a text: the line and column from one, and the position from zero. -/
structure Place where
  /-- Line, counted from one. -/
  line : Nat
  /-- Column, counted from one. -/
  column : Nat
  /-- Position, counted from zero. -/
  position : Nat
  deriving DecidableEq, Repr

/-- The place after some written characters. -/
def placeAfter (before : List Char) : Place :=
  { line := before.count '\n' + 1
    column := Text.pointCount (before.reverse.takeWhile (· != '\n')) + 1
    position := Text.pointCount before }

/-- Why a text is no JSON value. -/
inductive ReadError where
  /-- A complaint at a place. -/
  | malformed (complaint : Complaint) (place : Place)
  /-- An integer of more digits than the limit. -/
  | oversized (digits : Nat)
  /-- A list or an object inside more of them than the limit. -/
  | tooDeep (shape : String)
  deriving DecidableEq, Repr

/-- The message of a list or an object that is nested too deep. -/
def tooDeepMessage (shape : String) : String :=
  s!"maximum recursion depth exceeded while decoding a JSON {shape} from a unicode string"

/-- The words of a reading error. -/
def ReadError.message : ReadError → String
  | .malformed complaint place =>
    s!"{complaint.message}: line {place.line} column {place.column} (char {place.position})"
  | .oversized digits => Numeral.oversizedMessage digits
  | .tooDeep shape => tooDeepMessage shape

/-- The value of a JSON text. -/
def read (text : String) : Except ReadError Value :=
  let cs := text.toList
  match readAll cs with
  | .ok value => .ok value
  | .error (.malformed complaint left) =>
    .error (.malformed complaint (placeAfter (cs.take (cs.length - left))))
  | .error (.oversized digits) => .error (.oversized digits)
  | .error (.tooDeep shape) => .error (.tooDeep shape)

end PredicateIndex.Json
