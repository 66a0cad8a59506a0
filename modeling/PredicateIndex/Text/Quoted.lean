import PredicateIndex.Text.Printable
import PredicateIndex.Text.CodePoint

/-!
# Quoted text

A text is shown between single quotes, or between double quotes when it holds a single quote and
no double quote. The backslash, the chosen quote, line feed, carriage return and tab are escaped
by a letter; every other character that is not printable is escaped by its code in hexadecimal,
with two, four or eight digits. Bytes are shown alike, those that are no ASCII by their codes.
-/
namespace PredicateIndex.Text

/-- The lowercase hexadecimal digits of a number, padded with zeros to a width. -/
def hex (width n : Nat) : String :=
  let digits := Nat.toDigits 16 n
  String.ofList (List.replicate (width - digits.length) '0' ++ digits)

/-- The quote that surrounds a text. -/
def quoteFor (cs : List Char) : Char :=
  if cs.contains '\'' && !cs.contains '"' then '"' else '\''

/-- The escape of a code point by its number. -/
def numericEscape (n : Nat) : String :=
  if n < 0x100 then "\\x" ++ hex 2 n
  else if n < 0x10000 then "\\u" ++ hex 4 n
  else "\\U" ++ hex 8 n

/-- A code point as it stands inside quoted text. -/
def quotedPoint (quote : Char) (n : Nat) : String :=
  let c := Char.ofNat n
  if c == '\\' || c == quote then String.ofList ['\\', c]
  else if c == '\n' then "\\n"
  else if c == '\r' then "\\r"
  else if c == '\t' then "\\t"
  else if isPrintable c then String.ofList [c]
  else numericEscape n

/-- A text with its quotes. -/
def quoted (s : String) : String :=
  let quote := quoteFor s.toList
  String.ofList [quote] ++ String.join ((codePoints s).map (quotedPoint quote)) ++
    String.ofList [quote]

/-- Bytes with their quotes and the letter before them. -/
def quotedBytes (raw : List UInt8) : String :=
  let quote := quoteFor (raw.map fun b => Char.ofNat b.toNat)
  let shown := fun b : UInt8 =>
    if b.toNat < 0x80 then quotedPoint quote b.toNat else numericEscape b.toNat
  "b" ++ String.ofList [quote] ++ String.join (raw.map shown) ++ String.ofList [quote]

/-- The start of a text with its quotes: at most 200 characters of it. -/
def quotedStart (s : String) : String := String.ofList ((quoted s).toList.take 200)

end PredicateIndex.Text
