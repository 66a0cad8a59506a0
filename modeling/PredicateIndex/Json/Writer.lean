import PredicateIndex.Decimal.Shortest
import PredicateIndex.Text.Quoted
import PredicateIndex.Text.CodePoint
import PredicateIndex.Value

/-!
# Writing JSON text

Two layouts of a value: on one line, and indented by two spaces a level. Texts are written in
printable ASCII: a character outside it is escaped by its UTF-16 units.
-/
namespace PredicateIndex.Json

/-- The numeric escape of a UTF-16 unit. -/
def unitEscape (n : Nat) : String := "\\u" ++ Text.hex 4 n

/-- A code point as it stands inside a written text. -/
def writtenPoint (n : Nat) : String :=
  if n == 0x22 then "\\\""
  else if n == 0x5c then "\\\\"
  else if n == 0x0a then "\\n"
  else if n == 0x0d then "\\r"
  else if n == 0x09 then "\\t"
  else if n == 0x08 then "\\b"
  else if n == 0x0c then "\\f"
  else if 0x20 ≤ n && n < 0x7f then String.ofList [Char.ofNat n]
  else if n < 0x10000 then unitEscape n
  else
    let bits := n - 0x10000
    unitEscape (0xd800 + bits / 0x400) ++ unitEscape (0xdc00 + bits % 0x400)

/-- A text with its quotes. -/
def writtenText (s : String) : String := "\"" ++ String.join ((Text.codePoints s).map writtenPoint) ++ "\""

/-- The text of a double; the values that are no numbers are written as words. -/
def writtenFloat (x : Binary64) : String :=
  if x.isNotANumber then "NaN"
  else if x.isInfinite then (if x.negative then "-Infinity" else "Infinity")
  else x.text

mutual

/-- A value on one line. -/
def compact : Value → String
  | .null => "null"
  | .bool b => if b then "true" else "false"
  | .int n => toString n
  | .float x => writtenFloat x
  | .text s => writtenText s
  | .list items => "[" ++ String.intercalate ", " (compactList items) ++ "]"
  | .object fields => "\x7b" ++ String.intercalate ", " (compactFields fields) ++ "\x7d"

/-- The elements of a list, each on one line. -/
def compactList : List Value → List String
  | [] => []
  | v :: rest => compact v :: compactList rest

/-- The fields of an object, each on one line. -/
def compactFields : List (String × Value) → List String
  | [] => []
  | (key, v) :: rest => (writtenText key ++ ": " ++ compact v) :: compactFields rest

end

/-- The start of a line at a level of nesting. -/
def lineStart (level : Nat) : String := "\n" ++ String.ofList (List.replicate (2 * level) ' ')

/-- Parts between brackets, each on a line of its own; no parts leave just the brackets. -/
def bracketed (left right : String) (level : Nat) (parts : List String) : String :=
  if parts.isEmpty then left ++ right
  else
    left ++ lineStart (level + 1) ++ String.intercalate ("," ++ lineStart (level + 1)) parts ++
      lineStart level ++ right

mutual

/-- A value at a level of nesting, indented by two spaces a level. -/
def indentedAt (level : Nat) : Value → String
  | .list items => bracketed "[" "]" level (indentedList (level + 1) items)
  | .object fields => bracketed "\x7b" "\x7d" level (indentedFields (level + 1) fields)
  | .null => compact .null
  | .bool b => compact (.bool b)
  | .int n => compact (.int n)
  | .float x => compact (.float x)
  | .text s => compact (.text s)

/-- The elements of a list at a level. -/
def indentedList (level : Nat) : List Value → List String
  | [] => []
  | v :: rest => indentedAt level v :: indentedList level rest

/-- The fields of an object at a level. -/
def indentedFields (level : Nat) : List (String × Value) → List String
  | [] => []
  | (key, v) :: rest =>
    (writtenText key ++ ": " ++ indentedAt level v) :: indentedFields level rest

end

/-- A value indented by two spaces a level. -/
def indented (v : Value) : String := indentedAt 0 v

end PredicateIndex.Json
