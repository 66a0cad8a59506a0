import PredicateIndex.Json.Reader
import PredicateIndex.Table.Literal.Reason
import PredicateIndex.Text.Quoted

/-!
# Quoted texts

A word before a quoted text says whether it is one of bytes, whether escapes are taken as they are
written, and whether it has fields in braces. Escapes are checked in the text with each character
beyond ASCII written as an escape of ten characters.
-/
namespace PredicateIndex.Literal

/-- A quoted text. -/
structure Quotation where
  /-- Whether it is one of bytes. -/
  isBytes : Bool := false
  /-- Whether it may have fields. -/
  hasFields : Bool := false
  /-- What is wrong with it. -/
  fault : Option Reason := none
  deriving DecidableEq, Repr

/-- A code point, written as an escape unless it is in ASCII. -/
def spelled (n : Nat) : List Char :=
  if n < 0x80 then [Char.ofNat n] else ("\\U" ++ Text.hex 8 n).toList

/-- A text in which each character beyond ASCII is written as an escape, and so is a backslash before
one. -/
def spelledOut : List Nat → List Char
  | 0x5c :: n :: rest =>
    (if n < 0x80 then ['\\'] else "\\u005c".toList) ++ spelled n ++ spelledOut rest
  | n :: rest => spelled n ++ spelledOut rest
  | [] => []

/-- The hexadecimal digits at the start of a text, at most some number of them. -/
def leadingHex (most : Nat) (cs : List Char) : List Char :=
  (cs.take most).takeWhile fun c => (Json.hexValue? c).isSome

/-- What is wrong with an escape: the number of its characters, and what is said of it. -/
abbrev EscapeFault := Nat × String

/-- The number of characters of a numeric escape, given its digits and what follows its letter. -/
def numericEscapeSize (digits : Nat) (complaint : String) (cs : List Char) :
    Except EscapeFault Nat :=
  let found := leadingHex digits cs
  let value := found.foldl (fun n c => 16 * n + (Json.hexValue? c).getD 0) 0
  if found.length < digits then .error (found.length + 2, complaint)
  else if 0x10ffff < value then .error (digits + 2, "illegal Unicode character")
  else .ok (digits + 2)

/-- Whether a text can be the name of a character: it is in capital letters. -/
def isCharacterName (cs : List Char) : Bool :=
  cs.all fun c => c.isUpper || c.isDigit || c == ' ' || c == '-'

/-- The number of characters of an escape by name, given what follows its letter. -/
def namedEscapeSize (cs : List Char) : Except EscapeFault Nat :=
  let malformed := "malformed \\N character escape"
  match cs with
  | '\x7b' :: rest =>
    let name := rest.takeWhile (· != '\x7d')
    if name.length == rest.length then .error (name.length + 3, malformed)
    else if name.isEmpty then .error (3, malformed)
    else if isCharacterName name then .ok (name.length + 4)
    else .error (name.length + 4, "unknown Unicode character name")
  | _ => .error (2, malformed)

/-- The number of characters of an escape, given what follows its backslash. -/
def escapeSize (cs : List Char) : Except EscapeFault Nat :=
  match cs with
  | 'x' :: rest => numericEscapeSize 2 "truncated \\xXX escape" rest
  | 'u' :: rest => numericEscapeSize 4 "truncated \\uXXXX escape" rest
  | 'U' :: rest => numericEscapeSize 8 "truncated \\UXXXXXXXX escape" rest
  | 'N' :: rest => namedEscapeSize rest
  | _ => .ok 2

/-- The first wrong escape of a text from a position on. The fuel bounds the number of characters. -/
def escapeFault? : Nat → Nat → List Char → Option Reason
  | 0, _, _ | _, _, [] => none
  | fuel + 1, position, '\\' :: rest =>
    match escapeSize rest with
    | .ok size => escapeFault? fuel (position + size) (rest.drop (size - 1))
    | .error (size, complaint) => some (.badEscape position (position + size) complaint)
  | fuel + 1, position, _ :: rest => escapeFault? fuel (position + 1) rest

/-- The first wrong escape of a text of bytes from a position on. -/
def byteFault? (position : Nat) : List Char → Option Reason
  | '\\' :: 'x' :: rest =>
    if (leadingHex 2 rest).length < 2 then some (.badByte position)
    else byteFault? (position + 2) rest
  | '\\' :: _ :: rest => byteFault? (position + 2) rest
  | _ :: rest => byteFault? (position + 1) rest
  | [] => none

/-- Whether a character ends the expression of a field. -/
def endsField (c : Char) : Bool := c == '\x7d' || c == '!' || c == ':'

/-- What is wrong with the first wrong field of a text, as far as its form shows. The fuel bounds the
number of characters. -/
def fieldFault? : Nat → List Char → Option Reason
  | 0, _ | _, [] => none
  | fuel + 1, '\x7b' :: '\x7b' :: rest | fuel + 1, '\x7d' :: '\x7d' :: rest => fieldFault? fuel rest
  | _ + 1, '\x7d' :: _ => some (.badField ": single '\x7d' is not allowed")
  | fuel + 1, '\x7b' :: rest =>
    let inside := rest.takeWhile (!endsField ·)
    let isBlank := inside.all fun c => c == ' ' || c == '\t' || c == '\n'
    if inside.contains '\\' then
      some (.badField " expression part cannot include a backslash")
    else if inside.contains '#' then some (.badField " expression part cannot include '#'")
    else match rest.dropWhile (!endsField ·) with
      | [] => some (.badField ": expecting '\x7d'")
      | '\x7d' :: after =>
        if isBlank then some (.badField ": empty expression not allowed")
        else fieldFault? fuel after
      | mark :: _ =>
        if isBlank then some (.badField s!": expression required before '{mark}'") else none
  | fuel + 1, _ :: rest => fieldFault? fuel rest

/-- What is wrong with the body of a quoted text, given the word before it in small letters. -/
def bodyFault? (word : List Char) (body : List Char) : Option Reason :=
  let points := Text.codePointsOf body
  let isRaw := word.contains 'r' || !body.contains '\\'
  if word.contains 'b' then
    if points.any (0x80 ≤ ·) then some .notBytes
    else if isRaw then none else byteFault? 0 body
  else if word.contains 'f' && body.any fun c => c == '\x7b' || c == '\x7d' then
    fieldFault? body.length body
  else if isRaw then none
  else
    let cs := spelledOut points
    escapeFault? cs.length 0 cs

/-- The quoted text with a body, given the word before it in small letters. -/
def Quotation.ofBody (word : String) (body : List Char) : Quotation :=
  let letters := word.toList
  { isBytes := letters.contains 'b', hasFields := letters.contains 'f'
    fault := bodyFault? letters body }

end PredicateIndex.Literal
