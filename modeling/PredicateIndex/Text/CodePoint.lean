/-!
# Code points of a text

A text is a sequence of code points, and half of a surrogate pair is a code point but no character.
A `String` holds such a half as the private character that lies `0x100000` above it. A private
character that would be read so, and the mark itself, are written after a mark instead, so that two
texts are one `String` only if they have the same code points.
-/
namespace PredicateIndex.Text

/-- Whether a code point is half of a surrogate pair. -/
def isSurrogate (n : Nat) : Bool := 0xd800 ≤ n && n < 0xe000

/-- How far above an unpaired surrogate the character lies that holds its place. -/
def unpairedShift : Nat := 0x100000

/-- Whether a character holds the place of an unpaired surrogate. -/
def isStandIn (c : Char) : Bool := unpairedShift ≤ c.toNat && isSurrogate (c.toNat - unpairedShift)

/-- The character before one that stands for itself. -/
def mark : Char := Char.ofNat 0x10d7ff

/-- The character that stands for the mark after a mark. -/
def markSign : Char := Char.ofNat 0x10e000

/-- How a character is written in a text. -/
def ofChar (c : Char) : List Char :=
  if c == mark then [mark, markSign]
  else if isStandIn c then [mark, c]
  else [c]

/-- How a code point is written in a text. -/
def ofCodePoint (n : Nat) : List Char :=
  if isSurrogate n then [Char.ofNat (n + unpairedShift)] else ofChar (Char.ofNat n)

/-- The text of code points. -/
def ofCodePoints (points : List Nat) : String := String.ofList (points.flatMap ofCodePoint)

/-- The text of characters that all stand for themselves. -/
def ofChars (cs : List Char) : String := String.ofList (cs.flatMap ofChar)

/-- Each code point of written characters as it is written. -/
def units : List Char → List (List Char)
  | [] => []
  | [c] => [[c]]
  | c :: d :: rest => if c == mark then [c, d] :: units rest else [c] :: units (d :: rest)

/-- The code point that is written so. -/
def unitPoint : List Char → Nat
  | [c] => if isStandIn c then c.toNat - unpairedShift else c.toNat
  | [_, d] => if d == markSign then mark.toNat else d.toNat
  | _ => 0

/-- The code points of written characters. -/
def codePointsOf (cs : List Char) : List Nat := (units cs).map unitPoint

/-- The code points of a text. -/
def codePoints (s : String) : List Nat := codePointsOf s.toList

/-- The number of code points of written characters. -/
def pointCount (cs : List Char) : Nat := cs.countP (· != mark)

/-- The number of code points of a text. -/
def size (s : String) : Nat := pointCount s.toList

/-- Whether every code point of a text is a character. -/
def isWellFormed (s : String) : Bool := (codePoints s).all fun n => !isSurrogate n

/-- A text in which every code point is a character that stands for itself: surrogates are replaced. -/
def plain (s : String) : String :=
  String.ofList ((codePoints s).map fun n => Char.ofNat (if isSurrogate n then 0xfffd else n))

end PredicateIndex.Text
