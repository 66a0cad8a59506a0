import PredicateIndex.Text.Ranges

/-!
# White space

Two classes of white space: the `White_Space` property of Unicode, which numerals are trimmed
of, and the wider class of blanks, which also holds the four information separators.
-/
namespace PredicateIndex.Text

/-- The characters with the `White_Space` property. -/
def isSpace (c : Char) : Bool :=
  inRanges [(9, 13), (32, 32), (0x85, 0x85), (0xa0, 0xa0), (0x1680, 0x1680), (0x2000, 0x200a),
    (0x2028, 0x2029), (0x202f, 0x202f), (0x205f, 0x205f), (0x3000, 0x3000)] c.toNat

/-- White space and the information separators U+001C to U+001F. -/
def isBlank (c : Char) : Bool := isSpace c || (0x1c ≤ c.toNat && c.toNat ≤ 0x1f)

/-- Characters without those of a class at both ends. -/
def trim (drop : Char → Bool) (cs : List Char) : List Char :=
  ((cs.dropWhile drop).reverse.dropWhile drop).reverse

/-- Whether a text holds nothing but blanks. -/
def isAllBlank (s : String) : Bool := s.toList.all isBlank

end PredicateIndex.Text
