import PredicateIndex.Text.Ranges

/-!
# Lines of a text

A line ends with any of the characters that break lines; a carriage return and a line feed after it
count as one.
-/
namespace PredicateIndex.Text

/-- Whether a character ends a line. -/
def isLineBreak (c : Char) : Bool :=
  inRanges [(0xa, 0xd), (0x1c, 0x1e), (0x85, 0x85), (0x2028, 0x2029)] c.toNat

/-- The lines of characters, without what ends them. -/
def linesOf : List Char → List (List Char)
  | [] => []
  | '\r' :: '\n' :: rest => [] :: linesOf rest
  | c :: rest =>
    if isLineBreak c then [] :: linesOf rest
    else match linesOf rest with
      | [] => [[c]]
      | first :: others => (c :: first) :: others

/-- The lines of a text. -/
def lines (s : String) : List String := (linesOf s.toList).map String.ofList

end PredicateIndex.Text
