import PredicateIndex.Text.CodePoint

/-!
# Words that resemble each other

Two words share the longest block of characters that stands in both, and what the parts before that
block share, and what the parts after it share. They resemble each other if they share enough for
their length.
-/
namespace PredicateIndex.Text

/-- The number of characters with which two texts start alike. -/
def sharedStart : List Nat → List Nat → Nat
  | a :: first, b :: second => if a == b then sharedStart first second + 1 else 0
  | _, _ => 0

/-- A block of characters that stands in two texts. -/
structure Block where
  /-- Where it starts in the first text. -/
  first : Nat := 0
  /-- Where it starts in the second text. -/
  second : Nat := 0
  /-- How long it is. -/
  size : Nat := 0
  deriving DecidableEq, Repr

/-- The longest block of two texts: of equally long ones the earliest in the first text, then in the
second. -/
def longestBlock (first second : List Nat) : Block :=
  let starts := (List.range first.length).flatMap fun i =>
    (List.range second.length).map fun j => (i, j)
  starts.foldl (fun best (i, j) =>
    let size := sharedStart (first.drop i) (second.drop j)
    if best.size < size then { first := i, second := j, size } else best) {}

/-- The number of characters that two texts share. The fuel bounds how often a text is divided. -/
def sharedWithin : Nat → List Nat → List Nat → Nat
  | 0, _, _ => 0
  | fuel + 1, first, second =>
    let block := longestBlock first second
    if block.size == 0 then 0
    else block.size +
      sharedWithin fuel (first.take block.first) (second.take block.second) +
      sharedWithin fuel (first.drop (block.first + block.size))
        (second.drop (block.second + block.size))

/-- The number of characters that two texts share. Each division takes a character from the first
text, so its length is fuel enough. -/
def shared (first second : String) : Nat :=
  sharedWithin (size first) (codePoints first) (codePoints second)

/-- Whether a text resembles a word: at least six tenths of the characters of both are shared. -/
def resembles (word candidate : String) : Bool :=
  let total := size candidate + size word
  6 * total ≤ 20 * min (size candidate) (size word) && 6 * total ≤ 20 * shared candidate word

end PredicateIndex.Text
