/-!
# Marked up lines

Tags leave nothing of themselves in a line, but a terminal is given the characters inside and outside
of a tag one after the other, each piece by itself. So a line is kept with the extents of its tags, and
every change of its characters moves them.
-/
namespace PredicateIndex

/-- The characters that a tag covers, by the positions before the first and after the last of them. -/
structure Extent where
  /-- The position of the first character. -/
  start : Nat
  /-- The position after the last character. -/
  stop : Nat
  deriving DecidableEq, Repr

/-- Characters and the extents of their tags. -/
structure Strip where
  /-- The characters. -/
  characters : List Char := []
  /-- The extents of the tags. -/
  extents : List Extent := []
  deriving DecidableEq, Repr

namespace Strip

/-- The characters between two positions, with what is left of the extents there. -/
def between (strip : Strip) (start stop : Nat) : Strip where
  characters := (strip.characters.drop start).take (stop - start)
  extents := strip.extents.filterMap fun extent =>
    let low := max start extent.start
    let high := min stop extent.stop
    if low < high then some ⟨low - start, high - start⟩ else none

/-- The parts of a strip, given the numbers of their characters. -/
def cutInto (strip : Strip) (position : Nat) : List Nat → List Strip
  | [] => []
  | count :: rest =>
    strip.between position (position + count) :: cutInto strip (position + count) rest

/-- The parts of a strip, given the numbers of their characters; a single part is the strip. -/
def divided (strip : Strip) (counts : List Nat) : List Strip :=
  match counts with
  | [] | [_] => [strip]
  | _ => strip.cutInto 0 counts

/-- The first characters of a strip; extents that start after them are gone. -/
def shortened (strip : Strip) (count : Nat) : Strip where
  characters := strip.characters.take count
  extents := (strip.extents.filter fun extent => extent.start < count).map fun extent =>
    { extent with stop := min count extent.stop }

/-- Two strips, one after the other. -/
def append (first second : Strip) : Strip where
  characters := first.characters ++ second.characters
  extents := first.extents ++ second.extents.map fun extent =>
    ⟨first.characters.length + extent.start, first.characters.length + extent.stop⟩

/-- A strip with characters after it, over which extents go on that reach its end. -/
def extended (strip : Strip) (more : List Char) : Strip where
  characters := strip.characters ++ more
  extents := strip.extents.map fun extent =>
    if strip.characters.length ≤ extent.stop then { extent with stop := extent.stop + more.length }
    else extent

/-- The pieces of characters from a position on, cut where an extent starts or stops. -/
def piecesFrom (extents : List Extent) (position : Nat) : List Char → List (List Char)
  | [] => []
  | c :: rest =>
    let isCut := extents.any fun extent => extent.start == position + 1 || extent.stop == position + 1
    match piecesFrom extents (position + 1) rest with
    | [] => [[c]]
    | piece :: pieces => if isCut then [c] :: piece :: pieces else (c :: piece) :: pieces

/-- The pieces in which a strip is printed. -/
def pieces (strip : Strip) : List (List Char) := piecesFrom strip.extents 0 strip.characters

end Strip

end PredicateIndex
