/-!
# Ranges and positions

Two systems of coordinates meet here. A source range has one-based lines, zero-based characters
and an exclusive end; everything in an index uses it. An editor range has zero-based lines and
characters, and cursor positions are given in it. Positions are ordered by line, then character.
-/
namespace PredicateIndex

/-- A line and a character on it. -/
structure Position where
  /-- The line. -/
  line : Int
  /-- The character, counted from zero. -/
  character : Int
  deriving DecidableEq, Repr, Inhabited

namespace Position

/-- Whether a position comes strictly before another. -/
def before (p q : Position) : Bool :=
  p.line < q.line || (p.line == q.line && p.character < q.character)

/-- The earlier of two positions. -/
def min (p q : Position) : Position := if q.before p then q else p

/-- The later of two positions. -/
def max (p q : Position) : Position := if p.before q then q else p

end Position

/-- A range of the source: one-based lines, an exclusive end. -/
structure SourceRange where
  /-- First position. -/
  start : Position
  /-- Position after the last character. -/
  stop : Position
  deriving DecidableEq, Repr, Inhabited

/-- A range in an editor: zero-based lines and characters. -/
structure EditorRange where
  /-- First position. -/
  start : Position
  /-- Last position. -/
  stop : Position
  deriving DecidableEq, Repr, Inhabited

namespace SourceRange

/-- A range from its four coordinates. -/
def ofCoordinates (startLine startCharacter stopLine stopCharacter : Int) : SourceRange :=
  ⟨⟨startLine, startCharacter⟩, ⟨stopLine, stopCharacter⟩⟩

/-- The range given to a node without a position: the first character of the file. -/
def fallback : SourceRange := ofCoordinates 1 0 1 1

/-- The smallest range that covers two ranges. -/
def union (a b : SourceRange) : SourceRange := ⟨a.start.min b.start, a.stop.max b.stop⟩

/-- The range of an analyzer span, whose columns are one-based; a column below one counts as
one. -/
def ofSpan (startLine startColumn stopLine stopColumn : Int) : SourceRange :=
  ofCoordinates startLine (max (startColumn - 1) 0) stopLine (max (stopColumn - 1) 0)

/-- The same range in an editor. -/
def toEditor (r : SourceRange) : EditorRange :=
  ⟨⟨r.start.line - 1, r.start.character⟩, ⟨r.stop.line - 1, r.stop.character⟩⟩

end SourceRange

namespace EditorRange

/-- The empty range at a position. -/
def point (line character : Int) : EditorRange := ⟨⟨line, character⟩, ⟨line, character⟩⟩

/-- Whether a position lies in a range. The end counts as inside, so a cursor right after the
last character of a token is still on it. -/
def contains (r : EditorRange) (p : Position) : Bool :=
  if p.line < r.start.line || r.stop.line < p.line then false
  else if p.line == r.start.line && p.character < r.start.character then false
  else if p.line == r.stop.line && r.stop.character < p.character then false
  else true

end EditorRange

/-- Whether an editor position lies in a source range. -/
def SourceRange.contains (r : SourceRange) (p : Position) : Bool := r.toEditor.contains p

end PredicateIndex
