import PredicateIndex.Decimal.Numeral
import PredicateIndex.Table.Strip
import PredicateIndex.Text.Blank
import PredicateIndex.Text.Width

/-!
# Wrapping a text to a width

A text is broken before words that do not fit the rest of a line. A word keeps the blanks after it,
and the first word those before it. A word that is wider than a line gets lines of its own, or is
left to be cut.
-/
namespace PredicateIndex.Wrap

/-- What becomes of a word that is wider than a line. -/
inductive Overflow where
  /-- It goes on in the next line. -/
  | fold
  /-- It is cut, and an ellipsis says so. -/
  | ellipsis
  deriving DecidableEq, Repr

/-- Where a short line stands in its width. -/
inductive Alignment where
  /-- At the left. -/
  | left
  /-- In the middle, or just left of it. -/
  | middle
  /-- At the right. -/
  | right
  deriving DecidableEq, Repr

/-- A number of spaces. -/
def spaces (n : Nat) : List Char := List.replicate n ' '

/-- A text without the blanks at its end. -/
def trimEnd (cs : List Char) : List Char := (cs.reverse.dropWhile Text.isBlank).reverse

/-- The distance between two tab stops. -/
def tabStop : Nat := 8

/-- A part of a line with spaces in place of the tab at its end, given the cells before it, and the
cells up to its end; a tab is at least one space. -/
def toStop (column : Nat) (part : Strip) : Strip × Nat :=
  match part.characters.getLast? with
  | some '\t' =>
    let begun := part.characters.dropLast ++ [' ']
    let reached := column + Text.width begun
    let gap := (tabStop - reached % tabStop) % tabStop
    ({ part with characters := begun }.extended (spaces gap), reached + gap)
  | _ => (part, column + Text.width part.characters)

/-- The parts of a line, each of which a tab ends but the last. -/
def tabParts (cs : List Char) : List (List Char) := cs.splitBy fun a _ => a != '\t'

/-- A line with its tabs replaced by spaces. -/
def expandTabs (line : Strip) : Strip :=
  if line.characters.contains '\t' then
    let parts := line.cutInto 0 ((tabParts line.characters).map List.length)
    (parts.foldl (fun (done, column) part =>
      let (stopped, reached) := toStop column part
      (done.append stopped, reached)) (({} : Strip), 0)).1
  else line

/-- The words of a line, which together are the line. -/
def words (cs : List Char) : List (List Char) :=
  match cs.splitBy fun a b => !Text.isBlank a || Text.isBlank b with
  | first :: second :: rest =>
    if first.all Text.isBlank then (first ++ second) :: rest else first :: second :: rest
  | short => short

/-- The parts of clusters that each fit a line, given the cells and the characters of the line so
far. -/
def choppedAfter (limit cells : Nat) (line : List Char) : List Text.Cluster → List (List Char)
  | [] => [line]
  | cluster :: rest =>
    if cells + cluster.cells ≤ limit then
      choppedAfter limit (cells + cluster.cells) (line ++ cluster.characters) rest
    else line :: choppedAfter limit cluster.cells cluster.characters rest

/-- The parts of a word that each fit a line. -/
def chopped (limit : Nat) (word : List Char) : List (List Char) :=
  choppedAfter limit 0 [] (Text.clusters word)

/-- Lines that are being filled. -/
structure Page where
  /-- The finished lines, the last one first. -/
  done : List (List Char) := []
  /-- The line that is filled. -/
  line : List Char := []
  /-- The cells of its words. -/
  cells : Nat := 0
  deriving DecidableEq, Repr

namespace Page

/-- Start a new line with some characters, unless nothing was written yet. -/
def startLine (page : Page) (cs : List Char) : Page :=
  let started := { page with line := cs, cells := Text.width cs }
  if page.done.isEmpty && page.line.isEmpty then started
  else { started with done := page.line :: page.done }

/-- Add a word. -/
def addWord (overflow : Overflow) (limit : Nat) (page : Page) (word : List Char) : Page :=
  let bare := Text.width (trimEnd word)
  if page.cells + bare ≤ limit then
    { page with line := page.line ++ word, cells := page.cells + Text.width word }
  else if bare ≤ limit || overflow == .ellipsis then page.startLine word
  else (chopped limit word).foldl startLine page

/-- The lines in their order; there is at least one. -/
def lines (page : Page) : List (List Char) := (page.line :: page.done).reverse

end Page

/-- A line whose blanks beyond a number of code points are dropped from its end. -/
def dropExcess (limit : Nat) (line : Strip) : Strip :=
  let cs := line.characters
  let blanks := (cs.reverse.takeWhile Text.isBlank).length
  let excess := min blanks (Text.pointCount cs - limit)
  if excess == 0 then line else line.shortened (cs.length - excess)

/-- The longest start of some clusters that fits a width; a space stands for the half of a cluster that
would cross it. -/
def croppedTo (limit : Nat) : List Text.Cluster → List Char
  | [] => []
  | cluster :: rest =>
    if limit == 0 then []
    else if cluster.cells ≤ limit then cluster.characters ++ croppedTo (limit - cluster.cells) rest
    else [' ']

/-- The start of a line that fits a width. -/
def cropped (limit : Nat) (cs : List Char) : List Char :=
  if Text.width cs ≤ limit && 0 < limit then cs else croppedTo limit (Text.clusters cs)

/-- A line cut to a width. -/
def cut (overflow : Overflow) (limit : Nat) (cs : List Char) : List Char :=
  if Text.width cs ≤ limit then cs
  else match overflow with
    | .fold => cropped limit cs
    | .ellipsis => cropped (limit - 1) cs ++ ['…']

/-- A line with other characters, of which there may be fewer. -/
def replaced (line : Strip) (cs : List Char) : Strip :=
  if Text.pointCount cs < Text.pointCount line.characters then
    { line.shortened cs.length with characters := cs }
  else { line with characters := cs }

/-- A line with spaces before it. -/
def indented (count : Nat) (line : Strip) : Strip := Strip.append { characters := spaces count } line

/-- Characters filled up to a width with spaces. -/
def filled (limit : Nat) (cs : List Char) : List Char := cs ++ spaces (limit - Text.width cs)

/-- A line cut or filled up to a width. -/
def aligned (alignment : Alignment) (overflow : Overflow) (limit : Nat) (line : Strip) : Strip :=
  let trimmed := replaced line (trimEnd line.characters)
  let fitting := fun (line : Strip) => replaced line (cut overflow limit line.characters)
  let gap := fun (line : Strip) => limit - Text.width line.characters
  let placed := match alignment with
    | .left => fitting line
    | .right => indented (gap (fitting trimmed)) (fitting trimmed)
    | .middle => indented (gap (fitting trimmed) / 2) (fitting trimmed)
  { placed with characters := filled limit placed.characters }

/-- The parts of a line that each go into a line of a width; an empty one stays. -/
def broken (overflow : Overflow) (limit : Nat) (cs : List Char) : List (List Char) :=
  ((words cs).foldl (Page.addWord overflow limit) {}).lines

/-- The lines of a text and the line breaks between them, in order. -/
def breakParts (cs : List Char) : List (List Char) :=
  ([['\n']] : List (List Char)).intercalate ((Numeral.splitAt '\n' cs).map fun line => [line])

/-- The lines of a text. -/
def textLines (text : Strip) : List Strip :=
  (text.divided ((breakParts text.characters).map List.length)).filter fun line =>
    line.characters != ['\n']

/-- The lines of a text in a width. -/
def lines (alignment : Alignment) (overflow : Overflow) (limit : Nat) (text : Strip) : List Strip :=
  (textLines text).flatMap fun line =>
    let plain := expandTabs line
    (plain.divided ((broken overflow limit plain.characters).map List.length)).map fun part =>
      aligned alignment overflow limit (dropExcess limit part)

end PredicateIndex.Wrap
