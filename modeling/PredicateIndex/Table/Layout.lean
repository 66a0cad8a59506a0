import PredicateIndex.Table.Markup
import PredicateIndex.Table.Wrap

/-!
# Tables on a terminal

A table has a title, headed columns and rows. Each column is as wide as its widest text, with a space
on either side, unless the table is wider than the terminal; then the widest columns give way first.
The title stands above the middle of the table.
-/
namespace PredicateIndex

/-- A column of a table. -/
structure Column where
  /-- What stands above it. -/
  heading : String
  /-- Where its texts stand. -/
  alignment : Wrap.Alignment := .left
  deriving DecidableEq, Repr

/-- A table. -/
structure Table where
  /-- What stands above it. -/
  title : String
  /-- Its columns. -/
  columns : List Column
  /-- Its rows, with one text for each column. -/
  rows : List (List String) := []
  deriving DecidableEq, Repr

namespace Table

/-- Whether a character ends a line when a text is measured: line feed, three separators, next line,
line separator and paragraph separator. -/
def endsLine (c : Char) : Bool :=
  [0x0a, 0x1c, 0x1d, 0x1e, 0x85, 0x2028, 0x2029].contains c.toNat

/-- The lines of a text that is measured. -/
def measuredLines (cs : List Char) : List (List Char) :=
  cs.foldr (fun c lines => if endsLine c then [] :: lines else
    match lines with
    | [] => [[c]]
    | line :: rest => (c :: line) :: rest) [[]]

/-- The spaces beside a text. -/
def padding : Nat := 2

/-- The width that a text asks for. -/
def wanted (limit : Nat) (cs : List Char) : Nat :=
  min limit (((measuredLines cs).map Text.width).foldl max 0 + padding)

/-- The widths that the columns of a grid ask for. -/
def wantedWidths (limit : Nat) : List (List (List Char)) → List Nat
  | [] => []
  | [row] => row.map (wanted limit)
  | row :: rest => List.zipWith max (row.map (wanted limit)) (wantedWidths limit rest)

/-- The width of columns together. -/
def total (widths : List Nat) : Nat := widths.foldl (· + ·) 0

/-- A quotient rounded to the nearest number; a half goes to the even one. -/
def roundedQuotient (n d : Nat) : Nat :=
  let q := n / d
  if 2 * (n % d) < d then q else if d < 2 * (n % d) then q + 1 else q + q % 2

/-- Take an excess evenly from the columns of a width, but at most so much from each; `count` is
their number. -/
def takeFrom (widest most : Nat) : Nat → Nat → List Nat → List Nat
  | _, _, [] => []
  | excess, count, width :: rest =>
    if width == widest then
      let taken := min most (roundedQuotient excess count)
      (width - taken) :: takeFrom widest most (excess - taken) (count - 1) rest
    else width :: takeFrom widest most excess count rest

/-- Take an excess from the widest columns until they are as wide as the next ones, and so on. -/
def narrowed (limit : Nat) : Nat → List Nat → List Nat
  | 0, widths => widths
  | fuel + 1, widths =>
    let excess := total widths - limit
    let widest := widths.foldl max 0
    let next := (widths.filter (· != widest)).foldl max 0
    if excess == 0 || widest == 0 then widths
    else narrowed limit fuel
      (takeFrom widest (min excess (widest - next)) excess (widths.count widest) widths)

/-- The widths of the columns of a grid: every round of narrowing takes at least one cell. -/
def widths (limit : Nat) (grid : List (List (List Char))) : List Nat :=
  let all := wantedWidths limit grid
  narrowed limit (total all - limit) all

/-- The characters of a border line. -/
structure Border where
  /-- The left corner. -/
  left : Char
  /-- What runs along a column. -/
  along : Char
  /-- Where two columns meet. -/
  between : Char
  /-- The right corner. -/
  right : Char
  deriving DecidableEq, Repr

/-- The border above the headings. -/
def top : Border := ⟨'┏', '━', '┳', '┓'⟩

/-- The border below the headings. -/
def headed : Border := ⟨'┡', '━', '╇', '┩'⟩

/-- The border below the rows. -/
def bottom : Border := ⟨'└', '─', '┴', '┘'⟩

/-- The bar beside a heading. -/
def headBar : Char := '┃'

/-- The bar beside a text of a row. -/
def rowBar : Char := '│'

/-- A line in the pieces in which it is printed. -/
abbrev Line := List (List Char)

namespace Line

/-- How many cells a line takes. -/
def cells (line : Line) : Nat := total (line.map Text.width)

/-- The pieces of a line that fit a width, the last of them cut or filled up to it. -/
def cropped (limit : Nat) : Line → Line
  | [] => []
  | piece :: rest =>
    if Text.width piece < limit then piece :: cropped (limit - Text.width piece) rest
    else [Wrap.filled limit (Wrap.cropped limit piece)]

/-- A line cut to a width. -/
def within (limit : Nat) (line : Line) : Line := if limit < line.cells then cropped limit line else line

/-- A line cut or filled up to a width. -/
def fitted (limit : Nat) (line : Line) : Line :=
  if line.cells < limit then line ++ [Wrap.spaces (limit - line.cells)] else within limit line

end Line

/-- A line of parts. -/
def joined (left between right : Char) (parts : List Line) : Line :=
  [left] :: [[between]].intercalate parts ++ [[right]]

/-- A border line. -/
def Border.line (border : Border) (widths : List Nat) : Line :=
  let parts := widths.map fun width => [List.replicate width border.along]
  [(joined border.left border.between border.right parts).flatten]

/-- The lines of one text in a column: none if the column has no room beside the spaces. -/
def cell (width : Nat) (alignment : Wrap.Alignment) (text : Strip) : List Line :=
  if width ≤ padding then []
  else
    let room := width - padding
    (Wrap.lines alignment .ellipsis room text).map fun line =>
      let inner := Line.fitted room line.pieces
      Line.fitted width (Line.fitted width ([' '] :: inner ++ [[' ']]))

/-- The lines of a row, at least one: a text with fewer lines than the highest one stands at the
top. -/
def rowLines (bar : Char) (widths : List Nat) (alignments : List Wrap.Alignment)
    (row : List Strip) : List Line :=
  let cells := List.zipWith (fun (width, alignment) text => cell width alignment text)
    (widths.zip alignments) row
  let height := (cells.map List.length).foldl max 1
  (List.range height).map fun i =>
    joined bar bar bar
      (List.zipWith (fun width cell => (cell[i]?).getD [Wrap.spaces width]) widths cells)

/-- What a text shows in a column of at most some width; where there is no room beside the spaces it is
not looked at. -/
def shownWithin (limit : Nat) (text : String) : Except Markup.Fault Strip :=
  if limit ≤ padding then .ok {} else Markup.shown text

/-- The lines of a table on a terminal of a width, which cuts them off. The texts of the table are marked
up. -/
def lines (terminal : Nat) (table : Table) : Except Markup.Fault (List String) := do
  let alignments := table.columns.map Column.alignment
  if terminal == 0 then return []
  let bars := table.columns.length + 1
  let limit := terminal - bars
  let headings ← (table.columns.map Column.heading).mapM (shownWithin limit)
  let rows ← table.rows.mapM fun row => row.mapM (shownWithin limit)
  let widths := widths limit ((headings :: rows).map fun row => row.map Strip.characters)
  let title ← Markup.shown table.title
  let heading := (Wrap.lines .middle .fold (total widths + bars) title).map Strip.pieces
  let body := rows.flatMap (rowLines rowBar widths alignments)
  let all := heading ++ [top.line widths] ++ rowLines headBar widths alignments headings ++
    [headed.line widths] ++ body ++ [bottom.line widths]
  return all.map fun line => String.ofList (Line.within terminal line).flatten

end Table

end PredicateIndex
