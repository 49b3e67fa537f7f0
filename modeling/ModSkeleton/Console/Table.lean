import ModSkeleton.Console.Markup
import ModSkeleton.Console.Wrap

namespace ModSkeleton.Console

/-!
# Tables

A table has two columns, for items and their values, under a title. A column is
as wide as its widest line, with a space on either side. If the table is too wide
for the console, the values are wrapped in what is left beside the items.
-/

/-- Columns of the console. -/
def consoleWidth : Nat :=
  80

/-- What a table shows, as markup. -/
structure Table where
  title : Text
  rows : List (Text × Text)
  deriving Repr, DecidableEq

namespace Table

/-- Rows with one more pair: a repeated item keeps its place and changes its value. -/
def putRow
    {Item : Type}
    [DecidableEq Item]
    (row : Item × Text) :
    List (Item × Text) → List (Item × Text)
  | [] => [row]
  | first :: rows =>
      if first.1 = row.1 then (first.1, row.2) :: rows else first :: putRow row rows

/-- Rows in which every item occurs once. -/
def mergeRows
    {Item : Type}
    [DecidableEq Item]
    (rows : List (Item × Text)) :
    List (Item × Text) :=
  rows.foldl (fun kept row => putRow row kept) []

/-- The table of given rows, in which every item occurs once. -/
def ofRows
    (title : Text)
    (rows : List (Text × Text)) :
    Table where
  title :=
    title
  rows :=
    mergeRows rows

/-- Characters that end a line when a cell is measured. -/
def isLineEnd
    (c : Char) :
    Bool :=
  c = '\n' || (0x1C ≤ c.toNat && c.toNat ≤ 0x1E) || c.toNat = 0x85 || c.toNat = 0x2028 ||
    c.toNat = 0x2029

/-- Columns taken by the widest line of a text. -/
def widestLine
    (text : Text) :
    Nat :=
  let unified := text.map fun c => if isLineEnd c then '\n' else c
  ((Text.splitOn '\n' unified).map Text.width).foldl max 0

/-- Spaces beside the content of a cell. -/
def padding : Nat :=
  1

/-- Columns taken by the three borders. -/
def borders : Nat :=
  3

/-- The width of a column with given cells. -/
def columnWidth
    (cells : List Text) :
    Nat :=
  min (consoleWidth - borders)
    ((cells.map fun cell => widestLine cell + 2 * padding).foldl max 0)

/-- The lines of a cell in a column of some width. -/
def cellLines
    (columns : Nat)
    (keepsLines : Bool)
    (cell : Text) :
    List Text :=
  let content := columns - 2 * padding
  if content = 0 then []
  else
    (wrap content .ellipsis keepsLines cell).map fun line =>
      ' ' :: (fillUp content (fit content line) ++ [' '])

/-- Line drawing characters of one horizontal rule or one row. -/
structure Strokes where
  left : Nat
  line : Nat
  middle : Nat
  right : Nat

/-- A horizontal rule above, below or between rows. -/
def rule
    (strokes : Strokes)
    (itemWidth valueWidth : Nat) :
    Text :=
  Char.ofNat strokes.left :: (List.replicate itemWidth (Char.ofNat strokes.line) ++
    Char.ofNat strokes.middle :: (List.replicate valueWidth (Char.ofNat strokes.line) ++
      [Char.ofNat strokes.right]))

/-- The rule above the heading. -/
def topStrokes : Strokes :=
  ⟨0x250F, 0x2501, 0x2533, 0x2513⟩

/-- The rule below the heading. -/
def headStrokes : Strokes :=
  ⟨0x2521, 0x2501, 0x2547, 0x2529⟩

/-- The rule below the last row. -/
def bottomStrokes : Strokes :=
  ⟨0x2514, 0x2500, 0x2534, 0x2518⟩

/-- The border of the heading. -/
def headBorder : Char :=
  Char.ofNat 0x2503

/-- The border of the other rows. -/
def rowBorder : Char :=
  Char.ofNat 0x2502

/-- The lines of a row: the shorter cell is filled up with blank lines. -/
def rowLines
    (border : Char)
    (itemWidth valueWidth : Nat)
    (row : Text × Text) :
    List Text :=
  let items := cellLines itemWidth true row.1
  let values := cellLines valueWidth false row.2
  (List.range (max 1 (max items.length values.length))).map fun index =>
    border :: (items.getD index (List.replicate itemWidth ' ') ++
      border :: (values.getD index (List.replicate valueWidth ' ') ++ [border]))

/-- The heading of the columns. -/
def heading : Text × Text :=
  ("Item".toList, "Value".toList)

/-- A table whose markup is rendered; an empty title is none. -/
structure Plain where
  title? : Option Text
  rows : List (Text × Text)
  deriving Repr, DecidableEq

/-- The lines of a table. -/
def Plain.lines
    (table : Plain) :
    List Text :=
  let rows := heading :: table.rows
  let itemWidth := columnWidth (rows.map (·.1))
  let valueWidth :=
    min (columnWidth (rows.map (·.2))) (consoleWidth - borders - itemWidth)
  let tableWidth := itemWidth + valueWidth + borders
  let titleLines :=
    table.title?.toList.flatMap fun title =>
      (wrap tableWidth .fold false title).map (centre tableWidth .fold)
  titleLines ++ [rule topStrokes itemWidth valueWidth] ++
    rowLines headBorder itemWidth valueWidth heading ++
    [rule headStrokes itemWidth valueWidth] ++
    table.rows.flatMap (rowLines rowBorder itemWidth valueWidth) ++
    [rule bottomStrokes itemWidth valueWidth]

/-- The plain texts of cells, or the first error. -/
def renderCells : List Text → Except Markup.Error (List Text)
  | [] => .ok []
  | cell :: cells =>
      match Markup.render cell with
      | .error error => .error error
      | .ok plain =>
          match renderCells cells with
          | .error error => .error error
          | .ok plains => .ok (plain :: plains)

/-- The table with its markup rendered: items first, then values, then the title. -/
def render
    (table : Table) :
    Except Markup.Error Plain :=
  match renderCells (table.rows.map (·.1)), renderCells (table.rows.map (·.2)),
      Markup.render table.title with
  | .error error, _, _ => .error error
  | .ok _, .error error, _ => .error error
  | .ok _, .ok _, .error error => .error error
  | .ok items, .ok values, .ok title =>
      .ok ⟨if table.title.isEmpty then none else some title, items.zip values⟩

/-- The printed table with an empty line behind it. -/
def print
    (table : Table) :
    Except Markup.Error Text :=
  match table.render with
  | .error error => .error error
  | .ok rendered => .ok (Text.ofLines (rendered.lines ++ [[]]))

end Table

end ModSkeleton.Console
