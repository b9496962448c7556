import TableCatalog.Text.Split
import TableCatalog.Text.Width

/-! A grid of cells drawn with box characters. A column is as wide as its widest line, with a blank on
either side; text stands to the left; a cell with several lines makes its row as high. -/

namespace TableCatalog.Text

/-- The lines of a cell. -/
def lines (cell : String) : List (List Char) := splitAll '\n' cell.toList

/-- The strokes of a horizontal rule: its ends, its body, and where it meets the columns. -/
structure Rule where
  left : Char
  body : Char
  cross : Char
  right : Char

namespace Rule

def top : Rule := ⟨'╭', '─', '┬', '╮'⟩
def header : Rule := ⟨'╞', '═', '╪', '╡'⟩
def between : Rule := ⟨'├', '╌', '┼', '┤'⟩
def bottom : Rule := ⟨'╰', '─', '┴', '╯'⟩

def draw (rule : Rule) (widths : List Nat) : List Char :=
  rule.left :: ((widths.map fun w => List.replicate (w + 2) rule.body).intersperse [rule.cross]).flatten ++ [rule.right]

end Rule

/-- The widest line of each column, over the header and all rows. -/
def columnWidths (rows : List (List String)) : List Nat :=
  rows.foldl (fun widths row =>
    let cells := row.map fun cell => ((lines cell).map width).foldl max 0
    if widths.isEmpty then cells else widths.zipWith max cells) []

/-- A line of a cell, filled up to the width of its column. -/
def pad (columns : Nat) (line : List Char) : List Char :=
  ' ' :: line ++ List.replicate (columns - width line) ' ' ++ [' ']

/-- The lines that a row is drawn in. -/
def drawRow (widths : List Nat) (row : List String) : List (List Char) :=
  let cells := row.map lines
  let height := (cells.map List.length).foldl max 0
  (List.range height).map fun i =>
    '│' :: ((widths.zipWith (fun w cell => pad w (cell.getD i [])) cells).intersperse ['┆']).flatten ++ ['│']

/-- The drawing of a header and rows. -/
def drawGrid (header : List String) (rows : List (List String)) : String :=
  let widths := columnWidths (header :: rows)
  let body := ((rows.map (drawRow widths)).intersperse [Rule.between.draw widths]).flatten
  let all := [Rule.top.draw widths] ++ drawRow widths header ++ [Rule.header.draw widths] ++ body
    ++ [Rule.bottom.draw widths]
  String.ofList (all.intersperse ['\n']).flatten

end TableCatalog.Text
