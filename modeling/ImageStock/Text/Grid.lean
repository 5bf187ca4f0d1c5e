import ImageStock.Text.Blank
import ImageStock.Text.Width

/-!
Tables drawn with box characters. Each column is as wide as the widest line in it, and each cell has
a blank on either side; a cell may have several lines.
-/

namespace ImageStock.Text.Grid

abbrev Cell := List (List Char)

abbrev Row := List Cell

def cell (s : String) : Cell := splitOn (· == '\n') s.toList

structure Rule where
  left : Char
  along : Char
  between : Char
  right : Char

def top : Rule := ⟨'╭', '─', '┬', '╮'⟩
def underHeader : Rule := ⟨'╞', '═', '╪', '╡'⟩
def betweenRows : Rule := ⟨'├', '╌', '┼', '┤'⟩
def bottom : Rule := ⟨'╰', '─', '┴', '╯'⟩

def enclose (left between right : Char) (pieces : List (List Char)) : List Char :=
  [left] ++ List.intercalate [between] pieces ++ [right, '\n']

def drawRule (r : Rule) (widths : List Nat) : List Char :=
  enclose r.left r.between r.right (widths.map fun w => List.replicate (w + 2) r.along)

def drawCellLine (line : List Char) (columns : Nat) : List Char :=
  [' '] ++ line ++ List.replicate (columns - width line) ' ' ++ [' ']

def drawRow (widths : List Nat) (row : Row) : List Char :=
  let height := (row.map List.length).foldl max 0
  (List.range height).flatMap fun i =>
    enclose '│' '┆' '│' ((row.zip widths).map fun (c, w) => drawCellLine (c.getD i []) w)

def columnWidths (count : Nat) (rows : List Row) : List Nat :=
  (List.range count).map fun i =>
    ((rows.flatMap fun row => row.getD i []).map width).foldl max 0

def draw (header : Row) (rows : List Row) : List Char :=
  let widths := columnWidths header.length (header :: rows)
  let body := (rows.map (drawRow widths)).intersperse (drawRule betweenRows widths)
  drawRule top widths ++ drawRow widths header ++ drawRule underHeader widths ++ body.flatten ++
    drawRule bottom widths

end ImageStock.Text.Grid
