import OutlineTables.Layout.Columns
import OutlineTables.Layout.Wrap

/-!
Tables drawn with lines.
-/
namespace OutlineTables.Layout

/-- A table with a title, a header and rows of cells, whose texts may have several lines. -/
structure Grid where
  title : Text
  header : List Text
  rows : List (List Text)

namespace Grid

/-- Characters that end a line where the width of a text is measured. -/
def isLineEnd (c : Char) : Bool :=
  (Nat.ble 10 c.toNat && Nat.ble c.toNat 13) || (Nat.ble 28 c.toNat && Nat.ble c.toNat 30) ||
    c.toNat = 0x85 || c.toNat = 0x2028 || c.toNat = 0x2029

/-- The width of a cell is that of its longest line, with a blank on both sides. -/
def cellWidth (t : Text) : Nat := widest ((Text.words isLineEnd t).map Text.width) + 2

/-- The columns of a line that are left for cells, the bars beside them aside. -/
def room (screen : Nat) (g : Grid) : Nat := screen - (g.header.length + 1)

/-- The width of each column, the header included. -/
def widths (screen : Nat) (g : Grid) : List Nat :=
  let wished :=
    g.rows.foldr (fun row ws => (row.map cellWidth).zipWith max ws) (g.header.map cellWidth)
  narrow (g.room screen) (wished.map (min · (g.room screen)))

/-- A line between rows. -/
def rule (ws : List Nat) (left line cross right : Char) : Text :=
  left :: Text.join [cross] (ws.map fun w => List.replicate w line) ++ [right]

/-- The lines of a row, its cells between bars. -/
def rowLines (ws : List Nat) (bar : Char) (cells : List Text) : List Text :=
  let columns := (cells.zip ws).map fun (t, w) => (wrap (w - 2) .ellipsis t, w - 2)
  (List.range (widest (columns.map (·.1.length)))).map fun n =>
    bar :: ' ' :: Text.join [' ', bar, ' ']
      (columns.map fun (lines, w) => Text.padTo w ((lines.drop n).headD [])) ++ [' ', bar]

/-- A centred title, a half blank more on its right. -/
def titleLines (width : Nat) (t : Text) : List Text :=
  (wrap width .fold t).map fun line =>
    let line := Text.stripEnd line
    List.replicate ((width - Text.width line) / 2) ' ' ++ line

/-- The lines of a table on a screen of some width. -/
def lines (screen : Nat) (g : Grid) : List Text :=
  let ws := g.widths screen
  titleLines (total ws + ws.length + 1) g.title ++ rule ws '┏' '━' '┳' '┓' ::
    rowLines ws '┃' g.header ++ rule ws '┡' '━' '╇' '┩' ::
    g.rows.flatMap (rowLines ws '│') ++ [rule ws '└' '─' '┴' '┘']

end Grid

end OutlineTables.Layout
