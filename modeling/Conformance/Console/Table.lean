import Conformance.Text.Columns
import Conformance.Text.Split

/-!
Tables drawn with box characters. A column is as wide as its widest line, a row as high as its
highest cell.
-/

namespace Conformance.Console

structure Table where
  header : List String
  rows : List (List String)
deriving Repr

/-- The lines of a cell. -/
def cellLines (cell : String) : List String :=
  (Text.splitAt '\n' cell.toList).map String.ofList

def cellWidth (cell : String) : Nat :=
  (cellLines cell).foldl (fun width line => max width (Text.columns line)) 0

/-- A horizontal line: its left end, its stroke, its crossings and its right end. -/
structure Rule where
  left : Char
  stroke : Char
  crossing : Char
  right : Char

def Rule.top : Rule := ⟨'┌', '─', '┬', '┐'⟩
def Rule.belowHeader : Rule := ⟨'╞', '═', '╪', '╡'⟩
def Rule.betweenRows : Rule := ⟨'├', '╌', '┼', '┤'⟩
def Rule.bottom : Rule := ⟨'└', '─', '┴', '┘'⟩

/-- The rule across columns with one space on either side of their text. -/
def Rule.draw (r : Rule) (widths : List Nat) : String :=
  let spans := widths.map fun w => String.ofList (List.replicate (w + 2) r.stroke)
  String.singleton r.left ++ String.intercalate (String.singleton r.crossing) spans
    ++ String.singleton r.right

/-- One line of a row. -/
def drawLine (widths : List Nat) (texts : List String) : String :=
  let padded := List.zipWith (fun w t => " " ++ Text.padColumns w t ++ " ") widths texts
  "│" ++ String.intercalate "┆" padded ++ "│"

def drawRow (widths : List Nat) (cells : List String) : List String :=
  let columns := cells.map cellLines
  let height := columns.foldl (fun h lines => max h lines.length) 0
  (List.range height).map fun i => drawLine widths (columns.map fun lines => lines.getD i "")

namespace Table

/-- The width of each column. -/
def widths (t : Table) : List Nat :=
  t.rows.foldl (fun widths row => List.zipWith (fun w cell => max w (cellWidth cell)) widths row)
    (t.header.map cellWidth)

def lines (t : Table) : List String :=
  let w := t.widths
  let rows := (t.rows.map (drawRow w)).intersperse [Rule.betweenRows.draw w]
  Rule.top.draw w :: drawRow w t.header ++ Rule.belowHeader.draw w :: rows.flatten
    ++ [Rule.bottom.draw w]

def text (t : Table) : String :=
  String.intercalate "\n" t.lines

end Table

end Conformance.Console
