import ColumnarReport.Text.LineWidth

/-! Rows of cells drawn as a grid. Every column is as wide as its widest line, and a cell of
several lines makes its row higher. -/
namespace ColumnarReport
namespace Text

structure Grid where
  header : List String
  rows : List (List String)

namespace Grid

def lines (cell : String) : List String := cell.splitOn "\n"

/-- A column is at least one place wide. -/
def cellWidth (cell : String) : Nat := ((lines cell).map width).foldl max 1

def widths (g : Grid) : List Nat :=
  g.rows.foldl (fun ws row => ws.zipWith max (row.map cellWidth)) (g.header.map cellWidth)

def rule (widths : List Nat) : String :=
  "+"++String.join (widths.map fun w => String.ofList (List.replicate (w+2) '-')++"+")

def pad (places : Nat) (line : String) : String :=
  line++String.ofList (List.replicate (places-width line) ' ')

def rowLine (widths : List Nat) (row : List String) (i : Nat) : String :=
  "|"++String.join (widths.zipWith (fun w cell => " "++pad w ((lines cell)[i]?.getD "")++" |") row)

def rowLines (widths : List Nat) (row : List String) : List String :=
  let height := (row.map fun cell => (lines cell).length).foldl max 1
  (List.range height).map (rowLine widths row)

def text (g : Grid) : String :=
  let ws := g.widths
  "\n".intercalate ([rule ws]++rowLines ws g.header++[rule ws]++
    g.rows.flatMap (rowLines ws)++[rule ws])

end Grid
end Text
end ColumnarReport
