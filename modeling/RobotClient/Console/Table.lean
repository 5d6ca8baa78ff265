import RobotClient.Text.Split
import RobotClient.Text.Width

set_option autoImplicit false

/-! # Tables on a terminal

A box with a heading and rows. A column is as wide as its widest line, a cell with line breaks takes
several lines, and nothing is wrapped. -/

namespace RobotClient.Console

/-- A heading and rows of cells. -/
structure Table where
  heading : List String
  rows : List (List String)

namespace Table

/-- The lines of a cell. -/
def cellLines (cell : String) : List String := Text.splitAll '\n' cell

/-- The columns that a cell takes on the terminal. -/
def cellWidth (cell : String) : Nat :=
  (cellLines cell).foldl (fun w line => max w (Text.width line)) 0

/-- The greater of two lists of widths, column by column. -/
def widen : List Nat → List Nat → List Nat
  | [], ws => ws
  | vs, [] => vs
  | v :: vs, w :: ws => max v w :: widen vs ws

/-- The widths of the columns. -/
def widths (t : Table) : List Nat :=
  (t.heading :: t.rows).foldl (fun ws row => widen ws (row.map cellWidth)) []

/-- A line of a cell with blanks on both sides, filled to a width. -/
def padLine (width : Nat) (line : String) : String :=
  " " ++ line ++ String.ofList (List.replicate (width - Text.width line + 1) ' ')

/-- The lines of a row. -/
def rowLines (widths : List Nat) (row : List String) : List String :=
  let cells := row.map cellLines
  let height := cells.foldl (fun h lines => max h lines.length) 0
  (List.range height).map fun i =>
    "│" ++ String.intercalate " "
      ((widths.zip cells).map fun (width, lines) => padLine width (lines[i]?.getD "")) ++ "│"

/-- A horizontal line of the box. -/
def ruleLine (left fill right : Char) (widths : List Nat) : String :=
  let inner := widths.foldl (fun n w => n + w + 2) 0 + (widths.length - 1)
  String.ofList (left :: List.replicate inner fill ++ [right])

/-- The table as text. -/
def toText (t : Table) : String :=
  let ws := t.widths
  String.intercalate "\n"
    ([ruleLine '┌' '─' '┐' ws] ++ rowLines ws t.heading ++ [ruleLine '╞' '═' '╡' ws]
      ++ t.rows.flatMap (rowLines ws) ++ [ruleLine '└' '─' '┘' ws])

end Table

/-- A title in bold and underlined. -/
def title (text : String) : String :=
  let esc := String.singleton (Char.ofNat 0x1B)
  esc ++ "[4m" ++ esc ++ "[1m" ++ text ++ esc ++ "[0m" ++ esc ++ "[0m"

end RobotClient.Console
