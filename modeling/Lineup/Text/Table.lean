/-
  Lineup.Text.Table
  ─────────────────
  **TABLES IN TEXT.**  Every column is as wide as its widest cell and one blank
  on either side.  Lines with rounded corners stand around the table, and one
  line sets off the heading:

      ╭───┬────╮
      │ A │ B  │
      ├───┼────┤
      │ 1 │ 22 │
      ╰───┴────╯

  A table without rows ends with the line below its heading.
-/
import Lineup.Text.Width

namespace Lineup.Text

/-- How wide each column has to be. -/
def columnWidths (heading : List String) (rows : List (List String)) : List Nat :=
  rows.foldl (fun widths row => List.zipWith max widths (row.map width)) (heading.map width)

/-- A cell with blanks up to a width, and one blank on either side. -/
def cellText (columns : Nat) (s : String) : String :=
  " " ++ s ++ String.ofList (List.replicate (columns - width s + 1) ' ')

/-- A row of a table. -/
def rowText (widths : List Nat) (row : List String) : String :=
  "│" ++ "│".intercalate (List.zipWith cellText widths row) ++ "│\n"

/-- A line of a table, with its left end, its crossings and its right end. -/
def ruleText (left crossing right : String) (widths : List Nat) : String :=
  left ++ crossing.intercalate (widths.map fun n => String.ofList (List.replicate (n + 2) '─'))
    ++ right ++ "\n"

/-- A table with its heading. -/
def tableText (heading : List String) (rows : List (List String)) : String :=
  let widths := columnWidths heading rows
  ruleText "╭" "┬" "╮" widths ++ rowText widths heading ++ ruleText "├" "┼" "┤" widths
    ++ String.join (rows.map (rowText widths))
    ++ (if rows.isEmpty then "" else ruleText "╰" "┴" "╯" widths)

end Lineup.Text
