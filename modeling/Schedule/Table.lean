/-! # Tables

What the command line prints is a list of tables: a title, the column heads and rows of cells. On
paper the cells of a column are padded to one width.
-/

namespace Schedule

/-- A table of texts. -/
structure Table where
  title : String
  columns : List String
  rows : List (List String)
  deriving DecidableEq, Repr

namespace Table

/-- The greatest length of the cells in each column. -/
def widths (rows : List (List String)) : List Nat :=
  rows.foldl (fun widths row =>
    (List.range (max widths.length row.length)).map fun n =>
      max (widths.getD n 0) (row.getD n "").length) []

/-- A cell, padded to a width. -/
def pad (width : Nat) (cell : String) : String :=
  cell ++ String.ofList (List.replicate (width - cell.length) ' ')

/-- A row with its cells padded and set apart by two spaces. -/
def line (widths : List Nat) (row : List String) : String :=
  "  ".intercalate (List.zipWith pad widths row)

/-- The table as lines of text: the title, the heads, and the rows. -/
def text (table : Table) : String :=
  let rows := table.columns :: table.rows
  table.title ++ "\n" ++ String.join (rows.map fun row => line (widths rows) row ++ "\n")

end Table

end Schedule
