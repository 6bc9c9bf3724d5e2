import CampusQuery.Json.Printer
import CampusQuery.Text.Split
import CampusQuery.Text.Width

/-!
# Tables

A table is drawn in a frame, with a line between its rows and a double line under
its header. Every column is as wide as its widest line; a cell takes as many lines
as its text has, and a row as many as its tallest cell.
-/

namespace CampusQuery.Report

namespace Table

/-- The lines of a cell. -/
abbrev Cell := List (List Char)

/-- The cell with a text. -/
def cellOf (text : List Char) : Cell := Text.split '\n' text

/-- The text of a value in a table: a text itself, and JSON for anything else; null
is spelled out. -/
def cellText : Json → List Char
  | .null => ['N', 'U', 'L', 'L']
  | .text value => value.toList
  | other => other.spell

/-- The columns that a cell takes; one at least. -/
def cellWidth (cell : Cell) : Nat := (cell.map Text.width).foldl max 1

/-- The width of each column, given its cells row by row. -/
def widths (header : List Cell) (rows : List (List Cell)) : List Nat :=
  rows.foldl (fun widths row => List.zipWith max widths (row.map cellWidth)) (header.map cellWidth)

/-- A line across the table: its left end, its stroke, the mark between columns, and
its right end. -/
def rule (left stroke crossing right : Char) (widths : List Nat) : List Char :=
  [left] ++ [crossing].intercalate (widths.map fun width => List.replicate (width + 2) stroke) ++
    [right]

/-- A line of a cell, padded to the width of its column. -/
def padded (width : Nat) (line : List Char) : List Char :=
  [' '] ++ line ++ List.replicate (width - Text.width line) ' ' ++ [' ']

/-- The lines of a row. -/
def rowLines (widths : List Nat) (row : List Cell) : List (List Char) :=
  let height := (row.map List.length).foldl max 0
  (List.range height).map fun index =>
    let parts := List.zipWith (fun width cell => padded width (cell.getD index [])) widths row
    ['|'] ++ ['|'].intercalate parts ++ ['|']

/-- The lines of the rows, with a line across the table between two of them. -/
def bodyLines (widths : List Nat) : List (List Cell) → List (List Char)
  | [] => []
  | [row] => rowLines widths row
  | row :: rest => rowLines widths row ++ [rule '|' '-' '+' '|' widths] ++ bodyLines widths rest

/-- The lines of a table. -/
def lines (header : List Cell) (rows : List (List Cell)) : List (List Char) :=
  let widths := widths header rows
  [rule '+' '-' '+' '+' widths] ++ rowLines widths header ++ [rule '+' '=' '=' '+' widths] ++
    bodyLines widths rows ++ [rule '+' '-' '+' '+' widths]

/-- The line that counts the rows. -/
def countLine (count : Nat) : List Char :=
  ['('] ++ Nat.toDigits 10 count ++ (if count = 1 then " row" else " rows").toList ++ [')']

end Table

/-- A report as a table, with the number of rows below it. -/
def table (columns : List String) (rows : List (NameMap Json)) : String :=
  let header := columns.map fun column => Table.cellOf column.toList
  let cells := rows.map fun row =>
    columns.map fun column => Table.cellOf (Table.cellText ((row.get? column).getD .null))
  String.ofList (['\n'].intercalate (Table.lines header cells ++ [Table.countLine rows.length]))

end CampusQuery.Report
