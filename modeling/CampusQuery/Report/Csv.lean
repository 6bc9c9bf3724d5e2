import CampusQuery.Json.Printer

/-!
# Comma-separated values

Every record ends with a line feed and has its fields separated by commas. A field
that holds a comma, a quote or a line end is quoted, and a quote in it is written
twice.
-/

namespace CampusQuery.Report

namespace Csv

/-- Characters that a field can hold only inside quotes. -/
def isSpecial (character : Char) : Bool :=
  character = ',' || character = '"' || character = '\n' || character = '\r'

/-- A character inside quotes. -/
def quotedCharacter (character : Char) : List Char :=
  if character = '"' then ['"', '"'] else [character]

/-- A field as it is written. -/
def field (text : List Char) : List Char :=
  if text.any isSpecial then ['"'] ++ text.flatMap quotedCharacter ++ ['"'] else text

/-- A record without its line end. -/
def record (fields : List (List Char)) : List Char :=
  [','].intercalate (fields.map field)

/-- Records, each with its line end. -/
def document (records : List (List (List Char))) : List Char :=
  records.flatMap fun fields => record fields ++ ['\n']

/-- The text of a cell: nothing for null, a text itself, and JSON for anything
else. -/
def cell : Json → List Char
  | .null => []
  | .text value => value.toList
  | other => other.spell

/-- The records of a report: the names of the columns, then the cells of each
row. -/
def records (columns : List String) (rows : List (NameMap Json)) : List (List (List Char)) :=
  columns.map String.toList ::
    rows.map fun row => columns.map fun column => cell ((row.get? column).getD .null)

end Csv

/-- A report as comma-separated values. -/
def csv (columns : List String) (rows : List (NameMap Json)) : String :=
  String.ofList (Csv.document (Csv.records columns rows))

end CampusQuery.Report
