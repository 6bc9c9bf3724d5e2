import CampusQuery.Report.Csv
import CampusQuery.Report.Format
import CampusQuery.Report.Table

/-!
# Reports

The rows of a result are rendered in one of the formats. A table and
comma-separated values show the given columns in their order; JSON shows whole
rows.
-/

namespace CampusQuery.Report

/-- A report as JSON: an array of the rows. -/
def json (rows : List (NameMap Json)) : String := (Json.array (rows.map Json.ofMap)).toLines

/-- A report in a format. -/
def render (format : Format) (columns : List String) (rows : List (NameMap Json)) : String :=
  match format with
  | .table => table columns rows
  | .json => json rows
  | .csv => csv columns rows

end CampusQuery.Report
