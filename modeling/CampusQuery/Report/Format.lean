import CampusQuery.Text.Lowercase

/-!
# Formats of a report

A result is reported as a table for reading, as JSON, or as comma-separated
values.
-/

namespace CampusQuery.Report

/-- The format of a report. -/
inductive Format where
  | table
  | json
  | csv
deriving DecidableEq, Repr

namespace Format

/-- The name of a format. -/
def label : Format → String
  | table => "table"
  | json => "json"
  | csv => "csv"

/-- All formats. -/
def all : List Format := [table, json, csv]

/-- A text, in lower case, that names no format. -/
structure Unknown where
  text : String
deriving DecidableEq

/-- The wording of the error. -/
def Unknown.message (unknown : Unknown) : String :=
  "Unknown format '" ++ unknown.text ++ "'. Valid formats: table, json, csv"

/-- The format of a name in any letter case. -/
def ofText (text : String) : Except Unknown Format :=
  let lowered := Text.lowercase text
  match all.find? (·.label = lowered) with
  | some format => .ok format
  | none => .error ⟨lowered⟩

end Format

end CampusQuery.Report
