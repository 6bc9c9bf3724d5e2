import CampusQuery.Dataset
import CampusQuery.Document.Record
import CampusQuery.Document.Schema

/-!
# Datasets as documents

Records are a document with the parts `kind` and `records`; a dataset adds its
identifier. Records that stand before their kind have to wait for it: they are
kept as a JSON value in the meantime, so that all of them must be one, including
parts that nobody looks at afterwards. The depth to which they may be nested
counts the two objects around them.
-/

namespace CampusQuery

namespace Records

/-- The records of a kind in a list of documents. -/
def ofKind? (kind : Kind) (documents : Written) : Option Records :=
  match kind with
  | .sections => (documents.list? Section.ofWritten?).map .sections
  | .rooms => (documents.list? Room.ofWritten?).map .rooms

/-- Whether the records stand before their kind. -/
def waitForKind : List (String × Written) → Bool
  | [] => false
  | (name, _) :: rest => name = "records" || name ≠ "kind" && waitForKind rest

/-- The room for nesting in records that wait for their kind. -/
def waitingRoom : Nat := Json.deepest - 2

/-- The records of their kind and their documents. -/
def ofWritten? : Written → Option Records
  | .object members => do
    let members ← Written.named? members
    let kind ← Kind.ofWritten? (← Written.only? members "kind")
    let documents ← Written.only? members "records"
    if waitForKind members && (documents.value? waitingRoom).isNone then none
    else ofKind? kind documents
  | .array [kind, documents] => do ofKind? (← Kind.ofWritten? kind) documents
  | _ => none

/-- Records as their kind and their documents. -/
def toJson (records : Records) : Json :=
  .ofMembers [
    ("kind", records.kind.toJson),
    ("records",
      match records with
      | sections rows => .array (rows.map Section.toJson)
      | rooms rows => .array (rows.map Room.toJson))]

end Records

namespace Dataset

/-- The dataset of its identifier and records. -/
def ofWritten? (document : Written) : Option Dataset := do
  match ← document.parts? ["id", "records"] with
  | [id, records] => return ⟨← id.text?, ← Records.ofWritten? records⟩
  | _ => none

/-- A dataset as its identifier and records. -/
def toJson (dataset : Dataset) : Json :=
  .ofMembers [("id", .text dataset.id), ("records", dataset.records.toJson)]

end Dataset

namespace Summary

/-- The summary of its three parts. -/
def ofWritten? (document : Written) : Option Summary := do
  match ← document.parts? ["id", "kind", "numRows"] with
  | [id, kind, rows] => return ⟨← id.text?, ← Kind.ofWritten? kind, ← rows.natural?⟩
  | _ => none

/-- A summary as its three parts. -/
def toJson (summary : Summary) : Json :=
  .ofMembers [
    ("id", .text summary.id), ("kind", summary.kind.toJson), ("numRows", .ofNat summary.rows)]

end Summary

end CampusQuery
