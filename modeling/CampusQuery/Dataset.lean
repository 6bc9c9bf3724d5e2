import CampusQuery.Record

/-!
# Datasets

A dataset is an identifier with records of a single kind. The type of its records
leaves no room for a mixture.
-/

namespace CampusQuery

/-- Records of one kind. -/
inductive Records where
  | sections (rows : List Section)
  | rooms (rows : List Room)
deriving DecidableEq

namespace Records

/-- The one kind of all records. -/
def kind : Records → Kind
  | sections _ => .sections
  | rooms _ => .rooms

/-- The records in order. -/
def toList : Records → List Record
  | sections rows => rows.map .ofSection
  | rooms rows => rows.map .ofRoom

/-- The number of records. -/
def size (records : Records) : Nat := records.toList.length

end Records

/-- A dataset. -/
structure Dataset where
  id : String
  records : Records
deriving DecidableEq

/-- What a listing tells of a dataset. -/
structure Summary where
  id : String
  kind : Kind
  rows : Nat
deriving DecidableEq

namespace Dataset

/-- The kind of the records. -/
def kind (dataset : Dataset) : Kind := dataset.records.kind

/-- The number of records. -/
def size (dataset : Dataset) : Nat := dataset.records.size

/-- What a listing tells of the dataset. -/
def summary (dataset : Dataset) : Summary := ⟨dataset.id, dataset.kind, dataset.size⟩

end Dataset

end CampusQuery
