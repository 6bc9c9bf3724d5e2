import CampusQuery.Document.Fields
import CampusQuery.Key

/-!
# Kinds, fields and keys as documents

A kind, a field and what a field holds are written as their labels; a key has the
parts `dataset_id` and `field`.
-/

namespace CampusQuery

namespace Kind

/-- The kind of a label. -/
def ofWritten? (document : Written) : Option Kind := do ofLabel? (← document.label?)

/-- The label of a kind. -/
def toJson (kind : Kind) : Json := .text kind.label

end Kind

namespace FieldType

/-- What a field holds, by its label. -/
def ofWritten? (document : Written) : Option FieldType := do ofLabel? (← document.label?)

/-- The label of what a field holds. -/
def toJson (holds : FieldType) : Json := .text holds.label

end FieldType

namespace Field

/-- The field of a label. -/
def ofWritten? (document : Written) : Option Field := do ofLabel? (← document.label?)

/-- The label of a field. -/
def toJson (field : Field) : Json := .text field.label

end Field

namespace Key

/-- The key of its two parts. -/
def ofWritten? (document : Written) : Option Key := do
  match ← document.parts? ["dataset_id", "field"] with
  | [dataset, field] => return ⟨← dataset.text?, ← Field.ofWritten? field⟩
  | _ => none

/-- A key as its two parts. -/
def toJson (key : Key) : Json :=
  .ofMembers [("dataset_id", .text key.dataset), ("field", key.field.toJson)]

end Key

end CampusQuery
