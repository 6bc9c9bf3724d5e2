import CampusQuery.Dataset
import CampusQuery.Proofs.Keys

/-!
# Values under the keys of a dataset

A record has a value in exactly the fields of its kind, a number in the numeric ones
and a text in the others. So the keys that a dataset owns can be read in each of its
records, and what a key promises to hold is what is found there.
-/

namespace CampusQuery

/-- What a value is. -/
def Value.type : Value → FieldType
  | .number _ => .numeric
  | .text _ => .textual

namespace Record

/-- A value is found exactly in the fields of the record's kind. -/
theorem value?_isSome_iff {record : Record} {field : Field} :
    (record.value? field).isSome = true ↔ field.kind = record.kind := by
  cases record <;> cases field <;> simp [value?, Section.value?, Room.value?, Field.kind, kind]

/-- The value in a field is of the type that the field holds. -/
theorem value?_type {record : Record} {field : Field} {value : Value}
    (found : record.value? field = some value) : value.type = field.holds := by
  cases record <;> cases field <;>
    simp only [value?, Section.value?, Room.value?, Option.some.injEq, reduceCtorEq] at found <;>
    subst found <;> rfl

/-- A field is read if the record has it. -/
theorem value_eq_ok_iff {record : Record} {field : Field} {value : Value} :
    record.value field = .ok value ↔ record.value? field = some value := by
  unfold Record.value
  split
  · rename_i found
    rw [found, Except.ok.injEq, Option.some.injEq]
  · rename_i absent
    simp [absent]

/-- A field of the record's kind is read without a defect. -/
theorem value_exists {record : Record} {field : Field} (same : field.kind = record.kind) :
    ∃ value, record.value field = .ok value ∧ value.type = field.holds := by
  obtain ⟨value, found⟩ := Option.isSome_iff_exists.mp (value?_isSome_iff.mpr same)
  exact ⟨value, value_eq_ok_iff.mpr found, value?_type found⟩

/-- A numeric key of the record's kind is read as a number. -/
theorem number_exists {record : Record} {key : Key} (same : key.field.kind = record.kind)
    (numeric : key.isNumeric = true) :
    ∃ number, record.value? key.field = some (.number number) ∧ record.number key = .ok number := by
  obtain ⟨value, read, type⟩ := value_exists same
  rw [of_decide_eq_true numeric] at type
  cases value with
  | number number =>
    exact ⟨number, value_eq_ok_iff.mp read, by simp [Record.number, read, Value.number?]⟩
  | text => cases type

/-- A textual key of the record's kind is read as a text. -/
theorem text_exists {record : Record} {key : Key} (same : key.field.kind = record.kind)
    (textual : key.isTextual = true) :
    ∃ text, record.value? key.field = some (.text text) ∧ record.text key = .ok text := by
  obtain ⟨value, read, type⟩ := value_exists same
  rw [of_decide_eq_true textual] at type
  cases value with
  | number => cases type
  | text text => exact ⟨text, value_eq_ok_iff.mp read, by simp [Record.text, read, Value.text?]⟩

end Record

/-- The records of a dataset are of its kind. -/
theorem Records.kind_of_mem {records : Records} {record : Record}
    (member : record ∈ records.toList) : record.kind = records.kind := by
  cases records <;> obtain ⟨row, -, rfl⟩ := List.mem_map.mp member <;> rfl

/-- The scope of a dataset: its identifier and its kind. -/
def Dataset.scope (dataset : Dataset) : Scope := ⟨dataset.id, dataset.kind⟩

/-- A key that the dataset owns names a field of each of its records. -/
theorem Scope.Owns.kind_of_mem {dataset : Dataset} {key : Key} (owned : dataset.scope.Owns key)
    {record : Record} (member : record ∈ dataset.records.toList) :
    key.field.kind = record.kind :=
  owned.kind.trans (Records.kind_of_mem member).symm

end CampusQuery
