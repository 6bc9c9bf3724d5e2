import CampusQuery.Fault
import CampusQuery.Text.Blank
import CampusQuery.Text.Split

/-!
# Reading keys

A key is read in two ways. Columns are read before the dataset of the query is
known, and checked against it afterwards; all other keys are read within the scope
of that dataset. Either way a key must be written with exactly one underscore,
after an identifier that is not blank and before the name of a field.
-/

namespace CampusQuery

namespace Key

/-- Reads a key of either kind. -/
def read (raw : String) : Except Fault Key :=
  match Text.split separator raw.toList with
  | [dataset, field] =>
    let dataset := String.ofList dataset
    let field := String.ofList field
    if Text.allBlank dataset then .error (.keyBlank raw)
    else match Field.ofLabel? field with
      | some known => .ok ⟨dataset, known⟩
      | none => .error (.keyField raw field)
  | _ => .error (.keySplit raw)

/-- Reads a key whose field belongs to a kind. -/
def readOf (kind : Kind) (raw : String) : Except Fault Key := do
  let key ← read raw
  if key.field.kind = kind then return key else throw (.keyKind raw key.field kind)

end Key

/-- The dataset to which a query is bound: its identifier and its kind. -/
structure Scope where
  dataset : String
  kind : Kind
deriving DecidableEq, Repr

namespace Scope

/-- Requires that a key belong to the dataset. -/
def check (scope : Scope) (key : Key) : Except Fault Unit :=
  if key.dataset ≠ scope.dataset then .error (.otherDataset scope.dataset key.dataset)
  else if key.field.kind ≠ scope.kind then .error (.foreignKey key scope.kind)
  else .ok ()

/-- Reads a key of the dataset. -/
def resolve (scope : Scope) (raw : String) : Except Fault Key := do
  let key ← Key.readOf scope.kind raw
  scope.check key
  return key

end Scope

end CampusQuery
