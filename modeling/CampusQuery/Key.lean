import CampusQuery.Schema

/-!
# Keys

A key names a field of a dataset, written as the identifier of the dataset, an
underscore and the name of the field.
-/

namespace CampusQuery

/-- A field of the dataset with an identifier. -/
structure Key where
  dataset : String
  field : Field
deriving DecidableEq, Repr

namespace Key

/-- The mark between the identifier and the field. -/
def separator : Char := '_'

/-- A key as it is written. -/
def display (key : Key) : String := key.dataset ++ "_" ++ key.field.label

/-- Whether the field of the key holds numbers. -/
def isNumeric (key : Key) : Bool := key.field.holds = .numeric

/-- Whether the field of the key holds texts. -/
def isTextual (key : Key) : Bool := key.field.holds = .textual

end Key

end CampusQuery
