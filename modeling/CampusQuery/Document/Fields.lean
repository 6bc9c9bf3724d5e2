import CampusQuery.Json.Reader

/-!
# The parts of a document

A value with named parts is written as an object or as an array. The object has
each part once, among any other members, which nobody looks at; the array has the
parts alone, in their fixed order. A choice among labels is written as the label,
or as an object with the label as its one name and null as its value.
-/

namespace CampusQuery

namespace Written

/-- The members of an object by the texts of their names. -/
def named? (members : List (WrittenText × Written)) : Option (List (String × Written)) :=
  members.mapM fun member => return (← member.1.value?, member.2)

/-- The one member with a name. -/
def only? (members : List (String × Written)) (name : String) : Option Written :=
  match members.filter (·.1 = name) with
  | [(_, item)] => some item
  | _ => none

/-- The parts with the given names, in that order. -/
def parts? (names : List String) : Written → Option (List Written)
  | .object members => do names.mapM (only? (← named? members))
  | .array items => if items.length = names.length then some items else none
  | _ => none

/-- A text. -/
def text? : Written → Option String
  | .text pieces => pieces.value?
  | _ => none

/-- A number of any spelling. -/
def real? : Written → Option Binary64
  | .number digits => digits.numeral?.map Numeral.toBinary64
  | _ => none

/-- A natural of sixty-four bits, without fraction, exponent and sign. -/
def natural? : Written → Option Nat
  | .number digits =>
    match digits.numeral? with
    | some (.integer value) => if 0 ≤ value then some value.toNat else none
    | _ => none
  | _ => none

/-- A label. -/
def label? : Written → Option String
  | .text pieces => pieces.value?
  | .object [(name, .null)] => name.value?
  | _ => none

/-- A list. -/
def list? {α : Type} (item? : Written → Option α) : Written → Option (List α)
  | .array items => items.mapM item?
  | _ => none

end Written

namespace Json

/-- A number written with a fraction, whatever its value; null stands for
infinities and for what is not a number. -/
def ofReal (value : Binary64) : Json := if value.isFinite then .number (.real value) else .null

/-- A natural. -/
def ofNat (value : Nat) : Json := .number (.integer value)

end Json

end CampusQuery
