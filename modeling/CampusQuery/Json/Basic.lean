import CampusQuery.NameMap
import CampusQuery.Number.Binary64

/-!
# JSON values

A number keeps the way it is written, whole or with a fraction, because a value
that is written out again shows it: `1` and `1.0` are two numerals with one value.
The members of an object are listed in increasing order of names, each name once,
wherever an object comes from a text or from a map of names.
-/

namespace CampusQuery

/-- A number as a document holds it. -/
inductive Numeral where
  /-- A whole number written without fraction and exponent. -/
  | integer (value : Int)
  | real (value : Binary64)
deriving DecidableEq

namespace Numeral

/-- The nearest binary64 value. -/
def toBinary64 : Numeral → Binary64
  | .integer value => Binary64.ofInt value
  | .real value => value

/-- The whole numbers that a numeral without fraction keeps exactly: those of
sixty-four bits, signed or unsigned. -/
def holds (value : Int) : Bool := -(Nat.pow 2 63 : Int) ≤ value && value < Nat.pow 2 64

/-- The largest magnitude up to which every whole number is a binary64 value. -/
def largestExact : Nat := Nat.pow 2 53 - 1

/-- The numeral of a number: without a fraction where the number is whole and at
most `largestExact` in magnitude. Infinities and what is not a number have none. -/
def ofBinary64? (value : Binary64) : Option Numeral :=
  match value.toInt? with
  | some whole => if whole.natAbs ≤ largestExact then some (.integer whole) else some (.real value)
  | none => if value.isFinite then some (.real value) else none

end Numeral

/-- A JSON value. -/
inductive Json where
  | null
  | bool (value : Bool)
  | number (numeral : Numeral)
  | text (value : String)
  | array (items : List Json)
  | object (members : List (String × Json))

namespace Json

instance : Inhabited Json := ⟨.null⟩

/-- The object with the entries of a map. -/
def ofMap (map : NameMap Json) : Json := .object map.entries

/-- The object with the given members, in any order; of two members with one name
the later one counts. -/
def ofMembers (members : List (String × Json)) : Json := ofMap (.ofList members)

/-- The value of a number: null stands for infinities and for what is not a
number. -/
def ofBinary64 (value : Binary64) : Json :=
  match Numeral.ofBinary64? value with
  | some numeral => .number numeral
  | none => .null

end Json

end CampusQuery
