import CampusQuery.Key
import CampusQuery.Json.Basic

/-!
# Records and their values

A record is a course section or a room, with a number or a text in every field of
its kind. A field of the other kind has no value there; to ask for one is a defect
of the asking program, never an answer about the record.
-/

namespace CampusQuery

/-- A course section. -/
structure Section where
  uuid : String
  id : String
  title : String
  instructor : String
  dept : String
  year : Binary64
  avg : Binary64
  pass : Binary64
  fail : Binary64
  audit : Binary64
deriving DecidableEq

/-- A room. -/
structure Room where
  fullname : String
  shortname : String
  number : String
  name : String
  address : String
  lat : Binary64
  lon : Binary64
  seats : Binary64
  type : String
  furniture : String
  href : String
deriving DecidableEq

/-- A record of either kind. -/
inductive Record where
  | ofSection (values : Section)
  | ofRoom (values : Room)
deriving DecidableEq

/-- The value of a field. -/
inductive Value where
  | number (value : Binary64)
  | text (value : String)
deriving DecidableEq

/-- Something that an answer cannot get past. Evaluation stops at it. No accepted query
comes upon any of these but the last. -/
inductive Defect where
  /-- A field of the other kind is read from a record. -/
  | foreignField (field : Field) (kind : Kind)
  /-- A text is compared or aggregated as a number. -/
  | notNumeric (key : Key)
  /-- A number is matched as a text. -/
  | notTextual (key : Key)
  /-- A column of a group names no rule. -/
  | notComputed (name : String)
  /-- A column of a record names a rule. -/
  | notTransformed (name : String)
  /-- A number is ordered with a text. -/
  | mixedOrder (name : String)
  /-- Rows are ordered by a comparison that contradicts itself, as one with what is not
  a number may. -/
  | contradictoryOrder
deriving DecidableEq

namespace Defect

/-- The wording of a defect. -/
def message : Defect → String
  | mixedOrder name => "incompatible types while ordering by " ++ name
  | contradictoryOrder =>
    "user-provided comparison function does not correctly implement a total order"
  | foreignField field .sections => impossible (field.label ++ " is not a section field")
  | foreignField field .rooms => impossible (field.label ++ " is not a room field")
  | notNumeric key => impossible (key.display ++ " validated as numeric")
  | notTextual key => impossible (key.display ++ " validated as textual")
  | notComputed name => impossible ("aggregate " ++ name ++ " was not computed")
  | notTransformed name => impossible ("aggregate " ++ name ++ " selected without a transformation")
where
  impossible (what : String) : String := "internal error: entered unreachable code: " ++ what

end Defect

namespace Value

/-- The number that a value is, if it is one. -/
def number? : Value → Option Binary64
  | number value => some value
  | text _ => none

/-- The text that a value is, if it is one. -/
def text? : Value → Option String
  | number _ => none
  | text value => some value

/-- Whether the value has a place in an order, as all do but what is not a number. -/
def hasPlace : Value → Bool
  | number value => value.position?.isSome
  | text _ => true

/-- The value under which a value is grouped and counted: itself, but for the sign
of a zero. -/
def identity : Value → Value
  | number value => number value.identity
  | text value => text value

/-- The value as it is shown. -/
def toJson : Value → Json
  | number value => .ofBinary64 value
  | text value => .text value

end Value

namespace Section

/-- The value of a field of sections. -/
def value? (values : Section) : Field → Option Value
  | .uuid => some (.text values.uuid)
  | .id => some (.text values.id)
  | .title => some (.text values.title)
  | .instructor => some (.text values.instructor)
  | .dept => some (.text values.dept)
  | .year => some (.number values.year)
  | .avg => some (.number values.avg)
  | .pass => some (.number values.pass)
  | .fail => some (.number values.fail)
  | .audit => some (.number values.audit)
  | _ => none

end Section

namespace Room

/-- The value of a field of rooms. -/
def value? (values : Room) : Field → Option Value
  | .fullname => some (.text values.fullname)
  | .shortname => some (.text values.shortname)
  | .number => some (.text values.number)
  | .name => some (.text values.name)
  | .address => some (.text values.address)
  | .type => some (.text values.type)
  | .furniture => some (.text values.furniture)
  | .href => some (.text values.href)
  | .lat => some (.number values.lat)
  | .lon => some (.number values.lon)
  | .seats => some (.number values.seats)
  | _ => none

end Room

namespace Record

/-- The kind of a record. -/
def kind : Record → Kind
  | ofSection _ => .sections
  | ofRoom _ => .rooms

/-- The value of a field, where the record has it. -/
def value? : Record → Field → Option Value
  | ofSection values, field => values.value? field
  | ofRoom values, field => values.value? field

/-- The value of a field that the record must have. -/
def value (record : Record) (field : Field) : Except Defect Value :=
  match record.value? field with
  | some value => .ok value
  | none => .error (.foreignField field record.kind)

/-- The number under a key that must name one. -/
def number (record : Record) (key : Key) : Except Defect Binary64 := do
  match (← record.value key.field).number? with
  | some value => return value
  | none => throw (.notNumeric key)

/-- The text under a key that must name one. -/
def text (record : Record) (key : Key) : Except Defect String := do
  match (← record.value key.field).text? with
  | some value => return value
  | none => throw (.notTextual key)

end Record

end CampusQuery
