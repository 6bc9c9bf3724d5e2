import CampusQuery.Text.Lowercase

/-!
# Kinds of records and their fields

A dataset holds course sections or rooms. Each kind has its own fields, no field
belongs to both, and whether a field holds numbers or texts is fixed here and
never inferred from data.
-/

namespace CampusQuery

/-- The kind of the records of a dataset. -/
inductive Kind where
  | sections
  | rooms
deriving DecidableEq, Repr, Inhabited

/-- What a field holds. -/
inductive FieldType where
  | numeric
  | textual
deriving DecidableEq, Repr, Inhabited

/-- A field of one of the two kinds of records. -/
inductive Field where
  | dept
  | id
  | instructor
  | title
  | uuid
  | avg
  | pass
  | fail
  | audit
  | year
  | fullname
  | shortname
  | number
  | name
  | address
  | type
  | furniture
  | href
  | lat
  | lon
  | seats
deriving DecidableEq, Repr, Inhabited

namespace Kind

/-- The name of a kind. -/
def label : Kind → String
  | sections => "sections"
  | rooms => "rooms"

/-- Both kinds. -/
def all : List Kind := [sections, rooms]

/-- The kind of a name written exactly. -/
def ofLabel? (text : String) : Option Kind := all.find? (·.label = text)

/-- A text, in lower case, that names no kind. -/
structure Unknown where
  text : String
deriving DecidableEq

/-- The wording of the error. -/
def Unknown.message (unknown : Unknown) : String :=
  "unknown dataset kind '" ++ unknown.text ++ "'. Valid kinds: sections, rooms"

/-- The kind of a name in any letter case. -/
def ofText (text : String) : Except Unknown Kind :=
  let lowered := Text.lowercase text
  match ofLabel? lowered with
  | some kind => .ok kind
  | none => .error ⟨lowered⟩

end Kind

namespace FieldType

/-- The name of what a field holds. -/
def label : FieldType → String
  | numeric => "numeric"
  | textual => "textual"

/-- What a field holds, by a name written exactly. -/
def ofLabel? (text : String) : Option FieldType := [numeric, textual].find? (·.label = text)

end FieldType

namespace Field

/-- The name of a field in a document and in a key. -/
def label : Field → String
  | dept => "dept"
  | id => "id"
  | instructor => "instructor"
  | title => "title"
  | uuid => "uuid"
  | avg => "avg"
  | pass => "pass"
  | fail => "fail"
  | audit => "audit"
  | year => "year"
  | fullname => "fullname"
  | shortname => "shortname"
  | number => "number"
  | name => "name"
  | address => "address"
  | type => "type"
  | furniture => "furniture"
  | href => "href"
  | lat => "lat"
  | lon => "lon"
  | seats => "seats"

/-- The kind of records that have the field. -/
def kind : Field → Kind
  | dept | id | instructor | title | uuid | avg | pass | fail | audit | year => .sections
  | fullname | shortname | number | name | address | type | furniture | href | lat | lon | seats =>
    .rooms

/-- Whether the field holds numbers or texts. -/
def holds : Field → FieldType
  | avg | pass | fail | audit | year | lat | lon | seats => .numeric
  | dept | id | instructor | title | uuid | fullname | shortname | number | name | address | type
  | furniture | href => .textual

/-- The fields of a kind, texts before numbers. -/
def ofKind : Kind → List Field
  | .sections => [dept, id, instructor, title, uuid, avg, pass, fail, audit, year]
  | .rooms =>
    [fullname, shortname, number, name, address, type, furniture, href, lat, lon, seats]

/-- The fields of both kinds. -/
def all : List Field := ofKind .sections ++ ofKind .rooms

/-- The field of a name written exactly. -/
def ofLabel? (text : String) : Option Field := all.find? (·.label = text)

end Field

end CampusQuery
