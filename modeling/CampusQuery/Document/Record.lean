import CampusQuery.Document.Fields
import CampusQuery.Record

/-!
# Records as documents

A section or a room is a document with a part for each of its fields, under the
name that the field has in keys.
-/

namespace CampusQuery

namespace Section

/-- The parts of a section. -/
def parts : List String :=
  ["uuid", "id", "title", "instructor", "dept", "year", "avg", "pass", "fail", "audit"]

/-- The section of its parts. -/
def ofWritten? (document : Written) : Option Section := do
  match ← document.parts? parts with
  | [uuid, id, title, instructor, dept, year, avg, pass, fail, audit] =>
    return {
      uuid := ← uuid.text?
      id := ← id.text?
      title := ← title.text?
      instructor := ← instructor.text?
      dept := ← dept.text?
      year := ← year.real?
      avg := ← avg.real?
      pass := ← pass.real?
      fail := ← fail.real?
      audit := ← audit.real? }
  | _ => none

/-- A section as its parts. -/
def toJson (values : Section) : Json :=
  .ofMembers [
    ("uuid", .text values.uuid),
    ("id", .text values.id),
    ("title", .text values.title),
    ("instructor", .text values.instructor),
    ("dept", .text values.dept),
    ("year", .ofReal values.year),
    ("avg", .ofReal values.avg),
    ("pass", .ofReal values.pass),
    ("fail", .ofReal values.fail),
    ("audit", .ofReal values.audit)]

end Section

namespace Room

/-- The parts of a room. -/
def parts : List String :=
  ["fullname", "shortname", "number", "name", "address", "lat", "lon", "seats", "type",
    "furniture", "href"]

/-- The room of its parts. -/
def ofWritten? (document : Written) : Option Room := do
  match ← document.parts? parts with
  | [fullname, shortname, number, name, address, lat, lon, seats, type, furniture, href] =>
    return {
      fullname := ← fullname.text?
      shortname := ← shortname.text?
      number := ← number.text?
      name := ← name.text?
      address := ← address.text?
      lat := ← lat.real?
      lon := ← lon.real?
      seats := ← seats.real?
      type := ← type.text?
      furniture := ← furniture.text?
      href := ← href.text? }
  | _ => none

/-- A room as its parts. -/
def toJson (values : Room) : Json :=
  .ofMembers [
    ("fullname", .text values.fullname),
    ("shortname", .text values.shortname),
    ("number", .text values.number),
    ("name", .text values.name),
    ("address", .text values.address),
    ("lat", .ofReal values.lat),
    ("lon", .ofReal values.lon),
    ("seats", .ofReal values.seats),
    ("type", .text values.type),
    ("furniture", .text values.furniture),
    ("href", .text values.href)]

end Room

end CampusQuery
