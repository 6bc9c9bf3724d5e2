import CampusQuery.Proofs.Patterns
import CampusQuery.Proofs.Records

/-!
# A query as it is written

What a query asks for can be read off its JSON form without checking it first: the
names in `COLUMNS` and `GROUP`, the rules in `APPLY`, the keys of `ORDER`, and the
condition in `WHERE`, whose truth for a record is a recursion on the JSON value. These
readings are total and say nothing about whether the query is accepted; a part that is
missing or of the wrong form gives an empty list or no value.
-/

namespace CampusQuery

namespace Json

/-- The member of an object with a name. -/
def member? (name : String) : Json → Option Json
  | .object members => members.lookup name
  | _ => none

/-- The text that a JSON value is, if it is one. -/
def text? : Json → Option String
  | .text value => some value
  | _ => none

/-- The member of an object with a name, null if there is none. -/
def member (name : String) (raw : Json) : Json := (raw.member? name).getD .null

/-- The object without its members of a name. -/
def without (name : String) : Json → Json
  | .object members => .object (members.filter (·.1 ≠ name))
  | other => other

/-- The items of an array; other values have none. -/
def items : Json → List Json
  | .array items => items
  | _ => []

/-- The texts in an array. -/
def texts (raw : Json) : List String := raw.items.filterMap text?

end Json

namespace Query

/-- The condition in `WHERE`. -/
def condition (raw : Json) : Json := raw.member "WHERE"

/-- The names in `COLUMNS`. -/
def columns (raw : Json) : List String := ((raw.member "OPTIONS").member "COLUMNS").texts

/-- The value of `ORDER`, if there is one. -/
def order? (raw : Json) : Option Json := (raw.member "OPTIONS").member? "ORDER"

/-- The query without `ORDER`. -/
def withoutOrder : Json → Json
  | .object members => .object (members.map fun (name, value) =>
      (name, if name = "OPTIONS" then value.without "ORDER" else value))
  | other => other

/-- The names by which `ORDER` sorts: a single one, or those in `keys`. -/
def sortKeys (raw : Json) : List String :=
  match order? raw with
  | none => []
  | some (.text name) => [name]
  | some order => (order.member "keys").texts

/-- Whether `ORDER` sorts downwards. -/
def descending (raw : Json) : Bool :=
  match (order? raw).bind (Json.member? "dir") with
  | some (.text direction) => direction = "DOWN"
  | _ => false

/-- The names in `GROUP`, if there is a transformation. -/
def grouping? (raw : Json) : Option (List String) :=
  (raw.member? "TRANSFORMATIONS").map fun transformation => (transformation.member "GROUP").texts

/-- A rule as it is written: its name, the name of an aggregate and that of a field. -/
structure DeclaredRule where
  name : String
  token : String
  target : String
deriving DecidableEq

/-- The rule that an item declares, if it has the form of one. -/
def rule? : Json → Option DeclaredRule
  | .object [(name, .object [(token, .text target)])] => some ⟨name, token, target⟩
  | _ => none

/-- The rules in `APPLY`. -/
def rules (raw : Json) : List DeclaredRule :=
  ((raw.member "TRANSFORMATIONS").member "APPLY").items.filterMap rule?

/-- The field of a dataset that a name stands for. -/
def field? (dataset name : String) : Option Field :=
  Field.all.find? fun field => dataset ++ "_" ++ field.label = name

/-- The value of a record under a name. -/
def cell? (dataset : String) (record : Record) (name : String) : Option Value :=
  (field? dataset name).bind record.value?

/-- Under the identifier of a dataset a name stands for the field that it displays. -/
theorem field?_eq_some_iff {dataset name : String} {field : Field} :
    field? dataset name = some field ↔ name = (Key.mk dataset field).display := by
  apply Checks.find?_label_eq_some_iff
  intro field
  simp only [String.append_right_inj]
  exact Field.ofLabel?_eq_some_iff.mpr rfl

/-- Under the display of a key stands the value of its field. -/
theorem cell?_display (record : Record) (key : Key) :
    cell? key.dataset record key.display = record.value? key.field := by
  rw [cell?, field?_eq_some_iff.mpr (rfl : key.display = (Key.mk key.dataset key.field).display),
    Option.bind_some]

/-- Whether the number under the name stands to the literal as the ordering says. -/
def compares (dataset : String) (record : Record) (ordering : Ordering) : Json → Bool
  | .object [(name, .number literal)] =>
    match cell? dataset record name with
    | some (.number number) => number.compare? literal.toBinary64 == some ordering
    | _ => false
  | _ => false

/-- Whether the text under the name fills the pattern. -/
def fillsPattern (dataset : String) (record : Record) : Json → Bool
  | .object [(name, .text pattern)] =>
    match cell? dataset record name with
    | some (.text text) => Pattern.Fills pattern.toList text.toList
    | _ => false
  | _ => false

mutual

/-- The truth of a condition for a record. All children of a conjunction and of a
disjunction are looked at. -/
def holds (dataset : String) (record : Record) : Json → Bool
  | .object [] => true
  | .object [("AND", .array items)] => (holdsEach dataset record items).all id
  | .object [("OR", .array items)] => (holdsEach dataset record items).any id
  | .object [("NOT", body)] => !holds dataset record body
  | .object [("EQ", body)] => compares dataset record .eq body
  | .object [("GT", body)] => compares dataset record .gt body
  | .object [("LT", body)] => compares dataset record .lt body
  | .object [("IS", body)] => fillsPattern dataset record body
  | _ => false
termination_by structural raw => raw

/-- The truth of each condition in turn. -/
def holdsEach (dataset : String) (record : Record) : List Json → List Bool
  | [] => []
  | item :: rest => holds dataset record item :: holdsEach dataset record rest
termination_by structural items => items

end

/-- Conditions are decided one by one. -/
theorem holdsEach_eq_map (dataset : String) (record : Record) (items : List Json) :
    holdsEach dataset record items = items.map (holds dataset record) := by
  induction items with
  | nil => rfl
  | cons item rest inductionHypothesis => rw [holdsEach, inductionHypothesis, List.map_cons]

end Query

namespace Sample

/-- A section of a department, with an average. -/
def course (dept : String) (avg : Int) : Section :=
  ⟨dept, "310", "algorithms", "ann", dept, .ofInt 2014, .ofInt avg, .zero, .zero, .zero⟩

/-- Four sections of three departments, for the cases that follow some theorems. -/
def dataset : Dataset :=
  ⟨"courses", .sections [course "cpsc" 80, course "math" 70, course "cpsc" 90, course "phil" 60]⟩

/-- The departments with the number of their averages, under the rest of the options. -/
def counted (options : List (String × Json)) : Json :=
  .object [
    ("OPTIONS", .object
      (("COLUMNS", .array [.text "courses_dept", .text "averages"]) :: options)),
    ("TRANSFORMATIONS", .object [
      ("APPLY", .array [.object [("averages", .object [("COUNT", .text "courses_avg")])]]),
      ("GROUP", .array [.text "courses_dept"])]),
    ("WHERE", .object [("GT", .object [("courses_avg", .number (.integer 50))])])]

/-- The departments, those with most averages first. -/
def ranked : Json :=
  counted [("ORDER", .object [("dir", .text "DOWN"), ("keys", .array [.text "averages"])])]

end Sample

end CampusQuery
