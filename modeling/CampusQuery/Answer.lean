import CampusQuery.Plan
import CampusQuery.StableSort

/-!
# Answers

A plan is carried out in stages: the records that pass the filter, the groups of
these if there is a transformation, the limit on the number of rows, the order,
and the columns of each row. The limit applies to what is left after grouping and
never shortens a result.
-/

namespace CampusQuery

/-- A row before its columns are selected. -/
inductive Row where
  /-- A record as it is. -/
  | single (record : Record)
  /-- A group, by its first record and the results of the rules. -/
  | group (first : Record) (results : NameMap Binary64)

/-- What goes wrong in an answer: an error of the query, or a defect. -/
inductive Failure where
  | error (cause : QueryError)
  | defect (cause : Defect)
deriving DecidableEq

/-- A row of the result: the values of the selected columns under their names. -/
abbrev ResultRow := NameMap Json

namespace Row

/-- The value of a column. -/
def value : Row → Column → Except Defect Value
  | single record, .field key => record.value key.field
  | single _, .aggregate name => .error (.notTransformed name)
  | group first _, .field key => first.value key.field
  | group _ results, .aggregate name =>
    match results.get? name with
    | some result => .ok (.number result)
    | none => .error (.notComputed name)

/-- The row of a group. -/
def ofGroup (rules : List Rule) (members : Group) : Except Defect Row := do
  let results ← rules.mapM fun rule =>
    return (rule.name, ← rule.aggregate.ofRecords rule.key members.records)
  return group members.first (.ofList results)

/-- Compares two values: numbers by the numeric order, in which what is not a
number ties with everything, and texts by code points. Nothing else compares. -/
def compareValues? : Value → Value → Option Ordering
  | .number left, .number right => some ((left.compare? right).getD .eq)
  | .text left, .text right => some (compare left right)
  | _, _ => none

/-- Compares two rows by one column. -/
def compareBy (column : Column) (left right : Row) : Except Defect Ordering := do
  match compareValues? (← left.value column) (← right.value column) with
  | some ordering => return ordering
  | none => throw (.mixedOrder column.label)

/-- Compares two rows by the first column, among equals by the second, and so on,
every comparison seen in the direction. -/
def compareByAll (direction : Direction) : List Column → Row → Row → Except Defect Ordering
  | [], _, _ => .ok .eq
  | column :: rest, left, right => do
    match direction.apply (← compareBy column left right) with
    | .eq => compareByAll direction rest left right
    | ordering => return ordering

/-- Whether the first row may stand before the second. -/
def precedes (order : SortOrder) (left right : Row) : Bool :=
  match compareByAll order.direction order.keys left right with
  | .ok .gt => false
  | _ => true

/-- The first defect met in comparing each row with the one after it. -/
def defectInOrder (order : SortOrder) : List Row → Option Defect
  | left :: right :: rest =>
    match compareByAll order.direction order.keys left right with
    | .error defect => some defect
    | .ok _ => defectInOrder order (right :: rest)
  | _ => none

/-- Whether every column of the row has a place in its order. -/
def hasPlaces (columns : List Column) (row : Row) : Bool :=
  columns.all fun column => (row.value column).toOption.all Value.hasPlace

/-- The rows in order, rows that tie staying as they were. A number and a text that meet
in the sort stop it. Where each row has its places the comparison agrees with itself;
otherwise what is not a number ties with numbers that do not tie with one another, and
the comparison may contradict itself. The sort then stops as well, unless the rows are
few enough to be sorted by insertion. -/
def sort (order : SortOrder) (rows : List Row) : Except Defect (List Row) :=
  match defectInOrder order (rows.mergeSort (precedes order)) with
  | some defect => .error defect
  | none =>
    match StableSort.sort? (rows.all (hasPlaces order.keys)) (precedes order) rows with
    | some sorted => .ok sorted
    | none => .error .contradictoryOrder

/-- The selected columns of a row. -/
def project (columns : List Column) (row : Row) : Except Defect ResultRow := do
  return .ofList (← columns.mapM fun column => return (column.label, (← row.value column).toJson))

end Row

namespace Plan

/-- The rows of a plan before the limit, the order and the columns. -/
def rows (plan : Plan) : Except Defect (List Row) := do
  let selected ← plan.filter.select plan.dataset.records.toList
  match plan.transformation with
  | none => return selected.map .single
  | some transformation =>
    (← Group.ofRecords transformation.group selected).mapM (Row.ofGroup transformation.rules)

/-- The rows in the order of the plan. -/
def arrange (plan : Plan) (rows : List Row) : Except Defect (List Row) :=
  match plan.options.order with
  | none => .ok rows
  | some order => Row.sort order rows

/-- Carries a plan out, unless its result has more rows than the limit. -/
def execute (limit : Nat) (plan : Plan) : Except Failure (List ResultRow) := do
  let rows ← plan.rows.mapError .defect
  if limit < rows.length then throw (.error (.tooLarge rows.length limit))
  ((plan.arrange rows).bind (List.mapM (Row.project plan.options.columns))).mapError .defect

end Plan

/-- The largest result that a query may have unless another limit is set. -/
def defaultLimit : Nat := 5000

/-- Answers a query. -/
def answer (lookup : Lookup) (limit : Nat) (query : Json) : Except Failure (List ResultRow) :=
  match Plan.ofQuery lookup query with
  | .error fault => .error (.error (.refused fault))
  | .ok plan => plan.execute limit

end CampusQuery
