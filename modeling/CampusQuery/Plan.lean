import CampusQuery.Filter
import CampusQuery.Lookup
import CampusQuery.Options
import CampusQuery.Transformation

/-!
# Plans

A query is made into a plan before any record is read: a dataset with a filter,
perhaps a transformation, and the options, all checked against one another. The
checks come in a fixed order, and the first that fails is the one reported.
-/

namespace CampusQuery

/-- A checked query, bound to its dataset. -/
structure Plan where
  dataset : Dataset
  filter : Filter
  transformation : Option Transformation
  options : Options

namespace Plan

/-- The clauses of a query. -/
def clauses : List String := ["WHERE", "OPTIONS", "TRANSFORMATIONS"]

/-- The dataset that a query names: that of its first field column, or else of its
first grouping key. -/
def target (options : Options) (transformations : Option Json) : Except Fault String :=
  match options.dataset?, transformations with
  | some id, _ => .ok id
  | none, some raw => Transformation.groupDataset raw
  | none, none => .error .noDataset

/-- The names of the rules, which are found before the rules are read. -/
def namesOf : Option Json → Except Fault (List String)
  | some raw => Transformation.ruleNames raw
  | none => .ok []

/-- Checks the clauses of a query whose dataset is found. -/
def ofClauses (dataset : Dataset) (options : Options) (condition : Json)
    (transformations : Option Json) : Except Fault Plan := do
  let scope : Scope := ⟨dataset.id, dataset.kind⟩
  options.checkScope scope
  let filter ← Filter.read scope condition
  match transformations with
  | none => return ⟨dataset, filter, none, options⟩
  | some raw =>
    let transformation ← Transformation.read scope raw
    options.checkGrouped transformation.group
    return ⟨dataset, filter, some transformation, options⟩

/-- Makes a plan of a query. -/
def ofQuery (lookup : Lookup) : Json → Except Fault Plan
  | .object members => do
    if let some (name, _) := members.find? (fun member => !clauses.contains member.1) then
      throw (.unexpectedClause name)
    let some condition := members.lookup "WHERE" | throw .whereMissing
    let some selection := members.lookup "OPTIONS" | throw .optionsMissing
    let transformations := members.lookup "TRANSFORMATIONS"
    let rules ← namesOf transformations
    let options ← Options.read rules selection
    let id ← target options transformations
    let some dataset := lookup id | throw (.unknownDataset id)
    ofClauses dataset options condition transformations
  | _ => .error .queryNotObject

end Plan

end CampusQuery
