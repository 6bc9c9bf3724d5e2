import CampusQuery.Scope
import CampusQuery.Json.Basic

/-!
# Columns and order

The options of a query select columns, fields of the dataset or results of the
query's rules, and may give an order by some of them. They are read before the
dataset is known: the first field among the columns tells which one is meant.
-/

namespace CampusQuery

/-- A column of the result. -/
inductive Column where
  /-- A field, under its key. -/
  | field (key : Key)
  /-- The result of a rule, under the name of the rule. -/
  | aggregate (name : String)
deriving DecidableEq

namespace Column

/-- The name of the column in a row. -/
def label : Column → String
  | field key => key.display
  | aggregate name => name

/-- The key of a column that names a field. -/
def key? : Column → Option Key
  | field key => some key
  | aggregate _ => none

/-- Reads a column: the name of a rule, or else a key. -/
def read (rules : List String) (raw : String) : Except Fault Column :=
  if rules.contains raw then .ok (.aggregate raw) else return .field (← Key.read raw)

end Column

/-- The direction of an order; it applies to every key. -/
inductive Direction where
  | up
  | down
deriving DecidableEq, Repr

namespace Direction

/-- The name of a direction in a query. -/
def label : Direction → String
  | up => "UP"
  | down => "DOWN"

/-- The direction of a name written exactly. -/
def ofLabel? (text : String) : Option Direction := [up, down].find? (·.label = text)

/-- An ordering seen in the direction. -/
def apply : Direction → Ordering → Ordering
  | up, ordering => ordering
  | down, ordering => ordering.swap

end Direction

/-- An order of rows: by the first key, among equals by the second, and so on. -/
structure SortOrder where
  direction : Direction
  keys : List Column
deriving DecidableEq

/-- What a query selects and how it orders the rows. -/
structure Options where
  columns : List Column
  order : Option SortOrder
deriving DecidableEq

namespace Options

/-- The keys among the columns. -/
def keys (options : Options) : List Key := options.columns.filterMap Column.key?

/-- The dataset that the columns name, if there is a field among them. -/
def dataset? (options : Options) : Option String := options.keys.head?.map Key.dataset

/-- Reads the columns in order, given the dataset that the columns before them
name. A field of another dataset is refused where it stands. -/
def readColumns (rules : List String) (bound : Option String) :
    List Json → Except Fault (List Column)
  | [] => .ok []
  | .text raw :: rest => do
    match ← Column.read rules raw with
    | .aggregate name => return .aggregate name :: (← readColumns rules bound rest)
    | .field key =>
      let dataset := bound.getD key.dataset
      if key.dataset ≠ dataset then throw (.otherDataset dataset key.dataset)
      return .field key :: (← readColumns rules (some dataset) rest)
  | _ :: _ => .error .columnNotText

/-- Reads a key of the order, which must be one of the columns. -/
def readOrderKey (rules : List String) (columns : List Column) (raw : String) :
    Except Fault Column := do
  let column ← Column.read rules raw
  if columns.contains column then return column else throw (.orderKeyNotSelected raw)

/-- Reads the keys of the order in turn. -/
def readOrderKeys (rules : List String) (columns : List Column) :
    List Json → Except Fault (List Column)
  | [] => .ok []
  | .text raw :: rest => do
    return (← readOrderKey rules columns raw) :: (← readOrderKeys rules columns rest)
  | _ :: _ => .error .orderKeyNotText

/-- The names in an order that has a direction. -/
def orderClauses : List String := ["dir", "keys"]

/-- Reads an order: one key, taken upwards, or a direction with keys. -/
def readOrder (rules : List String) (columns : List Column) : Json → Except Fault SortOrder
  | .text raw => return ⟨.up, [← readOrderKey rules columns raw]⟩
  | .object members => do
    if let some (name, _) := members.find? (fun member => !orderClauses.contains member.1) then
      throw (.unexpectedOrderName name)
    let direction ←
      match members.lookup "dir" with
      | some (.text text) =>
        match Direction.ofLabel? text with
        | some direction => pure direction
        | none => throw (.directionUnknown text)
      | _ => throw .directionMissing
    match members.lookup "keys" with
    | some (.array []) => throw .orderKeysEmpty
    | some (.array items) => return ⟨direction, ← readOrderKeys rules columns items⟩
    | _ => throw .orderKeysMissing
  | _ => .error .orderShape

/-- The names in options. -/
def clauses : List String := ["COLUMNS", "ORDER"]

/-- Reads the options, given the names of the query's rules. -/
def read (rules : List String) : Json → Except Fault Options
  | .object members => do
    if let some (name, _) := members.find? (fun member => !clauses.contains member.1) then
      throw (.unexpectedOption name)
    let columns ←
      match members.lookup "COLUMNS" with
      | none => throw .columnsMissing
      | some (.array []) => throw .columnsEmpty
      | some (.array items) => readColumns rules none items
      | some _ => throw .columnsNotArray
    match members.lookup "ORDER" with
    | none => return ⟨columns, none⟩
    | some raw => return ⟨columns, some (← readOrder rules columns raw)⟩
  | _ => .error .optionsNotObject

/-- Requires that every field among the columns belong to the dataset. -/
def checkScope (options : Options) (scope : Scope) : Except Fault Unit :=
  options.keys.forM scope.check

/-- Requires that every field among the columns be one of the grouping keys. -/
def checkGrouped (options : Options) (group : List Key) : Except Fault Unit :=
  match options.keys.find? (fun key => !group.contains key) with
  | some key => .error (.ungrouped key)
  | none => .ok ()

/-- The names of the columns, in the order of their selection. -/
def labels (options : Options) : List String := options.columns.map Column.label

/-- The names of the columns, each once, in the order of their first selection. -/
def header (options : Options) : List String := options.labels.eraseDups

end Options

end CampusQuery
