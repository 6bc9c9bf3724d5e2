import CampusQuery.Aggregate
import CampusQuery.Scope

/-!
# Transformations

A transformation groups records by the values of its keys and computes an
aggregate for each rule in every group. The names of the rules are read first,
since the columns of the query may refer to them before its dataset is known; the
whole is read again once it is.
-/

namespace CampusQuery

/-- A named aggregate of a field. -/
structure Rule where
  name : String
  aggregate : Aggregate
  key : Key
deriving DecidableEq

/-- The keys to group by and the rules to apply to each group. -/
structure Transformation where
  group : List Key
  rules : List Rule
deriving DecidableEq

namespace Transformation

/-- The names in a transformation. -/
def clauses : List String := ["GROUP", "APPLY"]

/-- The members of a transformation. -/
def members : Json → Except Fault (List (String × Json))
  | .object members =>
    match members.find? (fun member => !clauses.contains member.1) with
    | some (name, _) => .error (.unexpectedTransformation name)
    | none => .ok members
  | _ => .error .transformationsNotObject

/-- The grouping keys as they are given, at least one. -/
def groupItems (members : List (String × Json)) : Except Fault (List Json) :=
  match members.lookup "GROUP" with
  | none => .error .groupMissing
  | some (.array []) => .error .groupEmpty
  | some (.array items) => .ok items
  | some _ => .error .groupNotArray

/-- The rules as they are given. -/
def ruleItems (members : List (String × Json)) : Except Fault (List Json) :=
  match members.lookup "APPLY" with
  | none => .error .applyMissing
  | some (.array items) => .ok items
  | some _ => .error .applyNotArray

/-- The name and the body of a rule. A name holds at least one character and no
underscore. -/
def ruleMember : Json → Except Fault (String × Json)
  | .object [(name, body)] =>
    if name.isEmpty || name.toList.contains Key.separator then .error (.ruleName name)
    else .ok (name, body)
  | .object members => .error (.ruleCount members.length)
  | _ => .error .ruleNotObject

/-- Reads a grouping key. -/
def readGroupKey (scope : Scope) : Json → Except Fault Key
  | .text raw => scope.resolve raw
  | _ => .error .groupEntryNotText

/-- Reads the aggregate with a name. -/
def readToken (token : String) : Except Fault Aggregate :=
  match Aggregate.ofLabel? token with
  | some aggregate => .ok aggregate
  | none => .error (.unknownToken token)

/-- Reads the body of a rule: one aggregate, applied to one key. -/
def readRule (scope : Scope) (name : String) : Json → Except Fault Rule
  | .object [(token, target)] => do
    let aggregate ← readToken token
    match target with
    | .text raw =>
      let key ← scope.resolve raw
      if aggregate.needsNumbers && !key.isNumeric then
        throw (.numericNeeded aggregate.label key)
      return ⟨name, aggregate, key⟩
    | _ => throw (.ruleTargetNotText name)
  | .object members => .error (.ruleTokenCount name members.length)
  | _ => .error (.ruleBodyNotObject name)

/-- Reads the rules in turn, given the names of those before them. -/
def readRules (scope : Scope) (taken : List String) : List Json → Except Fault (List Rule)
  | [] => .ok []
  | item :: rest => do
    let (name, body) ← ruleMember item
    if taken.contains name then throw (.ruleRepeated name)
    return (← readRule scope name body) :: (← readRules scope (name :: taken) rest)

/-- Reads a transformation of the dataset. -/
def read (scope : Scope) (raw : Json) : Except Fault Transformation := do
  let members ← members raw
  let group ← (← groupItems members).mapM (readGroupKey scope)
  let rules ← readRules scope [] (← ruleItems members)
  return ⟨group, rules⟩

/-- Reads the names of the rules in turn, given the names of those before them. -/
def readNames (taken : List String) : List Json → Except Fault (List String)
  | [] => .ok []
  | item :: rest => do
    let (name, _) ← ruleMember item
    if taken.contains name then throw (.ruleRepeated name)
    return name :: (← readNames (name :: taken) rest)

/-- The names of the rules of a transformation that is not yet read. -/
def ruleNames (raw : Json) : Except Fault (List String) := do
  readNames [] (← ruleItems (← members raw))

/-- The dataset that the first grouping key names. -/
def groupDataset (raw : Json) : Except Fault String := do
  match (← groupItems (← members raw)).head? with
  | some (.text key) => return (← Key.read key).dataset
  | _ => throw .groupEntryNotText

/-- The values of the grouping keys in a record, by identity. -/
def groupOf (keys : List Key) (record : Record) : Except Defect (List Value) :=
  keys.mapM fun key => return (← record.value key.field).identity

end Transformation

/-- Records with the same values under the grouping keys, in order. A group has a
first record. -/
structure Group where
  values : List Value
  first : Record
  others : List Record
deriving DecidableEq

namespace Group

/-- All records of a group. -/
def records (group : Group) : List Record := group.first :: group.others

/-- The groups with one more record: at the end of the group of its values, or in
a new group after the others. -/
def place (values : List Value) (record : Record) : List Group → List Group
  | [] => [⟨values, record, []⟩]
  | group :: rest =>
    if group.values = values then { group with others := group.others ++ [record] } :: rest
    else group :: place values record rest

/-- The groups of the records, in the order of their first records. -/
def ofRecords (keys : List Key) (records : List Record) : Except Defect (List Group) :=
  records.foldlM
    (fun groups record => return place (← Transformation.groupOf keys record) record groups) []

end Group

end CampusQuery
