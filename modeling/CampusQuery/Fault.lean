import CampusQuery.Key

/-!
# Why a query is refused

Every cause for which a query is refused before any record is read is one
constructor of `Fault`, with what its message mentions. The wording stands in
`Fault.message` alone. A query that is accepted can still be refused for the size
of its result; the two together are `QueryError`.
-/

namespace CampusQuery

/-- A cause for which a query is refused as malformed or inconsistent. -/
inductive Fault where
  -- The parts of a query.
  | queryNotObject
  | unexpectedClause (name : String)
  | whereMissing
  | optionsMissing
  | noDataset
  | unknownDataset (id : String)
  | ungrouped (key : Key)
  -- Keys.
  | keySplit (raw : String)
  | keyBlank (raw : String)
  | keyField (raw : String) (field : String)
  | keyKind (raw : String) (field : Field) (kind : Kind)
  | otherDataset (bound : String) (other : String)
  | foreignKey (key : Key) (kind : Kind)
  | numericNeeded (operator : String) (key : Key)
  -- Filters.
  | whereNotObject
  | unknownOperator (name : String)
  | operatorCount (count : Nat)
  | childrenNotArray (operator : String)
  | childrenEmpty (operator : String)
  | comparisonNotObject (operator : String)
  | comparisonCount (operator : String) (count : Nat)
  | numberNeeded (operator : String) (key : Key)
  | textualNeeded (key : Key)
  | textNeeded (key : Key)
  | innerStar (pattern : String)
  -- Columns and order.
  | optionsNotObject
  | unexpectedOption (name : String)
  | columnsMissing
  | columnsNotArray
  | columnsEmpty
  | columnNotText
  | orderShape
  | unexpectedOrderName (name : String)
  | directionUnknown (text : String)
  | directionMissing
  | orderKeysMissing
  | orderKeysEmpty
  | orderKeyNotText
  | orderKeyNotSelected (name : String)
  -- Transformations.
  | transformationsNotObject
  | unexpectedTransformation (name : String)
  | groupMissing
  | groupNotArray
  | groupEmpty
  | groupEntryNotText
  | applyMissing
  | applyNotArray
  | ruleNotObject
  | ruleCount (count : Nat)
  | ruleName (name : String)
  | ruleRepeated (name : String)
  | ruleBodyNotObject (name : String)
  | ruleTokenCount (name : String) (count : Nat)
  | unknownToken (token : String)
  | ruleTargetNotText (name : String)
deriving DecidableEq

namespace Fault

/-- A text between double quotes, as it is. -/
def quote (text : String) : String := "\"" ++ text ++ "\""

/-- The wording of a cause. -/
def message : Fault → String
  | queryNotObject => "query must be a JSON object"
  | unexpectedClause name => "unexpected top-level key " ++ quote name
  | whereMissing => "query missing WHERE"
  | optionsMissing => "query missing OPTIONS"
  | noDataset => "COLUMNS must reference at least one dataset key"
  | unknownDataset id => "dataset " ++ quote id ++ " has not been added"
  | ungrouped key => "column " ++ quote key.display ++ " is neither grouped nor aggregated"
  | keySplit raw => "invalid key " ++ quote raw ++ ": expected \"<dataset>_<field>\""
  | keyBlank raw => "invalid key " ++ quote raw ++ ": empty dataset id"
  | keyField raw field => "invalid key " ++ quote raw ++ ": unknown field " ++ quote field
  | keyKind raw field kind =>
    "invalid key " ++ quote raw ++ ": " ++ field.label ++ " is not a " ++ kind.label ++ " field"
  | otherDataset bound other =>
    "multiple datasets referenced: " ++ quote bound ++ " and " ++ quote other
  | foreignKey key kind => "key " ++ quote key.display ++ " is not a " ++ kind.label ++ " field"
  | numericNeeded operator key => operator ++ " requires a numeric key, got " ++ quote key.display
  | whereNotObject => "WHERE clause must be an object"
  | unknownOperator name => "unknown filter operator " ++ quote name
  | operatorCount count =>
    "a filter object takes exactly one operator, found " ++ toString count
  | childrenNotArray operator => operator ++ " must be an array"
  | childrenEmpty operator => operator ++ " must have at least one child"
  | comparisonNotObject operator => operator ++ " must be an object"
  | comparisonCount operator count => operator ++ " takes exactly one key, found " ++ toString count
  | numberNeeded operator key =>
    operator ++ " value for " ++ quote key.display ++ " must be a number"
  | textualNeeded key => "IS requires a string key, got " ++ quote key.display
  | textNeeded key => "IS value for " ++ quote key.display ++ " must be a string"
  | innerStar pattern =>
    "IS pattern " ++ quote pattern ++ ": wildcard only allowed at start or end"
  | optionsNotObject => "OPTIONS must be an object"
  | unexpectedOption name => "unexpected key " ++ quote name ++ " in OPTIONS"
  | columnsMissing => "OPTIONS missing COLUMNS"
  | columnsNotArray => "COLUMNS must be an array"
  | columnsEmpty => "COLUMNS must not be empty"
  | columnNotText => "COLUMNS entries must be strings"
  | orderShape => "ORDER must be a string or an object"
  | unexpectedOrderName name => "unexpected key " ++ quote name ++ " in ORDER"
  | directionUnknown text => "ORDER dir must be \"UP\" or \"DOWN\", got " ++ quote text
  | directionMissing => "ORDER missing string dir"
  | orderKeysMissing => "ORDER missing keys array"
  | orderKeysEmpty => "ORDER keys must not be empty"
  | orderKeyNotText => "ORDER keys must be strings"
  | orderKeyNotSelected name => "ORDER key " ++ quote name ++ " is not in COLUMNS"
  | transformationsNotObject => "TRANSFORMATIONS must be an object"
  | unexpectedTransformation name => "unexpected key " ++ quote name ++ " in TRANSFORMATIONS"
  | groupMissing => "TRANSFORMATIONS missing GROUP"
  | groupNotArray => "GROUP must be an array"
  | groupEmpty => "GROUP must not be empty"
  | groupEntryNotText => "GROUP entries must be strings"
  | applyMissing => "TRANSFORMATIONS missing APPLY"
  | applyNotArray => "APPLY must be an array"
  | ruleNotObject => "APPLY rules must be objects"
  | ruleCount count => "an APPLY rule takes exactly one key, found " ++ toString count
  | ruleName name =>
    "invalid APPLY key " ++ quote name ++ ": must be non-empty without underscores"
  | ruleRepeated name => "duplicate APPLY key " ++ quote name
  | ruleBodyNotObject name => "APPLY rule " ++ quote name ++ " must be an object"
  | ruleTokenCount name count =>
    "APPLY rule " ++ quote name ++ " takes exactly one token, found " ++ toString count
  | unknownToken token => "unknown APPLY token " ++ quote token
  | ruleTargetNotText name => "APPLY rule " ++ quote name ++ " target must be a string"

end Fault

/-- The two ways in which a query fails. -/
inductive QueryError where
  /-- The query is malformed, or does not fit the dataset that it names. -/
  | refused (fault : Fault)
  /-- The result, after grouping, has more rows than the limit. -/
  | tooLarge (rows : Nat) (limit : Nat)
deriving DecidableEq

/-- The wording of an error. -/
def QueryError.message : QueryError → String
  | refused fault => "invalid query: " ++ fault.message
  | tooLarge rows limit =>
    "result too large: " ++ toString rows ++ " rows exceeds the limit of " ++ toString limit

end CampusQuery
