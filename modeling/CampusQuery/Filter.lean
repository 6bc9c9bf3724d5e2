import CampusQuery.Pattern
import CampusQuery.Scope
import CampusQuery.Record

/-!
# Filters

A filter is a condition on one record. It is read whole from its JSON form, in the
scope of a dataset, before any record is looked at: one malformed part, at any
depth, refuses all of it. Evaluation asks for the fields of the record as it goes
and stops at the first child that decides a conjunction or a disjunction.
-/

namespace CampusQuery

/-- A comparison of numbers. -/
inductive Relation where
  | equal
  | greater
  | less
deriving DecidableEq

namespace Relation

/-- How the left side stands to the right side when the relation holds. -/
def ordering : Relation → Ordering
  | equal => .eq
  | greater => .gt
  | less => .lt

/-- Whether the relation holds; it never does for what is not a number. -/
def holds (relation : Relation) (left right : Binary64) : Bool :=
  left.compare? right == some relation.ordering

end Relation

/-- The operators of the JSON form. -/
inductive Operator where
  | and
  | or
  | not
  | relate (relation : Relation)
  | like
deriving DecidableEq

namespace Operator

/-- The name of an operator in a query. -/
def label : Operator → String
  | and => "AND"
  | or => "OR"
  | not => "NOT"
  | relate .equal => "EQ"
  | relate .greater => "GT"
  | relate .less => "LT"
  | like => "IS"

/-- All operators. -/
def all : List Operator :=
  [and, or, relate .equal, relate .greater, relate .less, not, like]

/-- The operator of a name written exactly. -/
def ofLabel? (text : String) : Option Operator := all.find? (·.label = text)

end Operator

/-- A condition on a record. -/
inductive Filter where
  /-- Every record passes. -/
  | all
  | and (children : List Filter)
  | or (children : List Filter)
  | not (child : Filter)
  /-- The number under a key stands in a relation to a literal. -/
  | relate (relation : Relation) (key : Key) (literal : Binary64)
  /-- The text under a key matches a pattern. -/
  | like (key : Key) (pattern : Pattern)

namespace Filter

/-- Reads the key and the literal of a comparison. -/
def readComparison (scope : Scope) (operator : Operator) : Json → Except Fault (Key × Json)
  | .object [(raw, literal)] => do return (← scope.resolve raw, literal)
  | .object members => .error (.comparisonCount operator.label members.length)
  | _ => .error (.comparisonNotObject operator.label)

/-- Reads the comparison of a numeric field with a number. -/
def readRelate (scope : Scope) (relation : Relation) (body : Json) : Except Fault Filter := do
  let operator := Operator.relate relation
  let (key, literal) ← readComparison scope operator body
  if !key.isNumeric then throw (.numericNeeded operator.label key)
  match literal with
  | .number numeral => return .relate relation key numeral.toBinary64
  | _ => throw (.numberNeeded operator.label key)

/-- Reads the match of a textual field with a pattern. -/
def readLike (scope : Scope) (body : Json) : Except Fault Filter := do
  let (key, literal) ← readComparison scope .like body
  if !key.isTextual then throw (.textualNeeded key)
  match literal with
  | .text raw => return .like key (← Pattern.read raw)
  | _ => throw (.textNeeded key)

mutual

/-- Reads a filter. An object without members is the filter that every record
passes; any other has one member, named for an operator. -/
def read (scope : Scope) : Json → Except Fault Filter
  | .object [] => .ok .all
  | .object [(name, body)] =>
    match Operator.ofLabel? name with
    | none => .error (.unknownOperator name)
    | some .and =>
      match body with
      | .array [] => .error (.childrenEmpty name)
      | .array items => return .and (← readAll scope items)
      | _ => .error (.childrenNotArray name)
    | some .or =>
      match body with
      | .array [] => .error (.childrenEmpty name)
      | .array items => return .or (← readAll scope items)
      | _ => .error (.childrenNotArray name)
    | some .not => return .not (← read scope body)
    | some (.relate relation) => readRelate scope relation body
    | some .like => readLike scope body
  | .object members =>
    match members.find? (fun member => (Operator.ofLabel? member.1).isNone) with
    | some (name, _) => .error (.unknownOperator name)
    | none => .error (.operatorCount members.length)
  | _ => .error .whereNotObject
termination_by structural raw => raw

/-- Reads the children of a conjunction or a disjunction, in order. -/
def readAll (scope : Scope) : List Json → Except Fault (List Filter)
  | [] => .ok []
  | item :: rest => do return (← read scope item) :: (← readAll scope rest)
termination_by structural items => items

end

mutual

/-- Whether a record passes. -/
def passes (record : Record) : Filter → Except Defect Bool
  | all => .ok true
  | and children => passesEach record children
  | or children => passesSome record children
  | not child => return !(← passes record child)
  | relate relation key literal => return relation.holds (← record.number key) literal
  | like key pattern => return pattern.accepts (← record.text key)
termination_by structural filter => filter

/-- Whether a record passes every child; the children after the first that it does
not pass are not looked at. -/
def passesEach (record : Record) : List Filter → Except Defect Bool
  | [] => .ok true
  | child :: rest => do if ← passes record child then passesEach record rest else return false
termination_by structural children => children

/-- Whether a record passes some child; the children after the first that it passes
are not looked at. -/
def passesSome (record : Record) : List Filter → Except Defect Bool
  | [] => .ok false
  | child :: rest => do if ← passes record child then return true else passesSome record rest
termination_by structural children => children

end

/-- The records that pass, in order. -/
def select (filter : Filter) : List Record → Except Defect (List Record)
  | [] => .ok []
  | record :: rest => do
    let passed ← filter.passes record
    let others ← filter.select rest
    return if passed then record :: others else others

mutual

/-- The number of conditions, combined ones and simple ones. -/
def size : Filter → Nat
  | and children => 1 + sizes children
  | or children => 1 + sizes children
  | not child => 1 + size child
  | all | relate .. | like .. => 1
termination_by structural filter => filter

/-- The number of conditions in all children. -/
def sizes : List Filter → Nat
  | [] => 0
  | child :: rest => size child + sizes rest
termination_by structural children => children

end

end Filter

end CampusQuery
