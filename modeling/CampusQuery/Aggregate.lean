import CampusQuery.Number.Decimal
import CampusQuery.Record

/-!
# Aggregates

An aggregate makes one number of the values of a field in a group. Sums and
averages are accumulated as decimals and rounded to two places; where the values
or their running total leave the range of decimals, the sum of the binary values
takes their place. Counting asks only which values are distinct, and applies to
texts as well.
-/

namespace CampusQuery

namespace Binary64

/-- The largest value; minus infinity if there is none. -/
def maximum (values : List Binary64) : Binary64 := values.foldl larger (.infinite true)

/-- The smallest value; infinity if there is none. -/
def minimum (values : List Binary64) : Binary64 := values.foldl smaller (.infinite false)

/-- The decimal sum, from left to right, if every value and every partial sum is a
decimal. -/
def decimalTotal? (values : List Binary64) : Option Decimal :=
  values.foldlM (fun total value => do total.add? (← Decimal.ofBinary64? value)) Decimal.zero

/-- The binary sum, from left to right. -/
def binaryTotal (values : List Binary64) : Binary64 := values.foldl add zero

/-- The sum, rounded to two places. -/
def sum (values : List Binary64) : Binary64 :=
  match decimalTotal? values with
  | some total => ofHundredths total.hundredths
  | none => (binaryTotal values).roundToHundredths

/-- The average, rounded to two places; zero if there is no value. -/
def average (values : List Binary64) : Binary64 :=
  if values.isEmpty then zero
  else
    let total :=
      match decimalTotal? values with
      | some total => total.toBinary64
      | none => binaryTotal values
    (total.divideBy values.length).roundToHundredths

end Binary64

namespace Value

/-- The number of distinct values, by identity. -/
def countDistinct (values : List Value) : Nat := (values.map identity).eraseDups.length

end Value

/-- An aggregate. -/
inductive Aggregate where
  | max
  | min
  | avg
  | count
  | sum
deriving DecidableEq, Repr

namespace Aggregate

/-- The token of an aggregate in a query. -/
def label : Aggregate → String
  | max => "MAX"
  | min => "MIN"
  | avg => "AVG"
  | count => "COUNT"
  | sum => "SUM"

/-- All aggregates. -/
def all : List Aggregate := [max, min, avg, count, sum]

/-- The aggregate of a token written exactly. -/
def ofLabel? (text : String) : Option Aggregate := all.find? (·.label = text)

/-- Whether the aggregate applies to numbers alone. -/
def needsNumbers : Aggregate → Bool
  | count => false
  | max | min | avg | sum => true

/-- The aggregate of numbers. -/
def ofNumbers : Aggregate → List Binary64 → Binary64
  | max, values => Binary64.maximum values
  | min, values => Binary64.minimum values
  | avg, values => Binary64.average values
  | sum, values => Binary64.sum values
  | count, values => Binary64.ofInt (Value.countDistinct (values.map .number))

/-- The aggregate of the values of a field. -/
def ofRecords (aggregate : Aggregate) (key : Key) (records : List Record) :
    Except Defect Binary64 := do
  let values ← records.mapM (·.value key.field)
  if aggregate.needsNumbers then
    match values.mapM Value.number? with
    | some numbers => return aggregate.ofNumbers numbers
    | none => throw (.notNumeric key)
  else return Binary64.ofInt (Value.countDistinct values)

end Aggregate

end CampusQuery
