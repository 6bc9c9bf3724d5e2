import CampusQuery.Number.Rounding

/-!
# Numbers of sixty-four bits

A finite binary64 value is a sign and a whole number of units, the unit being the
least positive value, 2^-1074. Every finite value is such a multiple, so sums and
comparisons are computed on whole numbers and rounded at most once. Which
multiples exist is the predicate `Representable`: at most fifty-three significant
bits, and a magnitude below 2^1024.

Zero keeps its sign, since a written zero shows it, but no comparison and no
identity sees it. A value that is not a number keeps its bit pattern, by which
two such values are told apart and in no other way.
-/

namespace CampusQuery

namespace Binary64

/-- The units in one: 2^1074. -/
def one : Nat := Nat.pow 2 1074

/-- The first magnitude, in units, beyond every finite value: that of 2^1024. -/
def limit : Nat := Nat.pow 2 2098

/-- The distance, in units, from a magnitude to the next one of the same binary
order: one unit up to 2^53 units, and doubling with every further bit. -/
def spacing (units : Nat) : Nat := Nat.pow 2 (units.log2 - 52)

/-- A magnitude, in units, that a finite value can have. -/
def Representable (units : Nat) : Prop := units < limit ∧ spacing units ∣ units

instance (units : Nat) : Decidable (Representable units) :=
  inferInstanceAs (Decidable (_ ∧ _))

end Binary64

/-- A binary64 value. -/
inductive Binary64 where
  /-- A sign and a magnitude in units of 2^-1074. -/
  | finite (negative : Bool) (units : Nat) (representable : Binary64.Representable units)
  | infinite (negative : Bool)
  /-- Not a number; the pattern is all that is known of it. -/
  | nan (pattern : UInt64)
deriving DecidableEq

namespace Binary64

/-- The value with a sign and a magnitude in units; a magnitude that no finite
value has gives infinity. -/
def ofUnits (negative : Bool) (units : Nat) : Binary64 :=
  if representable : Representable units then .finite negative units representable
  else .infinite negative

/-- Zero without a sign. -/
def zero : Binary64 := ofUnits false 0

instance : Inhabited Binary64 := ⟨zero⟩

/-- Not a number, in the pattern that arithmetic produces. -/
def undefined : Binary64 := .nan 0x7ff8000000000000

/-- The value nearest to a quotient of units, ties to even, with the given sign.
The spacing is that of the quotient's own binary order, so the rounded multiple
has at most fifty-three significant bits; a magnitude that rounds to 2^1024 or
more is infinite. -/
def ofRatio (negative : Bool) (numerator denominator : Nat) : Binary64 :=
  let step := spacing (numerator / denominator)
  ofUnits negative (roundQuotient .toEven numerator (denominator * step) * step)

/-- The value nearest to a whole number. -/
def ofInt (value : Int) : Binary64 := ofRatio (value < 0) (value.natAbs * one) 1

/-- The value nearest to `digits * 10 ^ exponent`, with the given sign. Exponents
that put any such number beyond the finite values, or below half a unit, are
settled without computing the power. -/
def ofDecimal (negative : Bool) (digits : Nat) (exponent : Int) : Binary64 :=
  if digits = 0 then ofUnits negative 0
  else if 400 < exponent then .infinite negative
  else if exponent < -(400 + (digits.log2 : Int)) then ofUnits negative 0
  else ofRatio negative (digits * Nat.pow 10 exponent.toNat * one)
    (Nat.pow 10 (-exponent).toNat)

/-- The value that a pattern of bits stands for: a sign bit, eleven bits of
exponent and fifty-two bits of fraction. -/
def ofBits (pattern : UInt64) : Binary64 :=
  let negative := decide (Nat.pow 2 63 ≤ pattern.toNat)
  let exponent := pattern.toNat / Nat.pow 2 52 % Nat.pow 2 11
  let fraction := pattern.toNat % Nat.pow 2 52
  if exponent = 2047 then if fraction = 0 then .infinite negative else .nan pattern
  else if exponent = 0 then ofUnits negative fraction
  else ofUnits negative ((Nat.pow 2 52 + fraction) * Nat.pow 2 (exponent - 1))

/-- The pattern of bits of a value. -/
def toBits : Binary64 → UInt64
  | .finite negative units _ =>
    let exponent := if units < Nat.pow 2 52 then 0 else units.log2 - 51
    let fraction := units / spacing units % Nat.pow 2 52
    .ofNat ((if negative then Nat.pow 2 63 else 0) + exponent * Nat.pow 2 52 + fraction)
  | .infinite negative => .ofNat ((if negative then Nat.pow 2 63 else 0) + 2047 * Nat.pow 2 52)
  | .nan pattern => pattern

/-- Whether a value is finite. -/
def isFinite : Binary64 → Bool
  | .finite .. => true
  | _ => false

/-- Where a value stands on the number line, in units; the infinities stand just
beyond the finite values, and what is not a number stands nowhere. -/
def position? : Binary64 → Option Int
  | .finite negative units _ => some (if negative then -(units : Int) else units)
  | .infinite negative => some (if negative then -(limit : Int) else limit)
  | .nan _ => none

/-- The numeric order. Nothing compares with what is not a number, and the two
zeros stand at the same place. -/
def compare? (left right : Binary64) : Option Ordering := do
  return compare (← left.position?) (← right.position?)

/-- The value under which a number is grouped and counted: the number itself,
but for the sign of a zero. -/
def identity : Binary64 → Binary64
  | .finite negative units representable => .finite (negative && units != 0) units representable
  | other => other

/-- The sum, rounded once. A sum of zero is negative only if both addends are. -/
def add : Binary64 → Binary64 → Binary64
  | .finite leftNegative leftUnits _, .finite rightNegative rightUnits _ =>
    let total : Int :=
      (if leftNegative then -(leftUnits : Int) else leftUnits) +
        (if rightNegative then -(rightUnits : Int) else rightUnits)
    if total = 0 then ofUnits (leftNegative && rightNegative) 0
    else ofRatio (total < 0) total.natAbs 1
  | .nan pattern, _ => .nan pattern
  | _, .nan pattern => .nan pattern
  | .infinite leftNegative, .infinite rightNegative =>
    if leftNegative = rightNegative then .infinite leftNegative else undefined
  | .infinite negative, .finite .. => .infinite negative
  | .finite .., .infinite negative => .infinite negative

/-- The quotient by a positive whole number, rounded once. -/
def divideBy (value : Binary64) (count : Nat) : Binary64 :=
  match value with
  | .finite negative units _ => ofRatio negative units count
  | other => other

/-- The larger of two values; what is not a number is passed over. -/
def larger (left right : Binary64) : Binary64 :=
  match left.position?, right.position? with
  | some leftPosition, some rightPosition => if leftPosition < rightPosition then right else left
  | none, _ => right
  | _, none => left

/-- The smaller of two values; what is not a number is passed over. -/
def smaller (left right : Binary64) : Binary64 :=
  match left.position?, right.position? with
  | some leftPosition, some rightPosition => if rightPosition < leftPosition then right else left
  | none, _ => right
  | _, none => left

/-- The value as a whole number, where it is one. -/
def toInt? : Binary64 → Option Int
  | .finite negative units _ =>
    if units % one = 0 then
      some (if negative then -((units / one : Nat) : Int) else (units / one : Nat))
    else none
  | _ => none

end Binary64

end CampusQuery
