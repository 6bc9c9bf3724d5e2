import CampusQuery.Number.Binary64

/-!
# The shortest decimal of a number

A finite binary64 value is written with the fewest decimal digits that read back
to it. For one digit, two digits and so on up to seventeen, the two decimals of
that many digits on either side of the value are tried by reading them; the first
count at which one reads back is the answer. If both do, the nearer one is taken,
and a value exactly between them goes by the supplied rule.

The trial is the reading itself, so the answer reads back by construction. Should
no decimal of seventeen digits do, the exact decimal expansion of the value is
returned, which reads back as well.
-/

namespace CampusQuery

/-- The decimal `digits * 10 ^ exponent`. -/
structure Scientific where
  digits : Nat
  exponent : Int
deriving DecidableEq, Repr

namespace Scientific

/-- The number of decimal digits of a natural; zero has one. -/
def decimalLength (value : Nat) : Nat := (Nat.toDigits 10 value).length

/-- The exponent just above a positive magnitude: the least `k` for which
`units * 2 ^ (-1074) < 10 ^ k`. Below one it is found from the reciprocal. -/
def ceilingExponent (units : Nat) : Int :=
  if Binary64.one ≤ units then decimalLength (units / Binary64.one)
  else
    let places := decimalLength (Binary64.one / units)
    if Binary64.one ≤ Nat.pow 10 (places - 1) * units then 2 - (places : Int)
    else 1 - (places : Int)

/-- Whether a decimal reads as the magnitude. -/
def reads (units : Nat) (decimal : Scientific) : Bool :=
  Binary64.ofDecimal false decimal.digits decimal.exponent == Binary64.ofUnits false units

/-- The decimal of a digit count at an exponent. Ten in place of a single digit is
a one of the next order; this is how a value just below a power of ten is written
by that power. -/
def ofCount (count : Nat) (exponent : Int) : Scientific :=
  if count = 10 then ⟨1, exponent + 1⟩ else ⟨count, exponent⟩

/-- The decimal with the given exponent that reads as the magnitude, if one of
the two neighbours does; the nearer one if both do. -/
def neighbour? (tie : Tie) (units : Nat) (exponent : Int) : Option Scientific :=
  let numerator := units * Nat.pow 10 (-exponent).toNat
  let denominator := Binary64.one * Nat.pow 10 exponent.toNat
  let below := ofCount (numerator / denominator) exponent
  let above := ofCount (numerator / denominator + 1) exponent
  match reads units below, reads units above with
  | true, true => some (ofCount (roundQuotient tie numerator denominator) exponent)
  | true, false => some below
  | false, true => some above
  | false, false => none

/-- The exact decimal expansion of a magnitude: a unit is 5^1074 over 10^1074. -/
def exact (units : Nat) : Scientific := ⟨units * Nat.pow 5 1074, -1074⟩

/-- The shortest decimal of a magnitude in units. Zero is written as zero. -/
def shortest (tie : Tie) (units : Nat) : Scientific :=
  if units = 0 then ⟨0, 0⟩
  else
    let top := ceilingExponent units
    ((List.range' 1 17).findSome? fun (count : Nat) => neighbour? tie units (top - count)).getD
      (exact units)

end Scientific

end CampusQuery
