import CampusQuery.Number.Shortest

/-!
# Decimals of ninety-six bits

A decimal is a signed whole number below 2^96 in magnitude over a power of ten
with an exponent of at most twenty-eight. Sums of field values are accumulated in
this type, so that tenths and hundredths add up without binary artefacts.

A binary64 value enters as its shortest decimal, with digits beyond the
twenty-eighth place rounded away. Where that has too many digits, the significant
bits of the value are converted instead, which helps at one magnitude alone. A sum is
exact at the larger of the two scales where it fits; where it does not, the exact
sum is rounded once, to the largest scale at which it does.
-/

namespace CampusQuery

/-- The number `mantissa / 10 ^ scale`. -/
structure Decimal where
  mantissa : Int
  scale : Nat
  mantissa_small : mantissa.natAbs < Nat.pow 2 96
  scale_small : scale ≤ 28
deriving DecidableEq

namespace Decimal

/-- The decimal with a mantissa and a scale, if there is one. -/
def make? (mantissa : Int) (scale : Nat) : Option Decimal :=
  if small : mantissa.natAbs < Nat.pow 2 96 ∧ scale ≤ 28 then
    some ⟨mantissa, scale, small.1, small.2⟩
  else none

/-- Zero without places. -/
def zero : Decimal := ⟨0, 0, by decide, by decide⟩

/-- A magnitude with a sign. -/
def signed (negative : Bool) (magnitude : Nat) : Int :=
  if negative then -(magnitude : Int) else magnitude

/-- The decimal of a number's shortest spelling. Whole numbers of 2^96 or more,
infinities and what is not a number have none. -/
def ofSpelling? : Binary64 → Option Decimal
  | .finite negative units _ =>
    let spelled := Scientific.shortest .away units
    let places := (-spelled.exponent).toNat
    if places ≤ 28 then
      make? (signed negative (spelled.digits * Nat.pow 10 spelled.exponent.toNat)) places
    else make? (signed negative (roundQuotient .away spelled.digits (Nat.pow 10 (places - 28)))) 28
  | _ => none

/-- The decimal of the significant bits of a whole number of 2^96 or more. They are shifted
as far as ninety-six bits allow, divided by five for what is left of the exponent, and
multiplied by ten again. The one division that 2^96 needs drops its remainder, so what
comes of it is six less and fits. From the next magnitude on nothing does. -/
def ofSignificand? : Binary64 → Option Decimal
  | .finite negative units _ =>
    if units = Nat.pow 2 96 * Binary64.one then
      make? (signed negative (Nat.pow 2 95 / 5 * 10)) 0
    else none
  | _ => none

/-- The decimal that stands for a number in sums: that of its spelling or, where there is
none, that of its significant bits. -/
def ofBinary64? (value : Binary64) : Option Decimal :=
  match ofSpelling? value with
  | some decimal => some decimal
  | none => ofSignificand? value

/-- A total at a scale, lowered to the largest smaller scale at which it fits. -/
def lower? (total : Int) (scale : Nat) : Option Decimal :=
  (List.range (scale + 1)).findSome? fun dropped =>
    make? (signed (total < 0) (roundQuotient .toEven total.natAbs (Nat.pow 10 dropped)))
      (scale - dropped)

/-- The sum, if it is in range. Adding zero gives the other number as it is. -/
def add? (left right : Decimal) : Option Decimal :=
  if left.mantissa = 0 then some right
  else if right.mantissa = 0 then some left
  else
    let scale := max left.scale right.scale
    lower? (left.mantissa * Nat.pow 10 (scale - left.scale) +
      right.mantissa * Nat.pow 10 (scale - right.scale)) scale

/-- The number rounded to two places, ties away from zero, in hundredths. A
number with fewer places is only written out. -/
def hundredths (value : Decimal) : Int :=
  signed (value.mantissa < 0)
    (roundQuotient .away (value.mantissa.natAbs * 100) (Nat.pow 10 value.scale))

/-- The nearest binary64 value. -/
def toBinary64 (value : Decimal) : Binary64 :=
  Binary64.ofDecimal (value.mantissa < 0) value.mantissa.natAbs (-(value.scale : Int))

end Decimal

namespace Binary64

/-- A number of hundredths as a binary64 value. -/
def ofHundredths (count : Int) : Binary64 := ofDecimal (count < 0) count.natAbs (-2)

/-- The value rounded to two places, ties away from zero. It is the exact binary
value that is rounded; a magnitude of 2^96 or more has no places to lose. -/
def roundToHundredths (value : Binary64) : Binary64 :=
  match value with
  | .finite negative units _ =>
    if units < Nat.pow 2 96 * one then
      ofHundredths (Decimal.signed negative (roundQuotient .away (units * 100) one))
    else value
  | other => other

end Binary64

end CampusQuery
