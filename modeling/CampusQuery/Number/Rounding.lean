/-!
# Rounding a quotient

A quotient of naturals is rounded to the nearest whole number. The remainder
decides on which side of the midpoint the quotient lies; on the midpoint itself
the supplied rule decides. Every rounding of the library, binary or decimal, is
an application of this one function to a suitable pair of naturals.
-/

namespace CampusQuery

/-- The rule for a quotient that lies exactly between two whole numbers. -/
inductive Tie where
  /-- The even neighbour. -/
  | toEven
  /-- The larger neighbour; on magnitudes, the one farther from zero. -/
  | away
deriving DecidableEq, Repr

/-- The whole number nearest to `numerator / denominator`, a tie going by the
rule. The denominator is positive in every use. -/
def roundQuotient (tie : Tie) (numerator denominator : Nat) : Nat :=
  let whole := numerator / denominator
  let rest := numerator % denominator
  if 2 * rest < denominator then whole
  else if denominator < 2 * rest then whole + 1
  else match tie with
    | .toEven => if whole % 2 = 0 then whole else whole + 1
    | .away => whole + 1

/-- A whole quotient is its own rounding. -/
theorem roundQuotient_mul (tie : Tie) (whole denominator : Nat) (positive : 0 < denominator) :
    roundQuotient tie (whole * denominator) denominator = whole := by
  have rest : whole * denominator % denominator = 0 := Nat.mul_mod_left whole denominator
  simp [roundQuotient, rest, Nat.mul_div_cancel whole positive, positive]

end CampusQuery
