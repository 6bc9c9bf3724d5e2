import Mathlib.Data.Nat.Cast.Order.Field
import CampusQuery.Proofs.Sums

/-!
# The nearest value

Every reading of a decimal and every division rounds a quotient of whole numbers, but the
result depends on the number alone and not on the quotient by which it is given. So the
rounding is restated here as a function of rational numbers, and it is what its name says:
no magnitude that a value can have is nearer. That is enough to reason about two numbers
that are rounded one after the other without knowing which of the binary orders they are in.
-/

namespace CampusQuery

/-- A common factor is not seen in a rounded quotient. -/
theorem roundQuotient_mul_left (tie : Tie) {factor : Nat} (positive : 0 < factor)
    (numerator denominator : Nat) :
    roundQuotient tie (factor * numerator) (factor * denominator) =
      roundQuotient tie numerator denominator := by
  have doubled (rest : Nat) : 2 * (factor * rest) = factor * (2 * rest) := Nat.mul_left_comm _ _ _
  unfold roundQuotient
  dsimp only
  rw [Nat.mul_div_mul_left _ _ positive, Nat.mul_mod_mul_left, doubled]
  simp only [Nat.mul_lt_mul_left positive]

/-- Equal quotients are rounded alike. -/
theorem roundQuotient_congr (tie : Tie) {numerator denominator other otherDenominator : Nat}
    (positive : 0 < denominator) (otherPositive : 0 < otherDenominator)
    (same : numerator * otherDenominator = other * denominator) :
    roundQuotient tie numerator denominator = roundQuotient tie other otherDenominator := by
  calc roundQuotient tie numerator denominator
      = roundQuotient tie (otherDenominator * numerator) (otherDenominator * denominator) :=
        (roundQuotient_mul_left tie otherPositive _ _).symm
    _ = roundQuotient tie (denominator * other) (denominator * otherDenominator) := by
        rw [Nat.mul_comm otherDenominator numerator, same, Nat.mul_comm other,
          Nat.mul_comm otherDenominator]
    _ = roundQuotient tie other otherDenominator := roundQuotient_mul_left tie positive _ _

namespace Binary64

/-- A quotient of units, rounded to a magnitude with the distance of its own binary order. -/
def roundedUnits (numerator denominator : Nat) : Nat :=
  roundQuotient .toEven numerator (denominator * spacing (numerator / denominator)) *
    spacing (numerator / denominator)

/-- The magnitude, in units, of the value nearest to a number. -/
def unitsNear (number : ℚ) : Nat := roundedUnits (number.num.natAbs * one) number.den

/-- Distances are positive. -/
theorem spacing_pos (units : Nat) : 0 < spacing units := Nat.two_pow_pos _

/-- The number of a magnitude in units. -/
theorem abs_units (units : Nat) : |(units / one : ℚ)| = units / one :=
  abs_of_nonneg (div_nonneg (Nat.cast_nonneg _) (Nat.cast_nonneg _))

/-- A quotient of units times one is the units. -/
theorem abs_units_mul (units : Nat) : |(units / one : ℚ)| * one = units := by
  rw [abs_units]
  exact div_mul_cancel₀ _ (Nat.cast_ne_zero.mpr one_pos.ne')

/-- Rounding depends on the value of a quotient alone. -/
theorem roundedUnits_congr {numerator denominator other otherDenominator : Nat}
    (positive : 0 < denominator) (otherPositive : 0 < otherDenominator)
    (same : numerator * otherDenominator = other * denominator) :
    roundedUnits numerator denominator = roundedUnits other otherDenominator := by
  have whole : numerator / denominator = other / otherDenominator := by
    rw [← Nat.mul_div_mul_right numerator denominator otherPositive, same,
      Nat.mul_comm denominator, Nat.mul_div_mul_right other otherDenominator positive]
  unfold roundedUnits
  rw [whole]
  congr 1
  apply roundQuotient_congr _ (Nat.mul_pos positive (spacing_pos _))
    (Nat.mul_pos otherPositive (spacing_pos _))
  rw [← Nat.mul_assoc, same, Nat.mul_assoc]

/-- The quotient of units that is rounded for a number is the number's magnitude in units. -/
theorem unitsNear_quotient (number : ℚ) :
    ((number.num.natAbs * one : ℕ) : ℚ) / number.den = |number| * one := by
  rw [Nat.cast_mul, mul_div_right_comm, Rat.abs_def, Rat.divInt_eq_div, Int.cast_natCast,
    Int.cast_natCast]

/-- A quotient is rounded to the value nearest to the number that it is. -/
theorem roundedUnits_eq {numerator denominator : Nat} (positive : 0 < denominator) {number : ℚ}
    (same : (numerator / denominator : ℚ) = |number| * one) :
    roundedUnits numerator denominator = unitsNear number := by
  have below : (denominator : ℚ) ≠ 0 := Nat.cast_ne_zero.mpr positive.ne'
  have belowNumber : (number.den : ℚ) ≠ 0 := Nat.cast_ne_zero.mpr number.den_ne_zero
  apply roundedUnits_congr positive number.den_pos
  have crossed : (numerator * number.den : ℚ) = (number.num.natAbs * one : ℕ) * denominator := by
    rw [← div_eq_div_iff below belowNumber, same, unitsNear_quotient]
  exact_mod_cast crossed

/-- A rounded quotient is a multiple of the distance at the quotient, and lies within half of
it. -/
theorem roundedUnits_near {numerator denominator : Nat} (positive : 0 < denominator) :
    spacing (numerator / denominator) ∣ roundedUnits numerator denominator ∧
      |(roundedUnits numerator denominator : ℚ) - numerator / denominator| ≤
        spacing (numerator / denominator) / 2 := by
  refine ⟨Nat.dvd_mul_left _ _, ?_⟩
  have stepPositive := spacing_pos (numerator / denominator)
  obtain ⟨lower, upper⟩ :=
    @roundQuotient_near .toEven numerator _ (Nat.mul_pos positive stepPositive)
  unfold roundedUnits
  generalize spacing (numerator / denominator) = step at stepPositive lower upper ⊢
  generalize roundQuotient .toEven numerator (denominator * step) = multiple at lower upper ⊢
  have below : (0 : ℚ) < denominator := Nat.cast_pos.mpr positive
  have lowerCast : (2 * numerator : ℚ) ≤
      2 * (denominator * step * multiple) + denominator * step := by exact_mod_cast lower
  have upperCast : (2 * (denominator * step * multiple) : ℚ) ≤
      2 * numerator + denominator * step := by exact_mod_cast upper
  have scaled : ((multiple * step : ℕ) - numerator / denominator : ℚ) =
      (denominator * step * multiple - numerator) / denominator := by
    rw [Nat.cast_mul]
    field_simp
  have half : (step / 2 : ℚ) = denominator * step / 2 / denominator := by field_simp
  rw [scaled, half, abs_div, abs_of_pos below]
  refine div_le_div_of_nonneg_right (abs_le.mpr ⟨?_, ?_⟩) below.le
  · linarith
  · linarith

/-- A magnitude is a multiple of the distance at a smaller one, or it is below a power of two
that is not above the other and is such a multiple. -/
theorem spacing_dvd_or {whole units : Nat} (exact : spacing units ∣ units) :
    spacing whole ∣ units ∨ ∃ base, units < base ∧ base ≤ whole ∧ spacing whole ∣ base := by
  by_cases zero : units = 0
  · exact .inl (zero ▸ Nat.dvd_zero _)
  · by_cases reached : whole.log2 ≤ units.log2
    · exact .inl ((Nat.pow_dvd_pow 2 (by omega)).trans exact)
    · have nonzero : whole ≠ 0 := by
        rintro rfl
        simp at reached
      refine .inr ⟨2 ^ whole.log2, ?_, Nat.log2_self_le nonzero, Nat.pow_dvd_pow 2 (by omega)⟩
      exact Nat.lt_log2_self.trans_le (Nat.pow_le_pow_right (by decide) (by omega))

/-- Of the multiples of a distance, one within half of it is the nearest. -/
theorem nearest_multiple {step multiple other : Nat} {place : ℚ} (divides : step ∣ multiple)
    (otherDivides : step ∣ other) (near : |(multiple : ℚ) - place| ≤ step / 2) :
    |(multiple : ℚ) - place| ≤ |(other : ℚ) - place| := by
  by_cases same : other = multiple
  · rw [same]
  · have apart : (step : ℤ) ≤ |(other : ℤ) - multiple| := by
      have difference : (step : ℤ) ∣ |(other : ℤ) - multiple| :=
        (dvd_abs _ _).mpr (dvd_sub (Int.natCast_dvd_natCast.mpr otherDivides)
          (Int.natCast_dvd_natCast.mpr divides))
      exact Int.le_of_dvd (abs_pos.mpr (sub_ne_zero.mpr (by exact_mod_cast same))) difference
    have apartCast : (step : ℚ) ≤ |(other : ℚ) - multiple| := by exact_mod_cast apart
    have triangle :
        |(other : ℚ) - multiple| ≤ |(other : ℚ) - place| + |(multiple : ℚ) - place| := by
      rw [abs_sub_comm (multiple : ℚ)]
      exact abs_sub_le _ _ _
    linarith

/-- No magnitude that a value can have is nearer to a number than the rounded one. The limit
plays no part in this. -/
theorem unitsNear_nearest (number : ℚ) {units : Nat} (exact : spacing units ∣ units) :
    |(unitsNear number : ℚ) - |number| * one| ≤ |(units : ℚ) - |number| * one| := by
  obtain ⟨divides, near⟩ := @roundedUnits_near (number.num.natAbs * one) _ number.den_pos
  have whole : (((number.num.natAbs * one) / number.den : ℕ) : ℚ) ≤ |number| * one := by
    rw [← unitsNear_quotient]
    exact Nat.cast_div_le
  rw [unitsNear_quotient] at near
  change |(unitsNear number : ℚ) - |number| * one| ≤ _ at near
  generalize |number| * (one : ℚ) = place at near whole ⊢
  rcases @spacing_dvd_or (number.num.natAbs * one / number.den) _ exact with
    multiple | ⟨base, below, reached, baseDivides⟩
  · exact nearest_multiple divides multiple near
  · -- Between the magnitude and the number there is a multiple of the distance.
    have belowCast : (units : ℚ) ≤ base := by exact_mod_cast below.le
    have reachedCast : (base : ℚ) ≤ place := le_trans (by exact_mod_cast reached) whole
    refine (nearest_multiple divides baseDivides near).trans ?_
    rw [abs_of_nonpos (by linarith), abs_of_nonpos (by linarith)]
    linarith

/-- What a quotient is rounded to is a multiple of its own distance, which is no smaller than
that at the quotient. -/
theorem roundedUnits_spacing {numerator denominator : Nat} (positive : 0 < denominator) :
    spacing (roundedUnits numerator denominator) ∣ roundedUnits numerator denominator ∧
      spacing (numerator / denominator) ≤ spacing (roundedUnits numerator denominator) := by
  have exact : spacing (roundedUnits numerator denominator) ∣ roundedUnits numerator denominator :=
    spacing_dvd_mul (rounded_le positive)
  refine ⟨exact, ?_⟩
  obtain ⟨divides, near⟩ := @roundedUnits_near numerator _ positive
  by_cases order : (numerator / denominator).log2 ≤ (roundedUnits numerator denominator).log2
  · exact Nat.pow_le_pow_right (by decide) (by omega)
  · -- Below the power of two that the quotient reaches, a multiple is a whole distance away.
    have nonzero : numerator / denominator ≠ 0 := by
      intro zero
      simp [zero] at order
    have below : roundedUnits numerator denominator < 2 ^ (numerator / denominator).log2 :=
      Nat.lt_log2_self.trans_le (Nat.pow_le_pow_right (by decide) (by omega))
    have power : spacing (numerator / denominator) ∣ 2 ^ (numerator / denominator).log2 :=
      Nat.pow_dvd_pow 2 (by omega)
    have gap := Nat.le_of_dvd (by omega) (Nat.dvd_sub power divides)
    have reached := Nat.log2_self_le nonzero
    have apart : roundedUnits numerator denominator + spacing (numerator / denominator) ≤
        numerator / denominator := by omega
    have apartCast : (roundedUnits numerator denominator : ℚ) + spacing (numerator / denominator) ≤
        numerator / denominator := le_trans (by exact_mod_cast apart) Nat.cast_div_le
    have stepPositive : (0 : ℚ) < spacing (numerator / denominator) :=
      Nat.cast_pos.mpr (spacing_pos _)
    have lower := (abs_le.mp near).1
    linarith

/-- The units near a number are a multiple of their distance. -/
theorem spacing_dvd_unitsNear (number : ℚ) : spacing (unitsNear number) ∣ unitsNear number :=
  (roundedUnits_spacing number.den_pos).1

/-- A number lies within half of the distance at the value nearest to it. -/
theorem unitsNear_within (number : ℚ) :
    |(unitsNear number : ℚ) - |number| * one| ≤ spacing (unitsNear number) / 2 := by
  obtain ⟨-, near⟩ := @roundedUnits_near (number.num.natAbs * one) _ number.den_pos
  obtain ⟨-, grows⟩ := @roundedUnits_spacing (number.num.natAbs * one) _ number.den_pos
  have growsCast : (spacing (number.num.natAbs * one / number.den) : ℚ) ≤
      spacing (unitsNear number) := by exact_mod_cast grows
  rw [unitsNear_quotient] at near
  refine near.trans ?_
  linarith

/-- A number that is a magnitude of a value is its own rounding. -/
theorem unitsNear_of_exact {number : ℚ} {units : Nat} (exact : spacing units ∣ units)
    (same : |number| * one = units) : unitsNear number = units := by
  have near := unitsNear_nearest number exact
  rw [same, sub_self, abs_zero] at near
  have equal := sub_eq_zero.mp (abs_nonpos_iff.mp near)
  exact_mod_cast equal

/-- Near zero there are no units. -/
theorem unitsNear_zero : unitsNear 0 = 0 :=
  unitsNear_of_exact (Nat.dvd_zero _) (by rw [abs_zero, zero_mul, Nat.cast_zero])

/-- The sign does not take part in the rounding. -/
theorem unitsNear_abs (number : ℚ) : unitsNear |number| = unitsNear number := by
  apply roundedUnits_eq (Rat.den_pos _)
  rw [unitsNear_quotient, abs_abs]

/-- Rounding at most doubles a number. -/
theorem unitsNear_le (number : ℚ) : (unitsNear number : ℚ) ≤ 2 * (|number| * one) := by
  have near := unitsNear_nearest number (Nat.dvd_zero (spacing 0))
  have nonnegative : 0 ≤ |number| * (one : ℚ) := mul_nonneg (abs_nonneg _) (Nat.cast_nonneg _)
  rw [Nat.cast_zero, zero_sub, abs_neg, abs_of_nonneg nonnegative] at near
  have upper := (abs_le.mp near).2
  linarith

/-- Between two numbers that are rounded to the same value there is no other value. -/
theorem unitsNear_between {low high : ℚ} {units : Nat} (exact : spacing units ∣ units)
    (above : |low| * one ≤ units) (below : units ≤ |high| * one)
    (same : unitsNear low = unitsNear high) : unitsNear low = units := by
  have nearLow := unitsNear_nearest low exact
  have nearHigh := unitsNear_nearest high exact
  rw [← same] at nearHigh
  rw [abs_of_nonneg (sub_nonneg.mpr above)] at nearLow
  rw [abs_of_nonpos (sub_nonpos.mpr below)] at nearHigh
  have upper := (abs_le.mp nearLow).2
  have lower := (abs_le.mp nearHigh).1
  have equal : (unitsNear low : ℚ) = units := by linarith
  exact_mod_cast equal

/-- A number that does not exceed a finite value is rounded to a finite one. -/
theorem representable_unitsNear {number : ℚ} {bound : Nat} (representable : Representable bound)
    (below : |number| * one ≤ bound) : Representable (unitsNear number) := by
  have near := unitsNear_nearest number representable.2
  rw [abs_of_nonneg (sub_nonneg.mpr below)] at near
  have upper := (abs_le.mp near).2
  have cast : (unitsNear number : ℚ) ≤ bound := by linarith
  have bounded : unitsNear number ≤ bound := by exact_mod_cast cast
  exact ⟨bounded.trans_lt representable.1, spacing_dvd_unitsNear number⟩

/-- Another magnitude that a value can have is at least one distance away, unless the magnitude
is a power of two. -/
theorem eq_two_pow_of_near {units other : Nat} (exact : spacing units ∣ units)
    (otherExact : spacing other ∣ other) (different : other ≠ units)
    (near : |(other : ℤ) - units| < spacing units) : units = 2 ^ units.log2 := by
  by_cases order : units.log2 ≤ other.log2
  · have divides : spacing units ∣ other := (Nat.pow_dvd_pow 2 (by omega)).trans otherExact
    have difference : (spacing units : ℤ) ∣ (other : ℤ) - units :=
      dvd_sub (Int.natCast_dvd_natCast.mpr divides) (Int.natCast_dvd_natCast.mpr exact)
    have vanishes := Int.eq_zero_of_abs_lt_dvd difference near
    omega
  · have nonzero : units ≠ 0 := by
      rintro rfl
      simp at order
    have below : other < 2 ^ units.log2 :=
      Nat.lt_log2_self.trans_le (Nat.pow_le_pow_right (by decide) (by omega))
    have reached : 2 ^ units.log2 ≤ units := Nat.log2_self_le nonzero
    have power : spacing units ∣ 2 ^ units.log2 := Nat.pow_dvd_pow 2 (by omega)
    have gap := Nat.dvd_sub exact power
    have close := abs_lt.mp near
    have vanishes := Nat.eq_zero_of_dvd_of_lt gap (by omega)
    omega

/-- A magnitude with its sign is the same value only if both are the same. -/
theorem ofUnits_inj {negative sign : Bool} {units other : Nat}
    (representable : Representable units) (same : ofUnits sign other = ofUnits negative units) :
    sign = negative ∧ other = units := by
  unfold ofUnits at same
  rw [dif_pos representable] at same
  split at same
  · obtain ⟨sameSign, sameUnits⟩ := finite.inj same
    exact ⟨sameSign, sameUnits⟩
  · cases same

/-- A decimal is read as the value nearest to what it denotes. -/
theorem ofDecimal_eq_ofUnits {negative : Bool} {digits : Nat} {exponent : Int}
    (small : exponent ≤ 400) (large : -400 ≤ exponent) :
    ofDecimal negative digits exponent =
      ofUnits negative (unitsNear (Scientific.toRat ⟨digits, exponent⟩)) := by
  by_cases zero : digits = 0
  · rw [ofDecimal, if_pos zero, zero, Scientific.toRat, Nat.cast_zero, zero_mul, unitsNear_zero]
  · rw [Scientific.ofDecimal_eq_ofRatio zero small large]
    refine congrArg (ofUnits negative) (roundedUnits_eq (Nat.pow_pos (by decide)) ?_)
    rw [abs_of_nonneg (Scientific.toRat_nonneg _), Scientific.toRat_eq, Scientific.denominatorAt]
    dsimp only
    generalize one = whole
    push_cast
    ring

/-- A number of hundredths is the value nearest to it. -/
theorem ofHundredths_eq_ofUnits (count : ℤ) :
    ofHundredths count = ofUnits (decide (count < 0)) (unitsNear (count / 100)) := by
  have magnitude : Scientific.toRat ⟨count.natAbs, -2⟩ = |(count / 100 : ℚ)| := by
    rw [Scientific.toRat, abs_div, Nat.cast_natAbs, Int.cast_abs]
    norm_num [div_eq_mul_inv]
  rw [ofHundredths, ofDecimal_eq_ofUnits (by decide) (by decide), magnitude, unitsNear_abs]

end Binary64

/-- A decimal reads as a magnitude exactly if the magnitude is the nearest one to it. -/
theorem Scientific.reads_iff {units : Nat} (representable : Binary64.Representable units)
    {decimal : Scientific} (small : decimal.exponent ≤ 400) (large : -400 ≤ decimal.exponent) :
    reads units decimal = true ↔ Binary64.unitsNear decimal.toRat = units := by
  rw [reads, beq_iff_eq, Binary64.ofDecimal_eq_ofUnits small large]
  constructor
  · intro same
    exact (Binary64.ofUnits_inj representable same).2
  · intro nearest
    rw [← nearest]

end CampusQuery
