import Mathlib.Algebra.Order.Field.Power
import Mathlib.Data.Rat.Cast.Order
import Mathlib.Tactic.FieldSimp
import Mathlib.Tactic.Linarith
import Mathlib.Tactic.NormNum
import CampusQuery.Proofs.Finiteness

/-!
# Seventeen digits suffice

The shortest decimal of a finite value is searched for with up to seventeen digits, and the
search never fails. A power of ten that is sixteen orders below a magnitude is so small that
the nearest decimal with its exponent differs from the magnitude by at most one part in twenty
quadrillions. A quotient that close to a magnitude is rounded to it, also where the magnitude is
a power of two and the distance below it is only half of that above. So the decimal reads back,
and the exact expansion of a value is never written.
-/

namespace CampusQuery

/-- A quotient lies within half of its rounding. -/
theorem roundQuotient_near (tie : Tie) {numerator denominator : Nat} (positive : 0 < denominator) :
    2 * numerator ≤ 2 * (denominator * roundQuotient tie numerator denominator) + denominator ∧
      2 * (denominator * roundQuotient tie numerator denominator) ≤
        2 * numerator + denominator := by
  have divided := Nat.div_add_mod numerator denominator
  have rest := Nat.mod_lt numerator positive
  have next := Nat.mul_add_one denominator (numerator / denominator)
  unfold roundQuotient
  dsimp only
  split
  · omega
  · split
    · omega
    · cases tie with
      | away =>
        dsimp only
        omega
      | toEven =>
        dsimp only
        split <;> omega

/-- A quotient within less than half of a whole number is rounded to it. -/
theorem roundQuotient_of_near {tie : Tie} {numerator denominator whole : Nat}
    (below : 2 * numerator < 2 * (denominator * whole) + denominator)
    (above : 2 * (denominator * whole) < 2 * numerator + denominator) :
    roundQuotient tie numerator denominator = whole := by
  have positive : 0 < denominator := by
    by_contra zero
    have vanishes : denominator = 0 := by omega
    subst vanishes
    omega
  obtain ⟨lower, upper⟩ := @roundQuotient_near tie numerator _ positive
  generalize roundQuotient tie numerator denominator = rounded at lower upper
  apply Nat.le_antisymm
  · apply Nat.le_of_lt_succ
    apply Nat.lt_of_mul_lt_mul_left (a := denominator)
    rw [Nat.mul_succ]
    omega
  · apply Nat.le_of_lt_succ
    apply Nat.lt_of_mul_lt_mul_left (a := denominator)
    rw [Nat.mul_succ]
    omega

namespace Binary64

variable {negative : Bool} {numerator denominator units : Nat}

/-- The numerator over the denominator differs from a magnitude by at most one part in
twenty quadrillions. -/
structure Close (numerator denominator units : Nat) : Prop where
  below : 2 * 10 ^ 16 * numerator ≤ (2 * 10 ^ 16 + 1) * (denominator * units)
  above : 2 * 10 ^ 16 * (denominator * units) ≤ 2 * 10 ^ 16 * numerator + denominator * units

/-- A quotient close to a magnitude is rounded to it if the distance at the quotient is not too
small for the magnitude, and divides it. -/
theorem Close.rounds (close : Close numerator denominator units) (positive : 0 < denominator)
    (nonzero : units ≠ 0)
    (divides : spacing (numerator / denominator) ∣ units)
    (large : units ≤ 2 ^ 53 * spacing (numerator / denominator)) :
    ofRatio negative numerator denominator = ofUnits negative units := by
  obtain ⟨below, above⟩ := close
  obtain ⟨multiple, exact⟩ := divides
  have size := Nat.mul_le_mul_left denominator large
  have magnitude : 0 < denominator * units := Nat.mul_pos positive (Nat.pos_of_ne_zero nonzero)
  unfold ofRatio
  dsimp only
  generalize spacing (numerator / denominator) = step at exact size ⊢
  have whole : denominator * step * multiple = denominator * units := by
    rw [Nat.mul_assoc, ← exact]
  have scaled : denominator * (2 ^ 53 * step) = 2 ^ 53 * (denominator * step) :=
    Nat.mul_left_comm _ _ _
  rw [scaled] at size
  have rounded : roundQuotient .toEven numerator (denominator * step) = multiple := by
    apply roundQuotient_of_near
    · rw [whole]
      omega
    · rw [whole]
      omega
  rw [rounded, Nat.mul_comm, ← exact]

/-- Between a magnitude and the next power of two there is room for one distance. -/
theorem Representable.add_spacing_le (representable : Representable units) :
    units + spacing units ≤ 2 ^ (units.log2 + 1) := by
  have upper : units < 2 ^ (units.log2 + 1) := Nat.lt_log2_self
  have power : spacing units ∣ 2 ^ (units.log2 + 1) := Nat.pow_dvd_pow 2 (by omega)
  have gap : spacing units ∣ 2 ^ (units.log2 + 1) - units := Nat.dvd_sub power representable.2
  have least := Nat.le_of_dvd (by omega) gap
  omega

/-- A magnitude is less than 2^53 times the distance to the next one. -/
theorem lt_spacing (units : Nat) : units < 2 ^ 53 * spacing units := by
  calc units < 2 ^ (units.log2 + 1) := Nat.lt_log2_self
    _ ≤ 2 ^ (53 + (units.log2 - 52)) := Nat.pow_le_pow_right (by decide) (by omega)
    _ = 2 ^ 53 * spacing units := Nat.pow_add 2 53 _

/-- The distance at a quotient close to a magnitude is the distance at the magnitude, unless
the quotient lies below a power of two that is the magnitude. -/
theorem Close.spacing_cases (close : Close numerator denominator units)
    (positive : 0 < denominator) (representable : Representable units) (nonzero : units ≠ 0) :
    spacing (numerator / denominator) = spacing units ∨
      units = 2 ^ 53 * spacing (numerator / denominator) := by
  obtain ⟨below, above⟩ := close
  have lower : 2 ^ units.log2 ≤ units := Nat.log2_self_le nonzero
  have size := Nat.mul_lt_mul_of_pos_left (lt_spacing units) positive
  rw [Nat.mul_left_comm] at size
  by_cases reached : 2 ^ units.log2 ≤ numerator / denominator
  · left
    have quotientLt : numerator / denominator < 2 ^ (units.log2 + 1) := by
      rw [Nat.div_lt_iff_lt_mul positive, Nat.mul_comm]
      have room := Nat.mul_le_mul_left denominator representable.add_spacing_le
      rw [Nat.mul_add] at room
      omega
    have quotientNonzero : numerator / denominator ≠ 0 :=
      (Nat.lt_of_lt_of_le (Nat.two_pow_pos _) reached).ne'
    rw [spacing, (Nat.log2_eq_iff quotientNonzero).mpr ⟨reached, quotientLt⟩, spacing]
  · have less : numerator / denominator < 2 ^ units.log2 := Nat.lt_of_not_le reached
    by_cases order : units.log2 ≤ 52
    · left
      have single : spacing units = 1 := by
        rw [spacing, Nat.sub_eq_zero_of_le order]
      have divides := spacing_dvd (less.le.trans lower)
      rw [single] at divides ⊢
      exact Nat.dvd_one.mp divides
    · right
      rw [Nat.div_lt_iff_lt_mul positive, Nat.mul_comm] at less
      -- There is no multiple of the distance between the quotient and the power but the power.
      have exact : units = 2 ^ units.log2 := by
        have power : spacing units ∣ 2 ^ units.log2 := Nat.pow_dvd_pow 2 (by omega)
        have gap : spacing units ∣ units - 2 ^ units.log2 := Nat.dvd_sub representable.2 power
        have within : units < 2 ^ units.log2 + spacing units := by
          apply Nat.lt_of_mul_lt_mul_left (a := denominator)
          rw [Nat.mul_add]
          omega
        have closed := Nat.eq_zero_of_dvd_of_lt gap (by omega)
        omega
      obtain ⟨order, ordered⟩ : ∃ order, units.log2 = order + 53 := ⟨units.log2 - 53, by omega⟩
      rw [ordered] at exact less
      have half : 2 ^ (order + 52) ≤ numerator / denominator := by
        rw [Nat.le_div_iff_mul_le positive, Nat.mul_comm]
        have double : denominator * 2 ^ (order + 53) = 2 * (denominator * 2 ^ (order + 52)) := by
          rw [Nat.pow_succ, Nat.mul_comm _ 2, Nat.mul_left_comm]
        rw [exact] at above
        omega
      have quotientNonzero : numerator / denominator ≠ 0 :=
        (Nat.lt_of_lt_of_le (Nat.two_pow_pos _) half).ne'
      have quotientLt : numerator / denominator < 2 ^ (order + 52 + 1) := by
        rw [Nat.div_lt_iff_lt_mul positive, Nat.mul_comm]
        exact less
      have step : spacing (numerator / denominator) = 2 ^ order := by
        rw [spacing, (Nat.log2_eq_iff quotientNonzero).mpr ⟨half, quotientLt⟩, Nat.add_sub_cancel]
        rfl
      rw [step, ← Nat.pow_add, Nat.add_comm]
      exact exact

/-- A quotient close to a magnitude that a finite value can have is rounded to it. -/
theorem Close.ofRatio_eq (close : Close numerator denominator units) (positive : 0 < denominator)
    (representable : Representable units) (nonzero : units ≠ 0) :
    ofRatio negative numerator denominator = ofUnits negative units := by
  rcases close.spacing_cases positive representable nonzero with same | power
  · apply close.rounds positive nonzero
    · rw [same]
      exact representable.2
    · rw [same]
      exact (lt_spacing units).le
  · exact close.rounds positive nonzero ⟨2 ^ 53, power.trans (Nat.mul_comm _ _)⟩ power.le

end Binary64

namespace Scientific

open Binary64

variable {units : Nat} {tie : Tie} {exponent : Int}

/-- The number that a decimal denotes. -/
def toRat (decimal : Scientific) : ℚ := decimal.digits * 10 ^ decimal.exponent

/-- A decimal with an exponent has no sign. -/
theorem toRat_nonneg (decimal : Scientific) : 0 ≤ decimal.toRat := by
  unfold toRat
  positivity

/-- The digits of a natural that is not zero place it between two powers of ten. -/
theorem decimalLength_bounds {value : Nat} (nonzero : value ≠ 0) :
    ∃ more, decimalLength value = more + 1 ∧ 10 ^ more ≤ value ∧ value < 10 ^ (more + 1) := by
  have positive : 0 < decimalLength value := Nat.length_toDigits_pos
  have fits (length : Nat) (given : 0 < length) :
      decimalLength value ≤ length ↔ value < 10 ^ length :=
    Nat.length_toDigits_le_iff (by decide) given
  refine ⟨decimalLength value - 1, by omega, ?_, ?_⟩
  · by_cases single : decimalLength value = 1
    · rw [single]
      exact Nat.pos_of_ne_zero nonzero
    · have beyond := (fits (decimalLength value - 1) (by omega)).not.mp (by omega)
      omega
  · rw [Nat.sub_add_cancel positive]
    exact (fits _ positive).mp le_rfl

/-- A power of ten with any exponent is a quotient of two with natural ones. -/
theorem ten_zpow (exponent : Int) :
    (10 : ℚ) ^ exponent = 10 ^ exponent.toNat / 10 ^ (-exponent).toNat := by
  rcases le_total 0 exponent with above | below
  · obtain ⟨places, rfl⟩ := Int.eq_ofNat_of_zero_le above
    simp
  · obtain ⟨places, rfl⟩ : ∃ places : ℕ, exponent = -places := ⟨(-exponent).toNat, by omega⟩
    simp

/-- Whether a quotient reaches a negative power of ten is a comparison of naturals. -/
theorem zpow_neg_le_div_iff {whole : Nat} (positive : 0 < whole) (places : Nat) :
    (10 : ℚ) ^ (-(places : ℤ)) ≤ units / whole ↔ whole ≤ 10 ^ places * units := by
  have wholePositive : (0 : ℚ) < whole := Nat.cast_pos.mpr positive
  rw [zpow_neg, zpow_natCast, ← one_div, div_le_div_iff₀ (by positivity) wholePositive, one_mul,
    mul_comm]
  exact_mod_cast Iff.rfl

/-- Whether a quotient does not exceed a negative power of ten is a comparison of naturals. -/
theorem div_le_zpow_neg_iff {whole : Nat} (positive : 0 < whole) (places : Nat) :
    (units / whole : ℚ) ≤ 10 ^ (-(places : ℤ)) ↔ 10 ^ places * units ≤ whole := by
  have wholePositive : (0 : ℚ) < whole := Nat.cast_pos.mpr positive
  rw [zpow_neg, zpow_natCast, ← one_div, div_le_div_iff₀ wholePositive (by positivity), one_mul,
    mul_comm]
  exact_mod_cast Iff.rfl

/-- From one on, the ceiling exponent counts the digits before the point. -/
theorem ceilingExponent_bounds_of_le (large : one ≤ units) :
    (10 : ℚ) ^ (ceilingExponent units - 1) ≤ units / one ∧
      (units / one : ℚ) < 10 ^ ceilingExponent units := by
  have onePositive := Binary64.one_pos
  unfold ceilingExponent
  generalize one = whole at large onePositive ⊢
  have positive : (0 : ℚ) < whole := Nat.cast_pos.mpr onePositive
  obtain ⟨more, length, lower, upper⟩ :=
    decimalLength_bounds (Nat.div_pos large onePositive).ne'
  rw [if_pos large, length]
  rw [Nat.le_div_iff_mul_le onePositive] at lower
  rw [Nat.div_lt_iff_lt_mul onePositive] at upper
  rw [Nat.cast_succ, add_sub_cancel_right, ← Nat.cast_succ, zpow_natCast, zpow_natCast,
    le_div_iff₀ positive, div_lt_iff₀ positive]
  exact ⟨by exact_mod_cast lower, by exact_mod_cast upper⟩

/-- Below one it counts the zeros after the point, unless the magnitude is a power of ten. -/
theorem ceilingExponent_bounds_of_lt (nonzero : units ≠ 0) (small : units < one) :
    (10 : ℚ) ^ (ceilingExponent units - 1) ≤ units / one ∧
      (units / one : ℚ) < 10 ^ ceilingExponent units := by
  have unitsPositive := Nat.pos_of_ne_zero nonzero
  have onePositive := Binary64.one_pos
  unfold ceilingExponent
  generalize one = whole at small onePositive ⊢
  obtain ⟨more, length, lower, upper⟩ :=
    decimalLength_bounds (Nat.div_pos small.le unitsPositive).ne'
  rw [Nat.le_div_iff_mul_le unitsPositive, ← div_le_zpow_neg_iff onePositive] at lower
  rw [Nat.div_lt_iff_lt_mul unitsPositive, ← not_le, ← div_le_zpow_neg_iff onePositive,
    not_le] at upper
  rw [if_neg (Nat.not_le_of_lt small), length]
  dsimp only
  rw [Nat.add_sub_cancel]
  split
  · rename_i reached
    have top : 2 - ((more + 1 : Nat) : ℤ) = -(more : ℤ) + 1 := by omega
    rw [top, add_sub_cancel_right]
    refine ⟨(zpow_neg_le_div_iff onePositive more).mpr reached, lower.trans_lt ?_⟩
    exact zpow_lt_zpow_right₀ (by norm_num) (by omega)
  · rename_i missed
    have top : 1 - ((more + 1 : Nat) : ℤ) = -(more : ℤ) := by omega
    have next : -(more : ℤ) - 1 = -((more + 1 : Nat) : ℤ) := by omega
    rw [top, next]
    refine ⟨upper.le, not_le.mp fun above => missed ?_⟩
    exact (zpow_neg_le_div_iff onePositive more).mp above

/-- The ceiling exponent of a magnitude is that of the first power of ten that exceeds it. -/
theorem ceilingExponent_bounds (nonzero : units ≠ 0) :
    (10 : ℚ) ^ (ceilingExponent units - 1) ≤ units / one ∧
      (units / one : ℚ) < 10 ^ ceilingExponent units := by
  rcases Nat.lt_or_ge units one with small | large
  · exact ceilingExponent_bounds_of_lt nonzero small
  · exact ceilingExponent_bounds_of_le large

/-- A magnitude in powers of ten with an exponent is a quotient of these two naturals. -/
def numeratorAt (units : Nat) (exponent : Int) : Nat := units * Nat.pow 10 (-exponent).toNat

/-- The denominator of a magnitude, counted in powers of ten with the exponent. -/
def denominatorAt (exponent : Int) : Nat := one * Nat.pow 10 exponent.toNat

/-- It is positive. -/
theorem denominatorAt_pos (exponent : Int) : 0 < denominatorAt exponent := by
  unfold denominatorAt
  exact Nat.mul_pos Binary64.one_pos (Nat.pow_pos (by decide))

/-- Together with the numerator it gives the magnitude in these powers. -/
theorem quotientAt_eq (units : Nat) (exponent : Int) :
    (numeratorAt units exponent : ℚ) / denominatorAt exponent = units / one / 10 ^ exponent := by
  unfold numeratorAt denominatorAt
  generalize one = whole
  rw [ten_zpow, Nat.cast_mul, Nat.cast_mul, show Nat.pow 10 = (10 ^ ·) from rfl]
  push_cast
  field_simp

/-- At so many places below its ceiling a magnitude has as many digits. -/
theorem quotientAt_bounds (nonzero : units ≠ 0) (more : Nat)
    (below : ceilingExponent units - (more + 1 : Nat) = exponent) :
    10 ^ more * denominatorAt exponent ≤ numeratorAt units exponent ∧
      numeratorAt units exponent < 10 ^ (more + 1) * denominatorAt exponent := by
  obtain ⟨lower, upper⟩ := ceilingExponent_bounds nonzero
  have quotient := quotientAt_eq units exponent
  have positive : (0 : ℚ) < denominatorAt exponent := Nat.cast_pos.mpr (denominatorAt_pos exponent)
  have power : (0 : ℚ) < 10 ^ exponent := by positivity
  rw [show ceilingExponent units - 1 = more + exponent by omega, zpow_add₀ (by norm_num),
    zpow_natCast, ← le_div_iff₀ power, ← quotient, le_div_iff₀ positive] at lower
  rw [show ceilingExponent units = (more + 1 : Nat) + exponent by omega, zpow_add₀ (by norm_num),
    zpow_natCast, ← div_lt_iff₀ power, ← quotient, div_lt_iff₀ positive] at upper
  exact ⟨by exact_mod_cast lower, by exact_mod_cast upper⟩

/-- A power of two with up to three times the exponent does not exceed a power of ten. -/
theorem two_pow_le_ten_pow {bits places : Nat} (few : bits ≤ 3 * places) : 2 ^ bits ≤ 10 ^ places :=
  calc 2 ^ bits ≤ 2 ^ (3 * places) := Nat.pow_le_pow_right (by decide) few
    _ = 8 ^ places := Nat.pow_mul 2 3 places
    _ ≤ 10 ^ places := Nat.pow_le_pow_left (by decide) places

/-- The exponent at which the search starts is not too small. -/
theorem lt_ceilingExponent {places : Nat} (few : one ≤ 10 ^ places) (nonzero : units ≠ 0) :
    -(places : ℤ) < ceilingExponent units := by
  have bounded : one ≤ 10 ^ places * units :=
    few.trans (Nat.le_mul_of_pos_right _ (Nat.pos_of_ne_zero nonzero))
  have power : (10 : ℚ) ^ (-(places : ℤ)) < 10 ^ ceilingExponent units :=
    ((zpow_neg_le_div_iff Binary64.one_pos places).mpr bounded).trans_lt
      (ceilingExponent_bounds nonzero).2
  exact (zpow_lt_zpow_iff_right₀ (by norm_num)).mp power

/-- The exponent at which the search starts is not too large. -/
theorem ceilingExponent_le {places : Nat} (few : limit ≤ 10 ^ places * one)
    (representable : Representable units) (nonzero : units ≠ 0) :
    ceilingExponent units ≤ places := by
  have onePositive : (0 : ℚ) < one := Nat.cast_pos.mpr Binary64.one_pos
  have bounded : units < 10 ^ places * one := representable.1.trans_le few
  have power : (10 : ℚ) ^ (ceilingExponent units - 1) < 10 ^ (places : ℤ) := by
    refine lt_of_le_of_lt (ceilingExponent_bounds nonzero).1 ?_
    rw [zpow_natCast, div_lt_iff₀ onePositive]
    exact_mod_cast bounded
  have order := (zpow_lt_zpow_iff_right₀ (by norm_num)).mp power
  omega

/-- One has no more than 10^358 units. -/
theorem one_le_ten_pow : one ≤ 10 ^ 358 := by
  have few : 1074 ≤ 3 * 358 := by decide
  unfold one
  generalize 1074 = bits at few ⊢
  generalize 358 = places at few ⊢
  exact two_pow_le_ten_pow few

/-- The limit does not exceed 10^342. -/
theorem limit_le_ten_pow : limit ≤ 10 ^ 342 * one := by
  have few : 1024 ≤ 3 * 342 := by decide
  have order : 2098 = 1024 + 1074 := by decide
  unfold limit one
  generalize 2098 = top at order ⊢
  generalize 1074 = bottom at order ⊢
  generalize 1024 = bits at order few
  generalize 342 = places at few ⊢
  rw [order]
  calc 2 ^ (bits + bottom) = 2 ^ bits * 2 ^ bottom := Nat.pow_add 2 bits bottom
    _ ≤ 10 ^ places * 2 ^ bottom := Nat.mul_le_mul_right _ (two_pow_le_ten_pow few)

/-- No magnitude of a finite value is so large or so small that its decimals are read without
computing the power. -/
theorem ceilingExponent_range (representable : Representable units) (nonzero : units ≠ 0) :
    -358 < ceilingExponent units ∧ ceilingExponent units ≤ 342 := by
  have above := lt_ceilingExponent one_le_ten_pow nonzero
  have below := ceilingExponent_le limit_le_ten_pow representable nonzero
  omega

/-- A decimal is read by rounding it, unless its exponent is out of bounds. -/
theorem ofDecimal_eq_ofRatio {negative : Bool} {digits : Nat}
    (nonzero : digits ≠ 0) (small : exponent ≤ 400) (large : -400 ≤ exponent) :
    ofDecimal negative digits exponent =
      ofRatio negative (digits * denominatorAt exponent) (Nat.pow 10 (-exponent).toNat) := by
  rw [ofDecimal, if_neg nonzero, if_neg (by omega), if_neg (by omega), denominatorAt,
    Nat.mul_assoc, Nat.mul_comm one]

/-- A decimal next to a magnitude reads as it where powers of ten with its exponent are
sixteen orders below the magnitude. -/
theorem reads_of_near (representable : Representable units) (nonzero : units ≠ 0) {digits : Nat}
    (small : exponent ≤ 400) (large : -400 ≤ exponent)
    (fine : 10 ^ 16 * denominatorAt exponent ≤ numeratorAt units exponent)
    (near : digits = roundQuotient tie (numeratorAt units exponent) (denominatorAt exponent)) :
    reads units ⟨digits, exponent⟩ = true := by
  have positive := denominatorAt_pos exponent
  obtain ⟨lower, upper⟩ := @roundQuotient_near tie (numeratorAt units exponent) _ positive
  rw [← near] at lower upper
  have someDigits : digits ≠ 0 := by
    rintro rfl
    omega
  have close : Close (digits * denominatorAt exponent) (Nat.pow 10 (-exponent).toNat) units := by
    have swapped : Nat.pow 10 (-exponent).toNat * units = numeratorAt units exponent :=
      Nat.mul_comm _ _
    rw [Nat.mul_comm (denominatorAt exponent)] at lower upper
    constructor
    · rw [swapped]
      omega
    · rw [swapped]
      omega
  have rounded : ofRatio false _ _ = ofUnits false units :=
    close.ofRatio_eq (Nat.pow_pos (by decide)) representable nonzero
  rw [reads, ofDecimal_eq_ofRatio someDigits small large, rounded]
  exact beq_self_eq_true _

/-- A decimal from a digit count has no more digits than the count. -/
theorem ofCount_digits_le (count : Nat) (exponent : Int) :
    (ofCount count exponent).digits ≤ count := by
  unfold ofCount
  split
  · rename_i ten
    rw [ten]
    exact (by decide : 1 ≤ 10)
  · exact le_rfl

/-- A neighbour that is found reads as the magnitude, and it counts the powers of ten that make
up the magnitude, or one more. -/
theorem neighbour?_spec {found : Scientific}
    (neighbour : neighbour? tie units exponent = some found) :
    reads units found = true ∧ ∃ count, found = ofCount count exponent ∧
      (count = numeratorAt units exponent / denominatorAt exponent ∨
        count = numeratorAt units exponent / denominatorAt exponent + 1) := by
  unfold neighbour? at neighbour
  dsimp only at neighbour
  split at neighbour
  · rename_i readsBelow readsAbove
    obtain rfl := Option.some.inj neighbour
    rcases roundQuotient_eq_or tie (numeratorAt units exponent) (denominatorAt exponent) with
      down | up
    · rw [numeratorAt, denominatorAt] at down
      rw [down]
      exact ⟨readsBelow, _, rfl, .inl rfl⟩
    · rw [numeratorAt, denominatorAt] at up
      rw [up]
      exact ⟨readsAbove, _, rfl, .inr rfl⟩
  · rename_i readsBelow _
    obtain rfl := Option.some.inj neighbour
    exact ⟨readsBelow, _, rfl, .inl rfl⟩
  · rename_i readsAbove
    obtain rfl := Option.some.inj neighbour
    exact ⟨readsAbove, _, rfl, .inr rfl⟩
  · cases neighbour

/-- A neighbour is found if the nearer one reads as the magnitude. -/
theorem neighbour?_isSome
    (nearer : reads units (ofCount
      (roundQuotient tie (numeratorAt units exponent) (denominatorAt exponent)) exponent) = true) :
    (neighbour? tie units exponent).isSome = true := by
  unfold neighbour?
  dsimp only
  split
  · rfl
  · rfl
  · rfl
  · rename_i unreadBelow unreadAbove
    rcases roundQuotient_eq_or tie (numeratorAt units exponent) (denominatorAt exponent) with
      down | up
    · rw [down] at nearer
      exact absurd nearer (by rw [numeratorAt, denominatorAt, unreadBelow]; decide)
    · rw [up] at nearer
      exact absurd nearer (by rw [numeratorAt, denominatorAt, unreadAbove]; decide)

/-- Seventeen digits suffice. -/
theorem neighbour?_seventeen (representable : Representable units) (nonzero : units ≠ 0) :
    (neighbour? tie units (ceilingExponent units - 17)).isSome = true := by
  obtain ⟨above, below⟩ := ceilingExponent_range representable nonzero
  obtain ⟨fine, -⟩ := quotientAt_bounds nonzero 16 (rfl : _ = ceilingExponent units - 17)
  apply neighbour?_isSome
  have many : 10 ^ 16 ≤ numeratorAt units (ceilingExponent units - 17) /
      denominatorAt (ceilingExponent units - 17) := by
    rw [Nat.le_div_iff_mul_le (denominatorAt_pos _)]
    exact fine
  have several := roundQuotient_eq_or tie (numeratorAt units (ceilingExponent units - 17))
    (denominatorAt (ceilingExponent units - 17))
  rw [ofCount, if_neg (by omega)]
  exact reads_of_near representable nonzero (by omega) (by omega) fine rfl

/-- The shortest decimal of a magnitude is found with the fewest digits for which there is a
neighbour. -/
theorem shortest_first (tie : Tie) (representable : Representable units) (nonzero : units ≠ 0) :
    ∃ more < 17,
      neighbour? tie units (ceilingExponent units - (more + 1 : Nat)) =
        some (shortest tie units) ∧
      ∀ fewer < more, neighbour? tie units (ceilingExponent units - (fewer + 1 : Nat)) = none := by
  obtain ⟨found, searched⟩ : ∃ found, (List.range' 1 17).findSome?
      (fun (count : Nat) => neighbour? tie units (ceilingExponent units - count)) =
        some found := by
    rw [← Option.isSome_iff_exists, List.findSome?_isSome_iff]
    exact ⟨17, by decide, neighbour?_seventeen representable nonzero⟩
  have spelled : shortest tie units = found := by
    rw [shortest, if_neg nonzero]
    dsimp only
    rw [searched, Option.getD_some]
  obtain ⟨before, count, after, split, here, nothing⟩ := List.findSome?_eq_some_iff.mp searched
  obtain ⟨more, within, rfl, rest⟩ := List.range'_eq_append_iff.mp split
  obtain ⟨position, nonempty, -⟩ := List.range'_eq_cons_iff.mp rest.symm
  rw [← position, Nat.mul_one, Nat.add_comm 1 more] at here
  refine ⟨more, by omega, spelled ▸ here, fun fewer earlier => ?_⟩
  have listed : fewer + 1 ∈ List.range' 1 more := List.mem_range'_1.mpr (by omega)
  exact nothing _ listed

/-- The shortest decimal of a magnitude reads as it, and has no more than seventeen digits. -/
theorem shortest_spec (tie : Tie) (representable : Representable units) :
    reads units (shortest tie units) = true ∧ (shortest tie units).digits ≤ 10 ^ 17 := by
  by_cases nonzero : units = 0
  · subst nonzero
    rw [shortest, if_pos rfl]
    refine ⟨?_, Nat.zero_le _⟩
    rw [reads, ofDecimal, if_pos rfl]
    exact beq_self_eq_true _
  · obtain ⟨more, few, neighbour, -⟩ := shortest_first tie representable nonzero
    obtain ⟨reading, count, spelled, placed⟩ := neighbour?_spec neighbour
    have below := (quotientAt_bounds nonzero more rfl).2
    rw [← Nat.div_lt_iff_lt_mul (denominatorAt_pos _)] at below
    refine ⟨reading, ?_⟩
    rw [spelled]
    refine (ofCount_digits_le _ _).trans ?_
    have most : 10 ^ (more + 1) ≤ 10 ^ 17 := Nat.pow_le_pow_right (by decide) (by omega)
    omega

end Scientific

end CampusQuery
