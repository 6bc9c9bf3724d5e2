import Mathlib.Data.Nat.Prime.Basic
import CampusQuery.Proofs.Nearest

/-!
# Half hundredths

A value and its shortest spelling are two numbers, of which the second only reads back as the
first. So rounding them to two places could give two results wherever a half of a hundredth
lies between them.

The spelling leaves room for that in one place only. Where it has at most two places, it is
its own rounding, and the value is rounded to hundredths that read back as the value too,
even if they are other ones. Where it has more, a half hundredth stands on the grid of its
last place, and between the value and its spelling this grid has nothing but the spelling.
So the two results differ exactly where the spelling is half a hundredth and the value lies
below it.
-/

namespace CampusQuery

/-- The hundredths to which a magnitude is rounded, ties going up. -/
def cents (number : ℚ) : Nat := (round (100 * |number|)).toNat

/-- A number with an odd number of half hundredths. -/
def IsHalfCent (number : ℚ) : Prop := ∃ count : Nat, number = (2 * count + 1) / 200

/-- A number with whole hundredths is not half a hundredth. -/
theorem not_isHalfCent {number : ℚ} {whole : Nat} (counted : 100 * number = whole) :
    ¬IsHalfCent number := by
  rintro ⟨count, half⟩
  have doubled : (2 * whole : ℚ) = 2 * count + 1 := by
    rw [← counted, half]
    ring
  have parity : 2 * whole = 2 * count + 1 := by exact_mod_cast doubled
  omega

/-- Whole numbers less than one apart are equal. -/
theorem natCast_eq_of_near {left right : Nat} (below : (left : ℚ) < right + 1)
    (above : (right : ℚ) < left + 1) : left = right := by
  have least : left < right + 1 := by exact_mod_cast below
  have most : right < left + 1 := by exact_mod_cast above
  omega

/-- The cents of a number are those of the library's rounding of its magnitude. -/
theorem cents_cast (number : ℚ) : (cents number : ℤ) = round (100 * |number|) := by
  have nonnegative : 0 ≤ 100 * |number| := mul_nonneg (by norm_num) (abs_nonneg _)
  apply Int.toNat_of_nonneg
  rw [round_eq]
  exact Int.floor_nonneg.mpr (by linarith)

/-- A magnitude lies within half a hundredth of its hundredths, and not at the upper end. -/
theorem cents_near (number : ℚ) :
    (cents number : ℚ) ≤ 100 * |number| + 1 / 2 ∧ 100 * |number| < cents number + 1 / 2 := by
  have rounded : (cents number : ℚ) = (⌊100 * |number| + 1 / 2⌋ : ℤ) := by
    rw [← round_eq, ← cents_cast, Int.cast_natCast]
  rw [rounded]
  refine ⟨Int.floor_le _, ?_⟩
  have upper := Int.lt_floor_add_one (100 * |number| + 1 / 2)
  linarith

/-- A number nearer to a count of cents than half a cent has that count. -/
theorem cents_eq_of_near {number : ℚ} {count : Nat} (lower : (count : ℚ) ≤ 100 * |number| + 1 / 2)
    (upper : 100 * |number| < count + 1 / 2) : cents number = count := by
  obtain ⟨least, most⟩ := cents_near number
  apply natCast_eq_of_near
  · linarith
  · linarith

/-- Whole hundredths are not rounded. -/
theorem cents_of_whole {number : ℚ} {count : Nat} (whole : 100 * |number| = count) :
    cents number = count :=
  cents_eq_of_near (by linarith) (by linarith)

/-- Rounding with ties away from zero is rounding the magnitude with ties up. -/
theorem nearestAway_eq (number : ℚ) :
    nearestAway (100 * number) = Decimal.signed (decide (number < 0)) (cents number) := by
  unfold nearestAway Decimal.signed
  rw [cents_cast]
  by_cases negative : number < 0
  · have below : 100 * number < 0 := by linarith
    rw [if_pos below, decide_eq_true negative, if_pos rfl, abs_of_neg negative, mul_neg]
  · have above : ¬100 * number < 0 := by linarith
    rw [if_neg above, decide_eq_false negative, if_neg Bool.false_ne_true,
      abs_of_nonneg (not_lt.mp negative)]

namespace Scientific

open Binary64

variable {units : Nat} {tie : Tie} {exponent : Int}

/-- A count of powers of ten is their number times the power. -/
theorem toRat_ofCount (count : Nat) (exponent : Int) :
    (ofCount count exponent).toRat = count * 10 ^ exponent := by
  unfold ofCount
  split
  · rename_i ten
    rw [toRat, ten, zpow_add_one₀ (by norm_num)]
    push_cast
    ring
  · rfl

/-- Its exponent is that of the power, or the next one after a carry. -/
theorem ofCount_exponent (count : Nat) (exponent : Int) :
    (ofCount count exponent).exponent = exponent ∨
      (ofCount count exponent).exponent = exponent + 1 := by
  unfold ofCount
  split
  · exact .inr rfl
  · exact .inl rfl

/-- A neighbour is found where both neighbours read as the magnitude. -/
theorem neighbour?_isSome_of_reads (representable : Representable units) (small : exponent < 400)
    (large : -400 ≤ exponent)
    (below : unitsNear ((numeratorAt units exponent / denominatorAt exponent : ℕ) * 10 ^ exponent) =
      units)
    (above : unitsNear
      ((numeratorAt units exponent / denominatorAt exponent + 1 : ℕ) * 10 ^ exponent) = units) :
    (neighbour? tie units exponent).isSome = true := by
  have reading {count : Nat} (nearest : unitsNear (count * 10 ^ exponent) = units) :
      reads units (ofCount count exponent) = true := by
    have placed := ofCount_exponent count exponent
    rw [reads_iff representable (by omega) (by omega), toRat_ofCount]
    exact nearest
  apply neighbour?_isSome
  rcases roundQuotient_eq_or tie (numeratorAt units exponent) (denominatorAt exponent) with
    down | up
  · rw [down]
    exact reading below
  · rw [up]
    exact reading above

/-- The count of powers of ten that make up a magnitude. -/
theorem count_bounds (units : Nat) (exponent : Int) :
    ((numeratorAt units exponent / denominatorAt exponent : ℕ) : ℚ) * 10 ^ exponent ≤ units / one ∧
      (units / one : ℚ) <
        ((numeratorAt units exponent / denominatorAt exponent : ℕ) + 1) * 10 ^ exponent := by
  have power : (0 : ℚ) < 10 ^ exponent := by positivity
  have positive := denominatorAt_pos exponent
  rw [← le_div_iff₀ power, ← div_lt_iff₀ power, ← quotientAt_eq]
  generalize numeratorAt units exponent = numerator
  generalize denominatorAt exponent = denominator at positive ⊢
  have next : numerator < denominator * (numerator / denominator + 1) :=
    Nat.lt_mul_div_succ _ positive
  refine ⟨Nat.cast_div_le, ?_⟩
  rw [div_lt_iff₀ (Nat.cast_pos.mpr positive), mul_comm]
  exact_mod_cast next

/-- The shortest spelling of a magnitude on the grid of its last place: a whole number of powers
of ten, less than one of them below the magnitude and at most one above it. No coarser grid has
a spelling of the magnitude. -/
structure OnGrid (units : Nat) (exponent : Int) (count : Nat) : Prop where
  denotes : (shortest .away units).toRat = count * 10 ^ exponent
  below : (units / one : ℚ) < (count + 1) * 10 ^ exponent
  above : (count - 1) * 10 ^ exponent ≤ (units / one : ℚ)
  large : -400 ≤ exponent
  reading : unitsNear (shortest .away units).toRat = units
  coarser : ∀ other, exponent < other → other < ceilingExponent units →
    neighbour? .away units other = none

/-- Every magnitude but zero is on some grid. -/
theorem exists_onGrid (representable : Representable units) (nonzero : units ≠ 0) :
    ∃ exponent count, OnGrid units exponent count := by
  obtain ⟨more, few, neighbour, first⟩ := shortest_first .away representable nonzero
  obtain ⟨low, high⟩ := ceilingExponent_range representable nonzero
  obtain ⟨read, count, spelled, placed⟩ := neighbour?_spec neighbour
  have exponents := ofCount_exponent count (ceilingExponent units - (more + 1 : Nat))
  obtain ⟨lower, upper⟩ := count_bounds units (ceilingExponent units - (more + 1 : Nat))
  rw [spelled, reads_iff representable (by omega) (by omega)] at read
  refine ⟨ceilingExponent units - (more + 1 : Nat), count, ?_, ?_, ?_, by omega, spelled ▸ read, ?_⟩
  · rw [spelled, toRat_ofCount]
  · refine upper.trans_le (mul_le_mul_of_nonneg_right ?_ (by positivity))
    rcases placed with rfl | rfl
    · exact le_rfl
    · push_cast
      linarith
  · refine le_trans (mul_le_mul_of_nonneg_right ?_ (by positivity)) lower
    rcases placed with rfl | rfl
    · linarith
    · push_cast
      linarith
  · intro other finer within
    obtain ⟨fewer, same⟩ : ∃ fewer : ℕ, other = ceilingExponent units - (fewer + 1 : Nat) :=
      ⟨(ceilingExponent units - 1 - other).toNat, by omega⟩
    rw [same]
    exact first fewer (by omega)

end Scientific

namespace Binary64

/-- What reads as a value that is not zero is not zero. -/
theorem ne_zero_of_reads {units count : Nat} (nonzero : units ≠ 0)
    (reading : unitsNear (count / 100) = units) : count ≠ 0 := by
  rintro rfl
  rw [Nat.cast_zero, zero_div, unitsNear_zero] at reading
  exact nonzero reading.symm

/-- A power of two is a whole number if the distance at it is at least a hundredth. -/
theorem one_dvd_two_pow {units : Nat} (power : units = 2 ^ units.log2)
    (coarse : one ≤ 100 * spacing units) : one ∣ units := by
  have order : 1074 ≤ units.log2 := by
    by_contra less
    have within : 7 + (units.log2 - 52) < 1074 := by omega
    have below : 100 * spacing units < one := by
      unfold spacing one
      generalize 1074 = places at within ⊢
      calc 100 * 2 ^ (units.log2 - 52) ≤ 2 ^ 7 * 2 ^ (units.log2 - 52) :=
            Nat.mul_le_mul_right _ (by decide)
        _ = 2 ^ (7 + (units.log2 - 52)) := (Nat.pow_add 2 _ _).symm
        _ < 2 ^ places := Nat.pow_lt_pow_right (by decide) within
    omega
  rw [power]
  unfold one
  generalize 1074 = places at order ⊢
  exact Nat.pow_dvd_pow 2 order

/-- The distance between two values is never exactly a hundredth. -/
theorem one_ne_hundred_spacing (units : Nat) : one ≠ 100 * spacing units := by
  unfold one spacing
  generalize 1074 = places
  intro same
  have five : 5 ∣ 2 ^ places := Dvd.intro (20 * 2 ^ (units.log2 - 52)) (by
    change 5 * (20 * 2 ^ (units.log2 - 52)) = Nat.pow 2 places
    rw [same, ← Nat.mul_assoc]
    rfl)
  have prime := Nat.Prime.dvd_of_dvd_pow Nat.prime_five five
  omega

/-- A value that is half a hundredth away from a number that reads as it is so large that the
distance to the next value is more than a hundredth. -/
theorem one_lt_of_far {units : Nat} {number written : ℚ} (inUnits : |number| * one = units)
    (reading : unitsNear written = units) (far : 1 / 200 ≤ |(|number| - |written|)|) :
    one < 100 * spacing units := by
  have unit : (0 : ℚ) < one := Nat.cast_pos.mpr one_pos
  have within := unitsNear_within written
  rw [reading, ← inUnits, ← sub_mul, abs_mul, abs_of_pos unit] at within
  have farUnits := mul_le_mul_of_nonneg_right far unit.le
  have coarse : (one : ℚ) ≤ 100 * spacing units := by linarith
  exact lt_of_le_of_ne (by exact_mod_cast coarse) (one_ne_hundred_spacing units)

/-- Hundredths that are no more than half a hundredth away from a value read as one that is no
more than a hundredth away. -/
theorem near_of_close {units count : Nat} (exact : spacing units ∣ units) {number : ℚ}
    (inUnits : |number| * one = units) (close : |(|number| - count / 100)| ≤ 1 / 200) :
    |(unitsNear (count / 100) : ℚ) - units| ≤ one / 100 := by
  have unit : (0 : ℚ) < one := Nat.cast_pos.mpr one_pos
  have magnitude : |(count / 100 : ℚ)| = count / 100 :=
    abs_of_nonneg (div_nonneg (Nat.cast_nonneg _) (by norm_num))
  have near := unitsNear_nearest (count / 100) exact
  have moved : |(units : ℚ) - count / 100 * one| ≤ 1 / 200 * one := by
    rw [← inUnits, ← sub_mul, abs_mul, abs_of_pos unit]
    exact mul_le_mul_of_nonneg_right close unit.le
  rw [magnitude] at near
  have triangle := abs_sub_le (unitsNear (count / 100) : ℚ) (count / 100 * one) units
  rw [abs_sub_comm (count / 100 * one : ℚ)] at triangle
  linarith

/-- Where this is another value, the value is a whole number. -/
theorem exists_whole {units other : Nat} (exact : spacing units ∣ units)
    (otherExact : spacing other ∣ other) (different : other ≠ units)
    (near : |(other : ℚ) - units| ≤ one / 100) (coarse : one < 100 * spacing units) :
    ∃ count : Nat, units = count * one := by
  have nearby : |(other : ℤ) - units| < spacing units := by
    have coarseCast : (one : ℚ) < 100 * spacing units := by exact_mod_cast coarse
    have cast : |(other : ℚ) - units| < spacing units := by linarith
    exact_mod_cast cast
  have power := eq_two_pow_of_near exact otherExact different nearby
  obtain ⟨count, whole⟩ := one_dvd_two_pow power coarse.le
  exact ⟨count, whole.trans (Nat.mul_comm _ _)⟩

/-- Whole values have exact hundredths. -/
theorem unitsNear_cents_of_whole {units count : Nat} (exact : spacing units ∣ units) {number : ℚ}
    (inUnits : |number| * one = units) (whole : units = count * one) :
    unitsNear (cents number / 100) = units := by
  have unit : (0 : ℚ) < one := Nat.cast_pos.mpr one_pos
  have magnitude : |number| = count := by
    rw [whole, Nat.cast_mul] at inUnits
    exact mul_right_cancel₀ unit.ne' inUnits
  have counts : cents number = 100 * count := cents_of_whole (by rw [magnitude]; push_cast; rfl)
  have restored : (cents number / 100 : ℚ) = |number| := by
    rw [counts, magnitude]
    push_cast
    exact mul_div_cancel_left₀ _ (by norm_num)
  rw [restored, unitsNear_abs]
  exact unitsNear_of_exact exact inUnits

/-- A value with a spelling of whole hundredths is rounded to hundredths that read back as it:
to those of the spelling, or to other ones where the values are so far apart that several
hundredths read as one. -/
theorem unitsNear_cents {units whole : Nat} (exact : spacing units ∣ units) {number written : ℚ}
    (inUnits : |number| * one = units) (reading : unitsNear written = units)
    (counted : 100 * |written| = whole) : unitsNear (cents number / 100) = units := by
  by_cases same : cents number = whole
  · have hundredths : (cents number / 100 : ℚ) = |written| := by
      rw [same, ← counted, mul_div_cancel_left₀ _ (by norm_num)]
    rw [hundredths, unitsNear_abs, reading]
  by_contra different
  obtain ⟨lower, upper⟩ := cents_near number
  have far : (1 : ℚ) ≤ |(cents number : ℚ) - whole| := by
    have apart : 1 ≤ |(cents number : ℤ) - whole| :=
      Int.one_le_abs (sub_ne_zero.mpr (by exact_mod_cast same))
    exact_mod_cast apart
  have apart : (1 / 200 : ℚ) ≤ |(|number| - |written|)| := by
    rcases le_abs.mp far with above | below
    · exact le_abs.mpr (.inl (by linarith))
    · exact le_abs.mpr (.inr (by linarith))
  have close : |(|number| - cents number / 100)| ≤ (1 / 200 : ℚ) :=
    abs_le.mpr ⟨by linarith, by linarith⟩
  obtain ⟨count, isWhole⟩ := exists_whole exact (spacing_dvd_unitsNear _) different
    (near_of_close exact inUnits close) (one_lt_of_far inUnits reading apart)
  exact different (unitsNear_cents_of_whole exact inUnits isWhole)

end Binary64

namespace Scientific

open Binary64

variable {units count : Nat} {exponent : Int}

/-- Half a hundredth stands on every grid of at least three places. -/
theorem halfCent_on_grid (fine : exponent ≤ -3) (half : Nat) :
    ∃ multiple : Nat, ((2 * half + 1) / 200 : ℚ) = multiple * 10 ^ exponent := by
  obtain ⟨places, rfl⟩ : ∃ places : Nat, exponent = -(places : ℤ) + -3 :=
    ⟨(-3 - exponent).toNat, by omega⟩
  refine ⟨(2 * half + 1) * 5 * 10 ^ places, ?_⟩
  rw [zpow_add₀ (by norm_num), zpow_neg, zpow_natCast]
  push_cast
  field_simp
  norm_num

namespace OnGrid

/-- A spelling of at most two places is one of whole hundredths. -/
theorem exists_hundredths (grid : OnGrid units exponent count) (coarse : -2 ≤ exponent) :
    ∃ whole : Nat, 100 * (shortest .away units).toRat = whole := by
  obtain ⟨places, rfl⟩ : ∃ places : Nat, exponent = (places : ℤ) + -2 :=
    ⟨(exponent + 2).toNat, by omega⟩
  refine ⟨count * 10 ^ places, ?_⟩
  rw [grid.denotes, zpow_add₀ (by norm_num), zpow_natCast]
  push_cast
  ring

/-- On a grid of more places, the value and its spelling have the same hundredths, unless the
spelling is half a hundredth and the value is below it. -/
theorem cents_eq_or (grid : OnGrid units exponent count) (fine : exponent ≤ -3) {number : ℚ}
    (magnitude : |number| = units / one) :
    cents (shortest .away units).toRat = cents number ∨
      |number| < (shortest .away units).toRat ∧ IsHalfCent (shortest .away units).toRat := by
  have power : (0 : ℚ) < 10 ^ exponent := by positivity
  obtain ⟨writtenLower, writtenUpper⟩ := cents_near (shortest .away units).toRat
  obtain ⟨lower, upper⟩ := cents_near number
  rw [abs_of_nonneg (toRat_nonneg _)] at writtenLower writtenUpper
  have below := grid.below
  have above := grid.above
  have denotes := grid.denotes
  rw [← magnitude] at below above
  generalize (shortest .away units).toRat = written at *
  by_contra neither
  obtain ⟨different, noHalf⟩ := not_or.mp neither
  rcases lt_or_gt_of_ne different with less | more
  · -- The half hundredth between them would be above the spelling and within its grid.
    obtain ⟨half, next⟩ : ∃ half, cents number = half + 1 := ⟨cents number - 1, by omega⟩
    have bounded : (cents written : ℚ) ≤ half := by
      exact_mod_cast Nat.le_of_lt_succ (next ▸ less)
    obtain ⟨multiple, onGrid⟩ := halfCent_on_grid fine half
    rw [next] at lower
    push_cast at lower
    have beyond : (count : ℚ) * 10 ^ exponent < multiple * 10 ^ exponent := by
      rw [← denotes, ← onGrid]
      linarith
    have within : (multiple : ℚ) * 10 ^ exponent < (count + 1) * 10 ^ exponent := by
      rw [← onGrid]
      linarith
    have least := lt_of_mul_lt_mul_right beyond power.le
    have most := lt_of_mul_lt_mul_right within power.le
    have same : multiple = count := natCast_eq_of_near most (by linarith)
    rw [same] at least
    exact lt_irrefl _ least
  · -- The half hundredth between them is above the value, and on the grid that is the spelling.
    obtain ⟨half, next⟩ : ∃ half, cents written = half + 1 := ⟨cents written - 1, by omega⟩
    have bounded : (cents number : ℚ) ≤ half := by
      exact_mod_cast Nat.le_of_lt_succ (next ▸ more)
    obtain ⟨multiple, onGrid⟩ := halfCent_on_grid fine half
    rw [next] at writtenLower
    push_cast at writtenLower
    have reached : (multiple : ℚ) * 10 ^ exponent ≤ count * 10 ^ exponent := by
      rw [← denotes, ← onGrid]
      linarith
    have within : (count - 1 : ℚ) * 10 ^ exponent < multiple * 10 ^ exponent := by
      rw [← onGrid]
      linarith
    have most := le_of_mul_le_mul_right reached power
    have least := lt_of_mul_lt_mul_right within power.le
    obtain rfl : count = multiple := natCast_eq_of_near (by linarith) (by linarith)
    refine noHalf ⟨?_, half, denotes.trans onGrid.symm⟩
    rw [denotes, ← onGrid]
    linarith

/-- Where the spelling is half a hundredth and the value is below it, the two have different
hundredths. -/
theorem cents_of_halfCent (grid : OnGrid units exponent count) {number : ℚ}
    (magnitude : |number| = units / one) (below : |number| < (shortest .away units).toRat)
    {half : Nat} (isHalf : (shortest .away units).toRat = (2 * half + 1) / 200) :
    exponent ≤ -3 ∧ cents (shortest .away units).toRat = half + 1 ∧ cents number = half ∧
      (half : ℚ) ≤ 100 * |number| := by
  have fine : exponent ≤ -3 := by
    by_contra coarse
    obtain ⟨whole, counted⟩ := grid.exists_hundredths (by omega)
    exact not_isHalfCent counted ⟨half, isHalf⟩
  have above := grid.above
  have denotes := grid.denotes
  have step : (10 : ℚ) ^ exponent ≤ 10 ^ (-3 : ℤ) := zpow_le_zpow_right₀ (by norm_num) fine
  have thousandth : (10 : ℚ) ^ (-3 : ℤ) = 1 / 1000 := by norm_num
  have nonnegative := toRat_nonneg (shortest .away units)
  rw [← magnitude, sub_mul, ← denotes, one_mul] at above
  rw [thousandth] at step
  refine ⟨fine, cents_eq_of_near ?_ ?_, cents_eq_of_near ?_ ?_, ?_⟩
  · rw [abs_of_nonneg nonnegative, isHalf]
    push_cast
    linarith
  · rw [abs_of_nonneg nonnegative, isHalf]
    push_cast
    linarith
  · linarith
  · linarith
  · linarith

/-- No grid of hundredths has a spelling of a value that is spelled with more places. So
neighbouring hundredths do not both read as it. -/
theorem not_both_read (grid : OnGrid units exponent count) (fine : exponent ≤ -3)
    (representable : Representable units) (nonzero : units ≠ 0) {half : Nat}
    (lower : (half : ℚ) ≤ 100 * (units / one)) (upper : 100 * (units / one : ℚ) < half + 1)
    (below : unitsNear (half / 100) = units) : unitsNear ((half + 1 : ℕ) / 100) ≠ units := by
  intro above
  have hundredth : (10 : ℚ) ^ (-2 : ℤ) = 1 / 100 := by norm_num
  have some := ne_zero_of_reads nonzero below
  have within : -2 < ceilingExponent units := by
    have atLeast : (1 : ℚ) ≤ half := by exact_mod_cast Nat.one_le_iff_ne_zero.mpr some
    have reached : (10 : ℚ) ^ (-2 : ℤ) < 10 ^ ceilingExponent units := by
      refine lt_of_le_of_lt ?_ (ceilingExponent_bounds nonzero).2
      rw [hundredth]
      linarith
    exact (zpow_lt_zpow_iff_right₀ (by norm_num)).mp reached
  obtain ⟨least, most⟩ := count_bounds units (-2)
  rw [hundredth] at least most
  have counts : numeratorAt units (-2) / denominatorAt (-2) = half := by
    generalize numeratorAt units (-2) / denominatorAt (-2) = found at least most
    apply natCast_eq_of_near
    · linarith
    · linarith
  have missing := grid.coarser (-2) (by omega) within
  have present : (neighbour? .away units (-2)).isSome = true := by
    apply neighbour?_isSome_of_reads representable (by decide) (by decide)
    · rw [counts, hundredth, mul_one_div]
      exact below
    · rw [counts, hundredth, mul_one_div]
      exact above
  rw [missing] at present
  cases present

/-- So the hundredths of the two do not read as one value. -/
theorem unitsNear_ne (grid : OnGrid units exponent count) (representable : Representable units)
    (nonzero : units ≠ 0) (below : (units / one : ℚ) < (shortest .away units).toRat)
    (isHalf : IsHalfCent (shortest .away units).toRat) :
    Representable (unitsNear (cents (units / one) / 100)) ∧
      unitsNear (cents (shortest .away units).toRat / 100) ≠
        unitsNear (cents (units / one) / 100) := by
  have unit : (0 : ℚ) < one := Nat.cast_pos.mpr Binary64.one_pos
  have inUnits := abs_units_mul units
  obtain ⟨half, halfway⟩ := isHalf
  obtain ⟨fine, writtenCents, numberCents, atLeast⟩ :=
    grid.cents_of_halfCent (abs_units units) ((abs_units units).trans_lt below) halfway
  rw [abs_units] at atLeast inUnits
  rw [writtenCents, numberCents]
  rw [halfway] at below
  have low : |(half / 100 : ℚ)| * one ≤ units := by
    rw [abs_of_nonneg (div_nonneg (Nat.cast_nonneg _) (by norm_num)), ← inUnits]
    exact mul_le_mul_of_nonneg_right (by linarith) unit.le
  have high : (units : ℚ) ≤ |((half + 1 : ℕ) / 100 : ℚ)| * one := by
    rw [abs_of_nonneg (div_nonneg (Nat.cast_nonneg _) (by norm_num)), ← inUnits]
    refine mul_le_mul_of_nonneg_right ?_ unit.le
    push_cast
    linarith
  refine ⟨representable_unitsNear representable low, fun same => ?_⟩
  have readsLow := unitsNear_between representable.2 low high same.symm
  exact grid.not_both_read fine representable nonzero atLeast (by linarith) readsLow
    (same.trans readsLow)

end OnGrid

/-- The shortest decimal of zero is zero. -/
theorem toRat_shortest_zero : (shortest .away 0).toRat = 0 := by
  rw [shortest, if_pos rfl, toRat, Nat.cast_zero, zero_mul]

/-- The shortest spelling of a magnitude reads as it. -/
theorem unitsNear_shortest (representable : Representable units) :
    unitsNear (shortest .away units).toRat = units := by
  by_cases nonzero : units = 0
  · rw [nonzero, toRat_shortest_zero, unitsNear_zero]
  · obtain ⟨exponent, count, grid⟩ := exists_onGrid representable nonzero
    exact grid.reading

end Scientific

namespace Binary64

variable {negative : Bool} {units : Nat}

/-- A signed number of hundredths is the value nearest to it, without a sign if it is zero. -/
theorem ofHundredths_signed (negative : Bool) (count : Nat) :
    ofHundredths (Decimal.signed negative count) =
      ofUnits (negative && decide (count ≠ 0)) (unitsNear (count / 100)) := by
  have sign : decide (Decimal.signed negative count < 0) =
      (negative && decide (count ≠ 0)) := by
    cases negative with
    | false => simp [Decimal.signed]
    | true =>
      simp only [Decimal.signed, if_true, Bool.true_and, decide_eq_decide]
      omega
  have magnitude : |(Decimal.signed negative count / 100 : ℚ)| = count / 100 := by
    rw [abs_div, ← Int.cast_abs, Int.abs_eq_natAbs, Decimal.natAbs_signed, Int.cast_natCast]
    norm_num
  rw [ofHundredths_eq_ofUnits, sign, ← unitsNear_abs, magnitude]

/-- The hundredths of a value and those of its spelling are the same result, except where the
spelling is half a hundredth and the value is below it. -/
theorem ofHundredths_alike_iff (representable : Representable units) :
    ofHundredths (Decimal.signed negative (cents (Scientific.shortest .away units).toRat)) =
        ofHundredths (Decimal.signed negative (cents (units / one))) ↔
      ¬((units / one : ℚ) < (Scientific.shortest .away units).toRat ∧
        IsHalfCent (Scientific.shortest .away units).toRat) := by
  by_cases nonzero : units = 0
  · rw [nonzero, Scientific.toRat_shortest_zero, Nat.cast_zero, zero_div]
    simp
  obtain ⟨exponent, count, grid⟩ := Scientific.exists_onGrid representable nonzero
  constructor
  · rintro same ⟨below, isHalf⟩
    obtain ⟨finite, different⟩ := grid.unitsNear_ne representable nonzero below isHalf
    rw [ofHundredths_signed, ofHundredths_signed] at same
    exact different (ofUnits_inj finite same).2
  · intro unexceptional
    by_cases coarse : -2 ≤ exponent
    · obtain ⟨whole, counted⟩ := grid.exists_hundredths coarse
      have written : |(Scientific.shortest .away units).toRat| =
          (Scientific.shortest .away units).toRat := abs_of_nonneg (Scientific.toRat_nonneg _)
      rw [← written] at counted
      have reads := unitsNear_cents representable.2 (abs_units_mul units) grid.reading counted
      have writtenReads : unitsNear (cents (Scientific.shortest .away units).toRat / 100) =
          units := by
        rw [cents_of_whole counted, ← counted, mul_div_cancel_left₀ _ (by norm_num), written]
        exact grid.reading
      rw [ofHundredths_signed, ofHundredths_signed, reads, writtenReads,
        decide_eq_true (ne_zero_of_reads nonzero reads),
        decide_eq_true (ne_zero_of_reads nonzero writtenReads)]
    · rcases grid.cents_eq_or (by omega) (abs_units units) with same | exceptional
      · rw [same]
      · rw [abs_units] at exceptional
        exact absurd exceptional unexceptional

end Binary64

end CampusQuery
