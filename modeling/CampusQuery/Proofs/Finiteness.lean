import Mathlib.Algebra.Group.Nat.Defs
import CampusQuery.Aggregate
import CampusQuery.Proofs.Places

/-!
# Which results stay finite

A quotient is not rounded beyond a finite magnitude that it does not exceed, so everything
that divides, or that rounds a decimal, stays finite. Adding is the one step that leaves the
finite values, and it is taken only where a value or a partial total is no decimal. So a sum
or an average of finite values is finite exactly when the values add up as decimals or their
binary total is finite; the largest, the smallest and the number of values always are.
-/

namespace CampusQuery

/-- A quotient is cut off or rounded up. -/
theorem roundQuotient_eq_or (tie : Tie) (numerator denominator : Nat) :
    roundQuotient tie numerator denominator = numerator / denominator ∨
      roundQuotient tie numerator denominator = numerator / denominator + 1 := by
  unfold roundQuotient
  dsimp only
  split
  · exact .inl rfl
  · split
    · exact .inr rfl
    · cases tie with
      | away => exact .inr rfl
      | toEven =>
        dsimp only
        split
        · exact .inl rfl
        · exact .inr rfl

/-- A quotient is not rounded beyond a whole number that bounds it. -/
theorem roundQuotient_le {tie : Tie} {numerator denominator bound : Nat}
    (positive : 0 < denominator) (bounded : numerator ≤ denominator * bound) :
    roundQuotient tie numerator denominator ≤ bound := by
  have below : numerator / denominator ≤ bound := Nat.div_le_of_le_mul bounded
  by_cases reached : numerator / denominator = bound
  · -- At the bound nothing is left over that could be rounded up.
    have divided := Nat.div_add_mod numerator denominator
    rw [reached] at divided
    have rest : numerator % denominator = 0 := by omega
    simp [roundQuotient, rest, positive, reached]
  · have rounded := roundQuotient_eq_or tie numerator denominator
    omega

namespace Binary64

/-- The distance grows with the magnitude, by doubling. -/
theorem spacing_dvd {small large : Nat} (le : small ≤ large) : spacing small ∣ spacing large := by
  by_cases zero : small = 0
  · subst zero
    exact ⟨spacing large, by simp [spacing]⟩
  · have orders : small.log2 ≤ large.log2 := by
      rw [Nat.le_log2 (by omega)]
      exact Nat.le_trans (Nat.log2_self_le zero) le
    exact Nat.pow_dvd_pow 2 (by omega)

/-- A multiple of a power of two with at most fifty-three significant bits is a multiple of
its distance. -/
theorem spacing_dvd_mul {multiple exponent : Nat} (small : multiple ≤ 2 ^ 53) :
    spacing (multiple * 2 ^ exponent) ∣ multiple * 2 ^ exponent := by
  by_cases largest : multiple = 2 ^ 53
  · rw [largest, ← Nat.pow_add, spacing, Nat.log2_two_pow]
    exact Nat.pow_dvd_pow 2 (by omega)
  · by_cases zero : multiple * 2 ^ exponent = 0
    · rw [zero]
      exact Nat.dvd_zero _
    · have order : (multiple * 2 ^ exponent).log2 < 53 + exponent := by
        rw [Nat.log2_lt zero, Nat.pow_add]
        exact Nat.mul_lt_mul_of_pos_right (by omega) (Nat.two_pow_pos exponent)
      exact Nat.dvd_trans (Nat.pow_dvd_pow 2 (by omega)) (Nat.dvd_mul_left _ multiple)

/-- Below the limit it is a magnitude that a finite value can have. -/
theorem representable_of_mul {multiple exponent : Nat} (small : multiple ≤ 2 ^ 53)
    (below : multiple * 2 ^ exponent < limit) : Representable (multiple * 2 ^ exponent) :=
  ⟨below, spacing_dvd_mul small⟩

/-- The powers of two below the limit are such magnitudes. -/
theorem representable_two_pow {exponent : Nat} (below : exponent < 2098) :
    Representable (2 ^ exponent) := by
  have bounded : 1 * 2 ^ exponent < limit := by
    rw [Nat.one_mul]
    unfold limit
    generalize 2098 = top at below ⊢
    exact Nat.pow_lt_pow_right (by decide) below
  have representable := representable_of_mul (by decide) bounded
  rwa [Nat.one_mul] at representable

/-- A quotient has at most fifty-three significant bits after rounding. -/
theorem rounded_le {numerator denominator : Nat} (positive : 0 < denominator) :
    roundQuotient .toEven numerator (denominator * spacing (numerator / denominator)) ≤ 2 ^ 53 := by
  refine roundQuotient_le (Nat.mul_pos positive (Nat.two_pow_pos _)) ?_
  have below : numerator / denominator + 1 ≤ spacing (numerator / denominator) * 2 ^ 53 := by
    calc numerator / denominator + 1 ≤ 2 ^ ((numerator / denominator).log2 + 1) := Nat.lt_log2_self
      _ ≤ 2 ^ ((numerator / denominator).log2 - 52 + 53) :=
        Nat.pow_le_pow_right (by decide) (by omega)
      _ = spacing (numerator / denominator) * 2 ^ 53 := Nat.pow_add 2 _ 53
  calc numerator ≤ denominator * (numerator / denominator + 1) :=
        Nat.le_of_lt (Nat.lt_mul_div_succ numerator positive)
    _ ≤ denominator * (spacing (numerator / denominator) * 2 ^ 53) :=
      Nat.mul_le_mul_left denominator below
    _ = denominator * spacing (numerator / denominator) * 2 ^ 53 := (Nat.mul_assoc _ _ _).symm

/-- A magnitude of a finite value gives one. -/
theorem isFinite_ofUnits {negative : Bool} {units : Nat} (representable : Representable units) :
    (ofUnits negative units).isFinite = true := by
  rw [ofUnits, dif_pos representable]
  rfl

/-- A quotient that does not exceed a finite magnitude is rounded to a finite value. -/
theorem isFinite_ofRatio {negative : Bool} {numerator denominator bound : Nat}
    (positive : 0 < denominator) (representable : Representable bound)
    (bounded : numerator ≤ denominator * bound) :
    (ofRatio negative numerator denominator).isFinite = true := by
  apply isFinite_ofUnits
  -- The bound is a multiple of the distance at the quotient, so rounding stops at it.
  obtain ⟨multiple, exact⟩ :=
    Nat.dvd_trans (spacing_dvd (Nat.div_le_of_le_mul bounded)) representable.2
  have stepPositive : 0 < denominator * spacing (numerator / denominator) :=
    Nat.mul_pos positive (Nat.two_pow_pos _)
  have within : roundQuotient .toEven numerator
      (denominator * spacing (numerator / denominator)) ≤ multiple := by
    apply roundQuotient_le stepPositive
    rw [Nat.mul_assoc, ← exact]
    exact bounded
  apply representable_of_mul (rounded_le positive)
  calc roundQuotient .toEven numerator (denominator * spacing (numerator / denominator)) *
        spacing (numerator / denominator)
      ≤ multiple * spacing (numerator / denominator) := Nat.mul_le_mul_right _ within
    _ = bound := by rw [Nat.mul_comm, ← exact]
    _ < limit := representable.1

/-- A whole number, in units. -/
theorem mul_one_le {count bits : Nat} (small : count ≤ 2 ^ bits) :
    count * one ≤ 2 ^ (bits + 1074) := by
  unfold one
  generalize 1074 = places
  rw [Nat.pow_add]
  exact Nat.mul_le_mul_right (Nat.pow 2 places) small

/-- Whole numbers up to the largest exact one, in units, are magnitudes of finite values. -/
theorem representable_mul_one {count : Nat} (small : count ≤ Numeral.largestExact) :
    Representable (count * one) := by
  have few : count ≤ 2 ^ 53 := Nat.le_trans small (Nat.sub_le _ 1)
  have below : count * one < limit := by
    refine Nat.lt_of_le_of_lt (mul_one_le few) ?_
    have order : 53 + 1074 < 2098 := by decide
    unfold limit
    generalize 2098 = top at order ⊢
    generalize 53 + 1074 = bottom at order ⊢
    exact Nat.pow_lt_pow_right (by decide) order
  unfold one at below ⊢
  generalize 1074 = places at below ⊢
  exact representable_of_mul few below

/-- So is a quotient of whole numbers of which the first has not many bits. -/
theorem isFinite_ofRatio_mul_one {negative : Bool} {count denominator : Nat}
    (positive : 0 < denominator) (small : count ≤ 2 ^ 128) :
    (ofRatio negative (count * one) denominator).isFinite = true := by
  apply isFinite_ofRatio positive (@representable_two_pow (128 + 1074) (by decide))
  exact Nat.le_trans (mul_one_le small) (Nat.le_mul_of_pos_left _ positive)

/-- A whole number of not too many bits is rounded to a finite value. -/
theorem isFinite_ofInt {value : Int} (small : value.natAbs ≤ 2 ^ 128) :
    (ofInt value).isFinite = true :=
  isFinite_ofRatio_mul_one Nat.one_pos small

/-- And a decimal fraction of such a number. -/
theorem isFinite_ofDecimal {negative : Bool} {digits : Nat} {exponent : Int}
    (small : digits ≤ 2 ^ 128) (fraction : exponent ≤ 0) :
    (ofDecimal negative digits exponent).isFinite = true := by
  have zero : Representable 0 := ⟨limit_pos, Nat.dvd_zero _⟩
  unfold ofDecimal
  split
  · exact isFinite_ofUnits zero
  · split
    · omega
    · split
      · exact isFinite_ofUnits zero
      · have unscaled : exponent.toNat = 0 := by omega
        have whole : digits * Nat.pow 10 0 * one = digits * one := by
          rw [Nat.mul_assoc, show Nat.pow 10 0 = 1 from rfl, Nat.one_mul]
        rw [unscaled, whole]
        exact isFinite_ofRatio_mul_one (Nat.pow_pos (by decide)) small

/-- So is a number of hundredths. -/
theorem isFinite_ofHundredths {count : Int} (small : count.natAbs ≤ 2 ^ 128) :
    (ofHundredths count).isFinite = true :=
  isFinite_ofDecimal small (by decide)

end Binary64

/-- Whole numbers up to the largest exact one are shown as they are. -/
theorem Json.ofBinary64_ofInt {value : Int} (small : value.natAbs ≤ Numeral.largestExact) :
    Json.ofBinary64 (Binary64.ofInt value) = .number (.integer value) := by
  have representable := Binary64.representable_mul_one small
  have whole : (Binary64.finite (decide (value < 0)) (value.natAbs * Binary64.one)
      representable).toInt? = some value := by
    rw [Binary64.toInt?, if_pos (Nat.mul_mod_left _ _),
      Nat.mul_div_cancel _ Binary64.one_pos]
    by_cases negative : value < 0
    · simp only [negative, decide_true, if_true, Option.some.injEq]
      omega
    · simp only [negative, decide_false, Bool.false_eq_true, if_false, Option.some.injEq]
      omega
  rw [Binary64.ofInt, Binary64.ofRatio_one _ representable, Json.ofBinary64,
    Numeral.ofBinary64?, whole]
  simp only [if_pos small]

namespace Decimal

/-- A sign does not change a magnitude. -/
theorem natAbs_signed (negative : Bool) (magnitude : Nat) :
    (signed negative magnitude).natAbs = magnitude := by
  cases negative <;> simp [signed]

/-- The value nearest to a decimal is finite. -/
theorem isFinite_toBinary64 (value : Decimal) : value.toBinary64.isFinite = true := by
  have small : value.mantissa.natAbs < 2 ^ 96 := value.mantissa_small
  exact Binary64.isFinite_ofDecimal (by omega) (by omega)

/-- A decimal has few enough hundredths to be finite after rounding. -/
theorem isFinite_hundredths (value : Decimal) :
    (Binary64.ofHundredths value.hundredths).isFinite = true := by
  have small : value.mantissa.natAbs < 2 ^ 96 := value.mantissa_small
  have positive : 0 < Nat.pow 10 value.scale := Nat.pow_pos (by decide)
  have bounded : value.mantissa.natAbs * 100 ≤ Nat.pow 10 value.scale * 2 ^ 128 := by
    have grows : 2 ^ 128 ≤ Nat.pow 10 value.scale * 2 ^ 128 := Nat.le_mul_of_pos_left _ positive
    omega
  apply Binary64.isFinite_ofHundredths
  rw [hundredths, natAbs_signed]
  exact roundQuotient_le positive bounded

end Decimal

namespace Binary64

/-- Rounding to two places keeps what is finite, and what is not. -/
theorem isFinite_roundToHundredths (value : Binary64) :
    value.roundToHundredths.isFinite = value.isFinite := by
  cases value with
  | infinite => rfl
  | nan => rfl
  | finite negative units representable =>
    unfold roundToHundredths
    dsimp only
    split
    · rename_i below
      have bounded : units * 100 ≤ one * 2 ^ 128 := by
        generalize one = unit at below ⊢
        have small : units < 2 ^ 96 * unit := below
        omega
      refine (isFinite_ofHundredths ?_).trans rfl
      rw [Decimal.natAbs_signed]
      exact roundQuotient_le one_pos bounded
    · rfl

/-- Dividing by a positive number keeps what is finite, and what is not. -/
theorem isFinite_divideBy (value : Binary64) {count : Nat} (positive : 0 < count) :
    (value.divideBy count).isFinite = value.isFinite := by
  cases value with
  | infinite => rfl
  | nan => rfl
  | finite negative units representable =>
    exact isFinite_ofRatio positive representable (Nat.le_mul_of_pos_left units positive)

/-- The larger of two values is one of them. -/
theorem larger_eq_or (left right : Binary64) :
    larger left right = left ∨ larger left right = right := by
  unfold larger
  split
  · split
    · exact .inr rfl
    · exact .inl rfl
  · exact .inr rfl
  · exact .inl rfl

/-- The smaller of two values is one of them. -/
theorem smaller_eq_or (left right : Binary64) :
    smaller left right = left ∨ smaller left right = right := by
  unfold smaller
  split
  · split
    · exact .inr rfl
    · exact .inl rfl
  · exact .inr rfl
  · exact .inl rfl

/-- A number that is chosen among finite values is finite. -/
theorem isFinite_foldl {choose : Binary64 → Binary64 → Binary64}
    (chooses : ∀ left right, choose left right = left ∨ choose left right = right)
    {values : List Binary64} (each : ∀ value ∈ values, value.isFinite = true) {start : Binary64}
    (finite : start.isFinite = true) : (values.foldl choose start).isFinite = true := by
  induction values generalizing start with
  | nil => exact finite
  | cons value rest inductionHypothesis =>
    obtain ⟨first, others⟩ := List.forall_mem_cons.mp each
    apply inductionHypothesis others
    rcases chooses start value with kept | taken
    · rw [kept]
      exact finite
    · rw [taken]
      exact first

/-- So it is where the choice starts from a number that gives way to every finite value, if
there is any value. -/
theorem isFinite_foldl_of_ne_nil {choose : Binary64 → Binary64 → Binary64} {start : Binary64}
    (chooses : ∀ left right, choose left right = left ∨ choose left right = right)
    (givesWay : ∀ value, value.isFinite = true → choose start value = value)
    {values : List Binary64} (nonempty : values ≠ [])
    (each : ∀ value ∈ values, value.isFinite = true) :
    (values.foldl choose start).isFinite = true := by
  obtain ⟨first, rest, rfl⟩ := List.exists_cons_of_ne_nil nonempty
  obtain ⟨firstFinite, restFinite⟩ := List.forall_mem_cons.mp each
  rw [List.foldl_cons, givesWay first firstFinite]
  exact isFinite_foldl chooses restFinite firstFinite

/-- The infinity that the search for the largest value starts from gives way to the first
finite value. -/
theorem larger_infinite {value : Binary64} (finite : value.isFinite = true) :
    larger (.infinite true) value = value := by
  cases value with
  | infinite => cases finite
  | nan => cases finite
  | finite negative units representable =>
    have below : units < limit := representable.1
    have beyond : -(limit : Int) < if negative then -(units : Int) else units := by
      by_cases sign : negative = true
      · rw [if_pos sign]
        omega
      · rw [if_neg sign]
        omega
    simp only [larger, position?, if_true, if_pos beyond]

/-- A finite value is smaller than infinity. -/
theorem smaller_infinite {value : Binary64} (finite : value.isFinite = true) :
    smaller (.infinite false) value = value := by
  cases value with
  | infinite => cases finite
  | nan => cases finite
  | finite negative units representable =>
    have below : units < limit := representable.1
    have beyond : (if negative then -(units : Int) else units) < (limit : Int) := by
      by_cases sign : negative = true
      · rw [if_pos sign]
        omega
      · rw [if_neg sign]
        omega
    simp only [smaller, position?, Bool.false_eq_true, if_false, if_pos beyond]

/-- The largest of some finite values is finite. -/
theorem isFinite_maximum {values : List Binary64} (nonempty : values ≠ [])
    (each : ∀ value ∈ values, value.isFinite = true) : (maximum values).isFinite = true :=
  isFinite_foldl_of_ne_nil larger_eq_or (fun _ => larger_infinite) nonempty each

/-- The smallest of some finite values is finite. -/
theorem isFinite_minimum {values : List Binary64} (nonempty : values ≠ [])
    (each : ∀ value ∈ values, value.isFinite = true) : (minimum values).isFinite = true :=
  isFinite_foldl_of_ne_nil smaller_eq_or (fun _ => smaller_infinite) nonempty each

/-- The values add up within range: as decimals, or else to a finite binary total. -/
def TotalInRange (values : List Binary64) : Prop :=
  (decimalTotal? values).isSome = true ∨ (binaryTotal values).isFinite = true

instance : DecidablePred TotalInRange := fun values =>
  inferInstanceAs (Decidable
    ((decimalTotal? values).isSome = true ∨ (binaryTotal values).isFinite = true))

/-- A sum is finite exactly if its total is within range. -/
theorem isFinite_sum_iff {values : List Binary64} :
    (sum values).isFinite = true ↔ TotalInRange values := by
  unfold sum TotalInRange
  cases decimalTotal? values with
  | some total => simp [total.isFinite_hundredths]
  | none => simp [isFinite_roundToHundredths]

/-- An average is finite in the same case, as a quotient is no larger than the total. -/
theorem isFinite_average_iff {values : List Binary64} (nonempty : values ≠ []) :
    (average values).isFinite = true ↔ TotalInRange values := by
  have counted : 0 < values.length := List.length_pos_iff.mpr nonempty
  have inhabited : values.isEmpty = false := by simpa using nonempty
  unfold average TotalInRange
  rw [inhabited, if_neg (by decide), isFinite_roundToHundredths, isFinite_divideBy _ counted]
  cases decimalTotal? values with
  | some total => simp [total.isFinite_toBinary64]
  | none => simp

end Binary64

/-- An aggregate of finite values is finite, except that a sum or an average needs a total
within range. -/
theorem Aggregate.isFinite_ofNumbers_iff {aggregate : Aggregate}
    (numeric : aggregate.needsNumbers = true) {values : List Binary64} (nonempty : values ≠ [])
    (each : ∀ value ∈ values, value.isFinite = true) :
    (aggregate.ofNumbers values).isFinite = true ↔
      (aggregate ∈ [avg, sum] → Binary64.TotalInRange values) := by
  cases aggregate with
  | count => cases numeric
  | max => simp [ofNumbers, Binary64.isFinite_maximum nonempty each]
  | min => simp [ofNumbers, Binary64.isFinite_minimum nonempty each]
  | avg => simp [ofNumbers, Binary64.isFinite_average_iff nonempty]
  | sum => simp [ofNumbers, Binary64.isFinite_sum_iff]

end CampusQuery
