import CampusQuery.Proofs.HalfCents

/-!
# The sum and the average of one value

One value is its own total, so its sum and its average are both the value, rounded to two
places with ties going away from zero. But they do not round the same number: a sum is rounded
as a decimal, which is what the shortest spelling of the value denotes, and an average is
rounded as a binary value after the division, which is the value itself. A value that is no
decimal is added up in binary, and then the sum rounds the value as well; such a value is a
whole number, and its spelling is rounded alike. So is 2^96, which becomes a decimal that is
not its spelling.
-/

namespace CampusQuery

namespace Binary64

/-- The number that a finite value is. -/
def toRat (value : Binary64) : ℚ := value.place / one

variable {negative : Bool} {units : Nat}

/-- A finite value is the quotient of its units, with its sign. -/
theorem toRat_finite (representable : Representable units) :
    (finite negative units representable).toRat =
      if negative then -(units / one : ℚ) else units / one := by
  have stands : (finite negative units representable).place = Decimal.signed negative units := rfl
  rw [toRat, stands, Decimal.signed_cast]
  split
  · rw [neg_div]
  · rfl

/-- A finite value denotes the shortest decimal of its magnitude, with its sign. -/
theorem denoted_finite (representable : Representable units) :
    (finite negative units representable).denoted =
      if negative then -(Scientific.shortest .away units).toRat
      else (Scientific.shortest .away units).toRat := rfl

/-- A sign does not change a magnitude. -/
theorem abs_signed (negative : Bool) (number : ℚ) :
    |if negative then -number else number| = |number| := by
  cases negative with
  | false => rfl
  | true => exact abs_neg number

/-- A number with a sign is rounded to its hundredths with the sign. -/
theorem nearestAway_signed (negative : Bool) {number : ℚ} (nonnegative : 0 ≤ number) :
    nearestAway (100 * if negative then -number else number) =
      Decimal.signed negative (cents number) := by
  have unsigned : ¬number < 0 := not_lt.mpr nonnegative
  cases negative with
  | false => rw [if_neg Bool.false_ne_true, nearestAway_eq, decide_eq_false unsigned]
  | true =>
    have sameCents : cents (-number) = cents number := by rw [cents, abs_neg, cents]
    rw [if_pos rfl, nearestAway_eq, sameCents]
    by_cases zero : number = 0
    · subst zero
      simp [cents, Decimal.signed]
    · have below : -number < 0 := neg_lt_zero.mpr (lt_of_le_of_ne nonnegative (Ne.symm zero))
      rw [decide_eq_true below]

/-- A number that is closer to zero than half a hundredth is rounded to zero. -/
theorem nearestAway_of_small {number : ℚ} (small : |number| < 1 / 200) :
    nearestAway (100 * number) = 0 := by
  have none : cents number = 0 :=
    cents_eq_of_near (by rw [Nat.cast_zero]; linarith [abs_nonneg number])
      (by rw [Nat.cast_zero]; linarith)
  rw [nearestAway_eq, none]
  cases decide (number < 0) <;> rfl

/-- Values of 2^96 and more are whole numbers. -/
theorem exists_whole_of_large (exact : spacing units ∣ units)
    (large : Nat.pow 2 96 * one ≤ units) : ∃ count : Nat, units = count * one := by
  have nonzero : units ≠ 0 := by
    rintro rfl
    have positive : 0 < Nat.pow 2 96 * one := Nat.mul_pos (Nat.pow_pos (by decide)) one_pos
    omega
  have divides : one ∣ spacing units := by
    unfold one at large ⊢
    unfold spacing
    generalize 1074 = places at large ⊢
    have power : 2 ^ (96 + places) ≤ units := by
      rw [Nat.pow_add]
      exact large
    have order := (Nat.le_log2 nonzero).mpr power
    exact Nat.pow_dvd_pow 2 (by omega)
  obtain ⟨count, whole⟩ := divides.trans exact
  exact ⟨count, whole.trans (Nat.mul_comm _ _)⟩

/-- Rounding a finite value to two places rounds the number that it is; that of a large value
reads back as it. -/
theorem roundToHundredths_eq {value : Binary64} (finite : value.isFinite = true) :
    value.roundToHundredths = ofHundredths (nearestAway (100 * value.toRat)) := by
  cases value with
  | infinite => cases finite
  | nan => cases finite
  | finite negative units representable =>
    have nonnegative : (0 : ℚ) ≤ units / one := abs_units units ▸ abs_nonneg _
    rw [toRat_finite, nearestAway_signed negative nonnegative]
    unfold roundToHundredths
    dsimp only
    split
    · have rounded : (roundQuotient .away (units * 100) one : ℤ) = cents (units / one) := by
        rw [roundQuotient_away one_pos, cents_cast, abs_units, Nat.cast_mul,
          mul_comm (units : ℚ), mul_div_assoc]
        rfl
      rw [Int.ofNat_inj.mp rounded]
    · rename_i large
      obtain ⟨count, whole⟩ := exists_whole_of_large representable.2 (Nat.le_of_not_lt large)
      have positive : 0 < Nat.pow 2 96 * one := Nat.mul_pos (Nat.pow_pos (by decide)) one_pos
      have reading := unitsNear_cents_of_whole representable.2 (abs_units_mul units) whole
      have some : cents (units / one) ≠ 0 := ne_zero_of_reads (by omega) reading
      rw [ofHundredths_signed, reading, decide_eq_true some, Bool.and_true, ofUnits,
        dif_pos representable]

end Binary64

namespace Decimal

/-- A decimal is read back as the value nearest to it. -/
theorem toBinary64_eq (value : Decimal) :
    value.toBinary64 =
      Binary64.ofUnits (decide (value.mantissa < 0)) (Binary64.unitsNear value.toRat) := by
  have places := value.scale_small
  have magnitude : Scientific.toRat ⟨value.mantissa.natAbs, -(value.scale : ℤ)⟩ =
      |value.toRat| := by
    have positive : (0 : ℚ) < 10 ^ value.scale := by positivity
    rw [Scientific.toRat, toRat, abs_div, abs_of_pos positive, Nat.cast_natAbs, Int.cast_abs,
      zpow_neg, zpow_natCast, div_eq_mul_inv]
  rw [toBinary64, Binary64.ofDecimal_eq_ofUnits (by omega) (by omega), magnitude,
    Binary64.unitsNear_abs]

/-- Seventeen digits behind the twenty-eighth place are next to nothing. -/
theorem abs_signed_div_le (negative : Bool) {magnitude scale : Nat} (few : magnitude ≤ 10 ^ 17)
    (long : 28 ≤ scale) : |(signed negative magnitude / 10 ^ scale : ℚ)| ≤ 1 / 10 ^ 11 := by
  have positive : (0 : ℚ) < 10 ^ scale := by positivity
  have power : (10 : ℚ) ^ 28 ≤ 10 ^ scale := pow_le_pow_right₀ (by norm_num) long
  have fewCast : (magnitude : ℚ) ≤ 10 ^ 17 := by exact_mod_cast few
  rw [abs_div, abs_of_pos positive, ← Int.cast_abs, Int.abs_eq_natAbs, natAbs_signed,
    Int.cast_natCast, div_le_div_iff₀ positive (by positivity)]
  linarith

/-- What becomes of the spelling of a finite value: the decimal that it denotes; one that is
close to zero as the value is, if the spelling has too many places; or none, if the value is a
whole number. -/
theorem ofSpelling?_cases {value : Binary64} (finite : value.isFinite = true) :
    (∃ decimal, ofSpelling? value = some decimal ∧ decimal.toRat = value.denoted) ∨
      (∃ decimal, ofSpelling? value = some decimal ∧ |decimal.toRat| ≤ 1 / 10 ^ 11 ∧
        |value.denoted| ≤ 1 / 10 ^ 11) ∨
      (ofSpelling? value = none ∧ ∃ whole : Nat, |value.denoted| = whole) := by
  cases value with
  | infinite => cases finite
  | nan => cases finite
  | finite negative units representable =>
    have few := (Scientific.shortest_spec .away representable).2
    rw [denoted_eq, ofSpelling?]
    generalize Scientific.shortest .away units = spelled at few ⊢
    obtain ⟨digits, exponent⟩ := spelled
    dsimp only at few ⊢
    have unscaled (fraction : exponent ≤ 0) : digits * Nat.pow 10 exponent.toNat = digits := by
      rw [Int.toNat_of_nonpos fraction]
      exact Nat.mul_one digits
    by_cases places : (-exponent).toNat ≤ 28
    · rw [if_pos places]
      cases made : make? (signed negative (digits * Nat.pow 10 exponent.toNat))
          (-exponent).toNat with
      | some decimal => exact .inl ⟨decimal, rfl, toRat_of_make? made⟩
      | none =>
        -- Seventeen digits are few enough for a decimal, so here they are followed by zeros.
        have whole : (-exponent).toNat = 0 := by
          by_contra fraction
          have small : (signed negative digits).natAbs < 2 ^ 96 := by
            rw [natAbs_signed]
            exact few.trans_lt (by norm_num)
          obtain ⟨decimal, fits, -⟩ := make?_eq_some small places
          rw [unscaled (by omega), fits] at made
          cases made
        refine .inr (.inr ⟨rfl, digits * Nat.pow 10 exponent.toNat, ?_⟩)
        rw [whole, pow_zero, div_one, ← Int.cast_abs, Int.abs_eq_natAbs, natAbs_signed]
        rfl
    · rw [if_neg places]
      have rounded : roundQuotient .away digits (Nat.pow 10 ((-exponent).toNat - 28)) ≤ 10 ^ 17 :=
        roundQuotient_le (Nat.pow_pos (by decide))
          (few.trans (Nat.le_mul_of_pos_left _ (Nat.pow_pos (by decide))))
      generalize roundQuotient .away digits (Nat.pow 10 ((-exponent).toNat - 28)) = kept
        at rounded ⊢
      have small : (signed negative kept).natAbs < 2 ^ 96 := by
        rw [natAbs_signed]
        exact rounded.trans_lt (by norm_num)
      obtain ⟨decimal, made, same⟩ := make?_eq_some small le_rfl
      refine .inr (.inl ⟨decimal, made, ?_, ?_⟩)
      · rw [same]
        exact abs_signed_div_le negative rounded le_rfl
      · rw [unscaled (by omega)]
        exact abs_signed_div_le negative few (by omega)

/-- Significant bits make a decimal at one magnitude alone. -/
theorem ofSignificand?_cases {value : Binary64} (finite : value.isFinite = true) :
    ofSignificand? value = none ∨
      ∃ negative, value = .ofUnits negative (Nat.pow 2 96 * Binary64.one) := by
  cases value with
  | infinite => cases finite
  | nan => cases finite
  | finite negative units representable =>
    by_cases smallest : units = Nat.pow 2 96 * Binary64.one
    · refine .inr ⟨negative, ?_⟩
      rw [← smallest, Binary64.ofUnits, dif_pos representable]
    · refine .inl ?_
      rw [ofSignificand?, if_neg smallest]

/-- What becomes of a finite value is what becomes of its spelling, except that the smallest
magnitude of those whose spellings are no decimals becomes one nevertheless. -/
theorem ofBinary64?_cases {value : Binary64} (finite : value.isFinite = true) :
    (∃ decimal, ofBinary64? value = some decimal ∧ decimal.toRat = value.denoted) ∨
      (∃ decimal, ofBinary64? value = some decimal ∧ |decimal.toRat| ≤ 1 / 10 ^ 11 ∧
        |value.denoted| ≤ 1 / 10 ^ 11) ∨
      (ofBinary64? value = none ∧ ∃ whole : Nat, |value.denoted| = whole) ∨
      ∃ negative, value = .ofUnits negative (Nat.pow 2 96 * Binary64.one) := by
  rcases ofSpelling?_cases finite with
    ⟨decimal, spelled, same⟩ | ⟨decimal, spelled, small, tiny⟩ | ⟨unread, whole⟩
  · exact .inl ⟨decimal, ofBinary64?_of_spelling spelled, same⟩
  · exact .inr (.inl ⟨decimal, ofBinary64?_of_spelling spelled, small, tiny⟩)
  · rcases ofSignificand?_cases finite with none | smallest
    · exact .inr (.inr (.inl ⟨by rw [ofBinary64?, unread, none], whole⟩))
    · exact .inr (.inr (.inr smallest))

end Decimal

namespace Binary64

variable {negative : Bool} {units : Nat} {value : Binary64}

/-- Units of a finite value give their quotient. -/
theorem toRat_ofUnits (representable : Representable units) :
    (ofUnits negative units).toRat = if negative then -(units / one : ℚ) else units / one := by
  rw [ofUnits, dif_pos representable, toRat_finite]

/-- A finite value is the one nearest to what its spelling denotes. -/
theorem unitsNear_denoted (representable : Representable units) :
    unitsNear (finite negative units representable).denoted = units := by
  rw [denoted_finite, ← unitsNear_abs, abs_signed, unitsNear_abs,
    Scientific.unitsNear_shortest representable]

/-- A value that is not zero has the sign of its spelling. -/
theorem denoted_neg_iff (representable : Representable units) (nonzero : units ≠ 0) :
    (finite negative units representable).denoted < 0 ↔ negative = true := by
  have positive : 0 < (Scientific.shortest .away units).toRat := by
    refine lt_of_le_of_ne (Scientific.toRat_nonneg _) fun zero => nonzero ?_
    rw [← Scientific.unitsNear_shortest representable, ← zero, unitsNear_zero]
  rw [denoted_finite]
  cases negative with
  | false => simpa using positive.le
  | true => simpa using positive

/-- The decimal that the spelling of a value denotes is read back as the value. -/
theorem toRat_toBinary64 (finite : value.isFinite = true) {decimal : Decimal}
    (same : decimal.toRat = value.denoted) : decimal.toBinary64.toRat = value.toRat := by
  cases value with
  | infinite => cases finite
  | nan => cases finite
  | finite negative units representable =>
    rw [Decimal.toBinary64_eq, same, unitsNear_denoted, toRat_ofUnits representable, toRat_finite]
    by_cases nonzero : units = 0
    · rw [nonzero, Nat.cast_zero, zero_div, neg_zero, ite_self, ite_self]
    · have sign : decide (decimal.mantissa < 0) = negative := by
        rw [← Bool.coe_iff_coe, decide_eq_true_iff, ← Decimal.toRat_neg_iff, same]
        exact denoted_neg_iff representable nonzero
      rw [sign]

/-- The value nearest to a number is at most twice as far from zero. -/
theorem abs_toRat_le {number : ℚ} (finite : value.isFinite = true)
    (nearest : value = ofUnits negative (unitsNear number)) : |value.toRat| ≤ 2 * |number| := by
  have unit : (0 : ℚ) < one := Nat.cast_pos.mpr one_pos
  have representable : Representable (unitsNear number) := by
    by_contra beyond
    rw [nearest, ofUnits, dif_neg beyond] at finite
    cases finite
  have doubled := unitsNear_le number
  rw [← mul_assoc] at doubled
  rw [nearest, toRat_ofUnits representable, abs_signed, abs_units]
  exact (div_le_iff₀ unit).mpr doubled

/-- A finite value is the one nearest to what it denotes. -/
theorem exists_ofUnits (finite : value.isFinite = true) :
    ∃ negative, value = ofUnits negative (unitsNear value.denoted) := by
  cases value with
  | infinite => cases finite
  | nan => cases finite
  | finite negative units representable =>
    refine ⟨negative, ?_⟩
    rw [unitsNear_denoted, ofUnits, dif_pos representable]

/-- The decimal total of one value is its decimal. -/
theorem decimalTotal?_singleton (value : Binary64) :
    decimalTotal? [value] = Decimal.ofBinary64? value := by
  change decimalTotal? ([] ++ [value]) = _
  rw [decimalTotal?_append_singleton]
  change (Decimal.ofBinary64? value).bind Decimal.zero.add? = _
  have first : Decimal.zero.add? = some := by
    funext decimal
    rw [Decimal.add?, if_pos (show Decimal.zero.mantissa = 0 from rfl)]
  rw [first, Option.bind_fun_some]

/-- The binary total of one finite value is that value, but for the sign of a zero. -/
theorem binaryTotal_singleton (finite : value.isFinite = true) :
    (binaryTotal [value]).isFinite = true ∧ (binaryTotal [value]).toRat = value.toRat := by
  cases value with
  | infinite => cases finite
  | nan => cases finite
  | finite negative units representable =>
    have nothing : Representable 0 := ⟨limit_pos, Nat.dvd_zero _⟩
    have zeroPlace : zero.place = 0 := by
      rw [zero, ofUnits, dif_pos nothing]
      rfl
    have magnitude : (Binary64.finite negative units representable).place.natAbs = units := by
      cases negative with
      | false => rfl
      | true => exact Int.natAbs_neg units
    have whole : Representable
        (zero.place + (Binary64.finite negative units representable).place).natAbs := by
      rw [zeroPlace, zero_add, magnitude]
      exact representable
    have zeroFinite : zero.isFinite = true := isFinite_ofUnits nothing
    obtain ⟨totalFinite, place⟩ := add_exact zeroFinite finite whole
    rw [zeroPlace, zero_add] at place
    rw [binaryTotal, List.foldl_cons, List.foldl_nil, toRat, toRat, place]
    exact ⟨totalFinite, rfl⟩

/-- Division by one changes nothing. -/
theorem divideBy_one (value : Binary64) : value.divideBy 1 = value := by
  cases value with
  | infinite => rfl
  | nan => rfl
  | finite negative units representable => exact ofRatio_one negative representable

/-- A value and its spelling are rounded alike, except where the spelling is half a hundredth and
the value is closer to zero. -/
theorem rounded_alike_iff (finite : value.isFinite = true) :
    ofHundredths (nearestAway (100 * value.denoted)) =
        ofHundredths (nearestAway (100 * value.toRat)) ↔
      ¬(|value.toRat| < |value.denoted| ∧ IsHalfCent |value.denoted|) := by
  cases value with
  | infinite => cases finite
  | nan => cases finite
  | finite negative units representable =>
    have nonnegative : (0 : ℚ) ≤ units / one := abs_units units ▸ abs_nonneg _
    have written := Scientific.toRat_nonneg (Scientific.shortest .away units)
    rw [toRat_finite, denoted_finite, nearestAway_signed negative nonnegative,
      nearestAway_signed negative written, abs_signed, abs_signed, abs_units,
      abs_of_nonneg written]
    exact ofHundredths_alike_iff representable

/-- The one magnitude whose decimal is not that of its spelling is a whole number, which both
the sum and the average of it leave as it is. -/
theorem smallest_alone : ∀ negative,
    let value := ofUnits negative (Nat.pow 2 96 * one)
    sum [value] = ofHundredths (nearestAway (100 * value.denoted)) ∧
      average [value] = ofHundredths (nearestAway (100 * value.toRat)) := by
  decide +kernel

/-- The sum of one value is what its spelling denotes, rounded. -/
theorem sum_singleton (finite : value.isFinite = true) :
    sum [value] = ofHundredths (nearestAway (100 * value.denoted)) := by
  rcases Decimal.ofBinary64?_cases finite with ⟨decimal, found, same⟩ |
    ⟨decimal, found, small, tiny⟩ | ⟨missing, whole, isWhole⟩ | ⟨negative, smallest⟩
  · rw [sum, decimalTotal?_singleton, found]
    dsimp only
    rw [decimal.hundredths_eq, same]
  · rw [sum, decimalTotal?_singleton, found]
    dsimp only
    rw [decimal.hundredths_eq, nearestAway_of_small (small.trans_lt (by norm_num)),
      nearestAway_of_small (tiny.trans_lt (by norm_num))]
  · -- The value is added up in binary and rounded as it is, but so is its spelling.
    obtain ⟨totalFinite, total⟩ := binaryTotal_singleton finite
    rw [sum, decimalTotal?_singleton, missing]
    dsimp only
    have counted : 100 * |value.denoted| = (100 * whole : ℕ) := by
      rw [isWhole, Nat.cast_mul, Nat.cast_ofNat]
    rw [roundToHundredths_eq totalFinite, total, eq_comm, rounded_alike_iff finite]
    rintro ⟨-, half⟩
    exact not_isHalfCent counted half
  · rw [smallest]
    exact (smallest_alone negative).1

/-- The average of one value is its total, rounded. -/
theorem average_single (value : Binary64) :
    average [value] = ((Decimal.ofBinary64? value).elim (binaryTotal [value])
      Decimal.toBinary64).roundToHundredths := by
  rw [average, if_neg (show ¬[value].isEmpty = true from Bool.false_ne_true),
    decimalTotal?_singleton]
  dsimp only
  rw [List.length_singleton, divideBy_one]
  cases Decimal.ofBinary64? value with
  | none => rw [Option.elim_none]
  | some decimal => rw [Option.elim_some]

/-- The average of one value is that value, rounded. -/
theorem average_singleton (finite : value.isFinite = true) :
    average [value] = ofHundredths (nearestAway (100 * value.toRat)) := by
  rcases Decimal.ofBinary64?_cases finite with ⟨decimal, found, same⟩ |
    ⟨decimal, found, small, tiny⟩ | ⟨missing, -⟩ | ⟨negative, smallest⟩
  · rw [average_single, found, Option.elim_some,
      roundToHundredths_eq decimal.isFinite_toBinary64, toRat_toBinary64 finite same]
  · have close := abs_toRat_le decimal.isFinite_toBinary64 decimal.toBinary64_eq
    obtain ⟨negative, nearest⟩ := exists_ofUnits finite
    have valueClose := abs_toRat_le finite nearest
    rw [average_single, found, Option.elim_some,
      roundToHundredths_eq decimal.isFinite_toBinary64, nearestAway_of_small (by linarith),
      nearestAway_of_small (by linarith)]
  · obtain ⟨totalFinite, same⟩ := binaryTotal_singleton finite
    rw [average_single, missing, Option.elim_none, roundToHundredths_eq totalFinite, same]
  · rw [smallest]
    exact (smallest_alone negative).2

end Binary64

/-- An aggregate of numbers of one record is that of the one number. -/
theorem Aggregate.ofRecords_singleton {aggregate : Aggregate} {key : Key} {record : Record}
    {value : Binary64} (numeric : aggregate.needsNumbers = true)
    (found : record.value key.field = .ok (.number value)) :
    aggregate.ofRecords key [record] = .ok (aggregate.ofNumbers [value]) := by
  rw [ofRecords, List.mapM_cons, found, List.mapM_nil]
  simp only [numeric, if_true]
  rfl

namespace Binary64

variable {value : Binary64}

/-- The sum of one value is what its shortest spelling denotes, and the average is the value
itself, both rounded to hundredths with ties going away from zero. The two are the same number,
except where the spelling is half a hundredth and the value is closer to zero. -/
theorem average_eq_sum_iff (finite : value.isFinite = true) :
    sum [value] = ofHundredths (nearestAway (100 * value.denoted)) ∧
      average [value] = ofHundredths (nearestAway (100 * value.toRat)) ∧
      (average [value] = sum [value] ↔
        ¬(|value.toRat| < |value.denoted| ∧ IsHalfCent |value.denoted|)) ∧
      ∀ (key : Key) (record : Record), record.value key.field = .ok (.number value) →
        Aggregate.sum.ofRecords key [record] = .ok (sum [value]) ∧
          Aggregate.avg.ofRecords key [record] = .ok (average [value]) := by
  refine ⟨sum_singleton finite, average_singleton finite, ?_, fun key record found => ⟨?_, ?_⟩⟩
  · rw [average_singleton finite, sum_singleton finite, eq_comm]
    exact rounded_alike_iff finite
  · exact Aggregate.ofRecords_singleton rfl found
  · exact Aggregate.ofRecords_singleton rfl found

/-- The value nearest to 1.005 is below it, and has one cent less on average than in total. -/
theorem one_cent_apart :
    (ofDecimal false 1005 (-3)).isFinite = true ∧
      average [ofDecimal false 1005 (-3)] = ofHundredths 100 ∧
      sum [ofDecimal false 1005 (-3)] = ofHundredths 101 ∧
      average [ofDecimal false 1005 (-3)] ≠ sum [ofDecimal false 1005 (-3)] := by
  decide +kernel

/-- So a room at a latitude of 1.005 has another average latitude than total latitude; but at a
longitude of -0.125, which is its own spelling, the two longitudes are the same. -/
theorem one_room_compared :
    let room : Room := ⟨"DMP_110", "DMP", "110", "DMP_110", "6245 Agronomy Road",
      ofDecimal false 1005 (-3), ofDecimal true 125 (-3), ofInt 120, "Tiered", "Fixed", ""⟩
    Aggregate.avg.ofRecords ⟨"rooms", .lat⟩ [.ofRoom room] ≠
        Aggregate.sum.ofRecords ⟨"rooms", .lat⟩ [.ofRoom room] ∧
      Aggregate.avg.ofRecords ⟨"rooms", .lon⟩ [.ofRoom room] =
        Aggregate.sum.ofRecords ⟨"rooms", .lon⟩ [.ofRoom room] := by
  intro room
  have below : |(ofDecimal false 1005 (-3)).toRat| < |(ofDecimal false 1005 (-3)).denoted| := by
    decide +kernel
  have half : IsHalfCent |(ofDecimal false 1005 (-3)).denoted| := ⟨100, by decide +kernel⟩
  have exact : ¬|(ofDecimal true 125 (-3)).toRat| < |(ofDecimal true 125 (-3)).denoted| := by
    decide +kernel
  obtain ⟨-, -, apart, latitudes⟩ :=
    @average_eq_sum_iff (ofDecimal false 1005 (-3)) (by decide +kernel)
  obtain ⟨-, -, alike, longitudes⟩ :=
    @average_eq_sum_iff (ofDecimal true 125 (-3)) (by decide +kernel)
  obtain ⟨latitudeTotal, latitudeMean⟩ := latitudes ⟨"rooms", .lat⟩ (.ofRoom room)
    (by simp only [Record.value, Record.value?, Room.value?, room])
  obtain ⟨longitudeTotal, longitudeMean⟩ := longitudes ⟨"rooms", .lon⟩ (.ofRoom room)
    (by simp only [Record.value, Record.value?, Room.value?, room])
  rw [latitudeTotal, latitudeMean, longitudeTotal, longitudeMean]
  constructor
  · intro same
    exact apart.mp (Except.ok.inj same) ⟨below, half⟩
  · have equal := alike.mpr fun exceptional => exact exceptional.1
    rw [equal]

end Binary64

end CampusQuery
