import Mathlib.Algebra.Order.Round
import Mathlib.Data.Rat.Floor
import CampusQuery.Proofs.Spelling

/-!
# Decimals as numbers

A decimal is a rational number. Where the result of a step is a decimal, the step is exact:
a finite value becomes the decimal that its shortest spelling denotes, since seventeen digits
leave nothing to be cut off that is not zero, and two decimals become their sum, since a total
is lowered only through zeros. Only the last step rounds, to hundredths, and it rounds the
number itself.
-/

namespace CampusQuery

/-- The whole number nearest to a number, ties going away from zero. -/
def nearestAway (number : ℚ) : ℤ := if number < 0 then -round (-number) else round number

/-- A quotient whose ties go up is rounded as a number is. -/
theorem roundQuotient_away {numerator denominator : Nat} (positive : 0 < denominator) :
    (roundQuotient .away numerator denominator : ℤ) = round (numerator / denominator : ℚ) := by
  obtain ⟨-, upper⟩ := @roundQuotient_near .away numerator _ positive
  have lower : 2 * numerator <
      2 * (denominator * roundQuotient .away numerator denominator) + denominator := by
    have divided := Nat.div_add_mod numerator denominator
    have rest := Nat.mod_lt numerator positive
    have next := Nat.mul_add_one denominator (numerator / denominator)
    unfold roundQuotient
    dsimp only
    split
    · omega
    · split <;> omega
  generalize roundQuotient .away numerator denominator = rounded at lower upper ⊢
  have cast : (0 : ℚ) < denominator := Nat.cast_pos.mpr positive
  rw [round_eq, eq_comm, Int.floor_eq_iff]
  have upperCast : (2 * (denominator * rounded) : ℚ) ≤ 2 * numerator + denominator := by
    exact_mod_cast upper
  have lowerCast : (2 * numerator : ℚ) < 2 * (denominator * rounded) + denominator := by
    exact_mod_cast lower
  rw [Int.cast_natCast, ← sub_le_iff_le_add, le_div_iff₀ cast, ← lt_sub_iff_add_lt,
    div_lt_iff₀ cast]
  constructor
  · linarith
  · linarith

namespace Decimal

/-- The number that a decimal is. -/
def toRat (value : Decimal) : ℚ := value.mantissa / 10 ^ value.scale

/-- A number that some decimal is. -/
def Represents (number : ℚ) : Prop := ∃ value : Decimal, value.toRat = number

/-- A signed magnitude as a rational number. -/
theorem signed_cast (negative : Bool) (magnitude : Nat) :
    (signed negative magnitude : ℚ) = if negative then -(magnitude : ℚ) else magnitude := by
  cases negative <;> simp [signed]

/-- A whole number has its sign and its magnitude. -/
theorem signed_natAbs (value : Int) : signed (decide (value < 0)) value.natAbs = value := by
  unfold signed
  by_cases negative : value < 0
  · simp only [negative, decide_true, if_true]
    omega
  · simp only [negative, decide_false, Bool.false_eq_true, if_false]
    omega

/-- Multiplying a magnitude multiplies the number. -/
theorem signed_mul (negative : Bool) (magnitude factor : Nat) :
    signed negative (magnitude * factor) = signed negative magnitude * factor := by
  cases negative <;> simp [signed]

/-- A mantissa and a scale within bounds make a decimal, their quotient. -/
theorem make?_eq_some {mantissa : Int} {scale : Nat} (small : mantissa.natAbs < 2 ^ 96)
    (short : scale ≤ 28) :
    ∃ value, make? mantissa scale = some value ∧ value.toRat = mantissa / 10 ^ scale :=
  ⟨⟨mantissa, scale, small, short⟩, dif_pos ⟨small, short⟩, rfl⟩

/-- A decimal that is made of a mantissa and a scale is their quotient. -/
theorem toRat_of_make? {mantissa : Int} {scale : Nat} {value : Decimal}
    (made : make? mantissa scale = some value) : value.toRat = mantissa / 10 ^ scale := by
  unfold make? at made
  split at made
  · obtain rfl := Option.some.inj made
    rfl
  · cases made

/-- A total over a power of ten that is a decimal fits after some digits are dropped that are
all zero, and it then has no more places than a decimal can have. -/
theorem Represents.exists_dropped {total : Int} {scale : Nat}
    (represents : Represents (total / 10 ^ scale)) :
    ∃ dropped rest, dropped ≤ scale ∧ scale ≤ dropped + 28 ∧
      total.natAbs = rest * 10 ^ dropped ∧ rest < 2 ^ 96 := by
  obtain ⟨value, same⟩ := represents
  have short := value.scale_small
  have crossed : value.mantissa * 10 ^ scale = total * 10 ^ value.scale := by
    rw [toRat, div_eq_div_iff (by positivity) (by positivity)] at same
    exact_mod_cast same
  rcases le_total value.scale scale with fewer | more
  · refine ⟨scale - value.scale, value.mantissa.natAbs, by omega, by omega, ?_,
      value.mantissa_small⟩
    obtain ⟨further, rfl⟩ := Nat.exists_eq_add_of_le fewer
    have exact : total = value.mantissa * 10 ^ further := by
      apply mul_right_cancel₀ (b := (10 : ℤ) ^ value.scale) (by positivity)
      rw [← crossed, pow_add]
      ring
    rw [exact, Int.natAbs_mul, Int.natAbs_pow, Nat.add_sub_cancel_left]
    rfl
  · refine ⟨0, total.natAbs, by omega, by omega, by simp, ?_⟩
    obtain ⟨further, exponent⟩ := Nat.exists_eq_add_of_le more
    have exact : value.mantissa = total * 10 ^ further := by
      apply mul_right_cancel₀ (b := (10 : ℤ) ^ scale) (by positivity)
      rw [crossed, exponent, pow_add]
      ring
    have grows : total.natAbs ≤ value.mantissa.natAbs := by
      rw [exact, Int.natAbs_mul]
      exact Nat.le_mul_of_pos_right _ (Int.natAbs_pos.mpr (by positivity))
    exact grows.trans_lt value.mantissa_small

/-- Dropping zeros rounds nothing. -/
theorem roundQuotient_dropped {tie : Tie} {magnitude rest dropped count : Nat}
    (divided : magnitude = rest * 10 ^ dropped) (fewer : count ≤ dropped) :
    roundQuotient tie magnitude (Nat.pow 10 count) = rest * 10 ^ (dropped - count) := by
  obtain ⟨further, rfl⟩ := Nat.exists_eq_add_of_le fewer
  rw [divided, pow_add, Nat.mul_comm (10 ^ count), ← Nat.mul_assoc, Nat.add_sub_cancel_left]
  exact roundQuotient_mul _ _ _ (Nat.pow_pos (by decide))

/-- What a search through the naturals from zero finds, if it must find something by a certain
place. -/
theorem exists_findSome?_range {α : Type} {find : Nat → Option α} {property : α → Prop}
    {bound place : Nat} (within : place < bound) (present : (find place).isSome = true)
    (each : ∀ first ≤ place, ∀ found, find first = some found → property found) :
    ∃ found, (List.range bound).findSome? find = some found ∧ property found := by
  have member : place ∈ List.range bound := List.mem_range.mpr within
  obtain ⟨found, searched⟩ : ∃ found, (List.range bound).findSome? find = some found := by
    rw [← Option.isSome_iff_exists, List.findSome?_isSome_iff]
    exact ⟨place, member, present⟩
  obtain ⟨before, first, after, split, here, nothing⟩ := List.findSome?_eq_some_iff.mp searched
  have ordered := @List.pairwise_lt_range bound
  rw [split] at member ordered
  refine ⟨found, searched, each first ?_ found here⟩
  rcases List.mem_append.mp member with earlier | later
  · rw [nothing place earlier] at present
    cases present
  · rcases List.mem_cons.mp later with rfl | later
    · exact le_rfl
    · exact ((List.pairwise_cons.mp (List.pairwise_append.mp ordered).2.1).1 place later).le

/-- Lowering a total is exact where the total is a decimal. -/
theorem lower?_exact {total : Int} {scale : Nat} (short : scale ≤ 28)
    (represents : Represents (total / 10 ^ scale)) :
    ∃ value, lower? total scale = some value ∧ value.toRat = total / 10 ^ scale := by
  obtain ⟨dropped, rest, within, -, divided, small⟩ := represents.exists_dropped
  unfold lower?
  apply exists_findSome?_range (Nat.lt_succ_of_le within)
  · have fits : (signed (total < 0) rest).natAbs < 2 ^ 96 := by rwa [natAbs_signed]
    obtain ⟨value, made, -⟩ := make?_eq_some fits ((Nat.sub_le scale dropped).trans short)
    rw [roundQuotient_dropped divided le_rfl, Nat.sub_self, pow_zero, Nat.mul_one, made]
    rfl
  · -- The search stops where some of the zeros are still there, so nothing has been rounded.
    intro first earlier value made
    rw [roundQuotient_dropped divided earlier] at made
    have restored : signed (total < 0) (rest * 10 ^ (dropped - first)) * (10 ^ first : Nat) =
        total := by
      rw [← signed_mul, Nat.mul_assoc, ← pow_add, Nat.sub_add_cancel earlier, ← divided,
        signed_natAbs]
    rw [toRat_of_make? made, div_eq_div_iff (by positivity) (by positivity)]
    conv_rhs => rw [← restored]
    obtain ⟨further, rfl⟩ := Nat.exists_eq_add_of_le (earlier.trans within)
    rw [Nat.add_sub_cancel_left, pow_add]
    push_cast
    ring

/-- A sum that is a decimal is the result of adding. -/
theorem add?_exact {left right : Decimal} (represents : Represents (left.toRat + right.toRat)) :
    ∃ total, left.add? right = some total ∧ total.toRat = left.toRat + right.toRat := by
  unfold add?
  by_cases leftZero : left.mantissa = 0
  · exact ⟨right, if_pos leftZero, by simp [toRat, leftZero]⟩
  by_cases rightZero : right.mantissa = 0
  · exact ⟨left, by rw [if_neg leftZero, if_pos rightZero], by simp [toRat, rightZero]⟩
  rw [if_neg leftZero, if_neg rightZero]
  dsimp only
  have short : max left.scale right.scale ≤ 28 := max_le left.scale_small right.scale_small
  have aligned {value : Decimal} {scale : Nat} (fewer : value.scale ≤ scale) :
      value.toRat = (value.mantissa * Nat.pow 10 (scale - value.scale) : Int) / 10 ^ scale := by
    obtain ⟨further, rfl⟩ := Nat.exists_eq_add_of_le fewer
    rw [toRat, Nat.add_sub_cancel_left, div_eq_div_iff (by positivity) (by positivity), pow_add,
      show Nat.pow 10 further = 10 ^ further from rfl]
    push_cast
    ring
  have sum : left.toRat + right.toRat =
      (left.mantissa * Nat.pow 10 (max left.scale right.scale - left.scale) +
        right.mantissa * Nat.pow 10 (max left.scale right.scale - right.scale) : Int) /
          10 ^ max left.scale right.scale := by
    rw [aligned (le_max_left left.scale right.scale), aligned (le_max_right left.scale right.scale),
      Int.cast_add, add_div]
  rw [sum] at represents ⊢
  exact lower?_exact short represents

/-- A decimal is negative exactly if its mantissa is. -/
theorem toRat_neg_iff {value : Decimal} : value.toRat < 0 ↔ value.mantissa < 0 := by
  have positive : (0 : ℚ) < 10 ^ value.scale := by positivity
  rw [toRat, div_lt_iff₀ positive, zero_mul]
  exact Int.cast_lt_zero

/-- Rounding a decimal to two places rounds its hundredths as a number. -/
theorem hundredths_eq (value : Decimal) : value.hundredths = nearestAway (100 * value.toRat) := by
  have positive : (0 : ℚ) < 10 ^ value.scale := by positivity
  have rounded : (roundQuotient .away (value.mantissa.natAbs * 100) (Nat.pow 10 value.scale) : ℤ) =
      round (100 * |value.toRat|) := by
    rw [show Nat.pow 10 value.scale = 10 ^ value.scale from rfl,
      roundQuotient_away (Nat.pow_pos (Nat.succ_pos 9)), toRat, abs_div, abs_of_pos positive]
    rw [Nat.cast_mul, Nat.cast_pow, Nat.cast_natAbs, Int.cast_abs, mul_comm, mul_div_assoc]
    rfl
  unfold hundredths nearestAway signed
  by_cases negative : value.mantissa < 0
  · have below : 100 * value.toRat < 0 := by linarith [toRat_neg_iff.mpr negative]
    rw [if_pos below, decide_eq_true negative, if_pos rfl, rounded,
      abs_of_neg (toRat_neg_iff.mpr negative), mul_neg]
  · have above : 0 ≤ value.toRat := not_lt.mp (toRat_neg_iff.not.mpr negative)
    have notBelow : ¬ 100 * value.toRat < 0 := by linarith
    rw [if_neg notBelow, decide_eq_false negative, if_neg Bool.false_ne_true, rounded,
      abs_of_nonneg above]

end Decimal

/-- A spelling denotes a whole number over a power of ten. -/
theorem Scientific.toRat_eq (spelled : Scientific) :
    spelled.toRat = ((spelled.digits * Nat.pow 10 spelled.exponent.toNat : ℕ) : ℚ) /
      10 ^ (-spelled.exponent).toNat := by
  rw [toRat, ten_zpow, Nat.cast_mul, ← mul_div_assoc,
    show Nat.pow 10 spelled.exponent.toNat = 10 ^ spelled.exponent.toNat from rfl, Nat.cast_pow]
  rfl

/-- The number that the shortest spelling of a finite value denotes. -/
def Binary64.denoted : Binary64 → ℚ
  | .finite negative units _ =>
    if negative then -(Scientific.shortest .away units).toRat
    else (Scientific.shortest .away units).toRat
  | _ => 0

namespace Decimal

/-- What a finite value denotes is a quotient of whole numbers. -/
theorem denoted_eq {negative : Bool} {units : Nat}
    (representable : Binary64.Representable units) :
    (Binary64.finite negative units representable).denoted =
      signed negative ((Scientific.shortest .away units).digits *
          Nat.pow 10 (Scientific.shortest .away units).exponent.toNat) /
        10 ^ (-(Scientific.shortest .away units).exponent).toNat := by
  rw [Binary64.denoted, signed_cast, Scientific.toRat_eq]
  split
  · rw [neg_div]
  · rfl

/-- A spelling that denotes a decimal is read as that decimal. -/
theorem ofSpelling?_exact {value : Binary64} (finite : value.isFinite = true)
    (represents : Represents value.denoted) :
    ∃ decimal, ofSpelling? value = some decimal ∧ decimal.toRat = value.denoted := by
  cases value with
  | infinite => cases finite
  | nan => cases finite
  | finite negative units representable =>
    have few := (Scientific.shortest_spec .away representable).2
    rw [denoted_eq] at represents ⊢
    rw [ofSpelling?]
    generalize Scientific.shortest .away units = spelled at few represents ⊢
    obtain ⟨digits, exponent⟩ := spelled
    dsimp only at few represents ⊢
    obtain ⟨dropped, rest, within, short, divided, small⟩ := represents.exists_dropped
    rw [natAbs_signed] at divided
    split
    · rename_i places
      refine make?_eq_some ?_ places
      rw [natAbs_signed]
      rcases le_total 0 exponent with whole | fraction
      · -- A whole number has no zeros to drop.
        have none : dropped = 0 := by omega
        rw [none, pow_zero, Nat.mul_one] at divided
        exact divided.trans_lt small
      · rw [Int.toNat_of_nonpos fraction]
        exact lt_of_le_of_lt (Nat.mul_one digits).le (few.trans_lt (by norm_num))
    · rename_i places
      obtain ⟨more, exceeds⟩ := Nat.exists_eq_add_of_le (Nat.le_of_not_le places)
      have unscaled : digits * Nat.pow 10 exponent.toNat = digits := by
        rw [show exponent.toNat = 0 by omega]
        exact Nat.mul_one digits
      rw [unscaled] at divided ⊢
      rw [exceeds] at short ⊢
      -- What is cut off beyond the last place of a decimal is zeros.
      obtain ⟨zeros, rfl⟩ := Nat.exists_eq_add_of_le (show more ≤ dropped by omega)
      have kept : digits = rest * 10 ^ zeros * 10 ^ more := by
        rw [divided, pow_add, Nat.mul_comm (10 ^ more), Nat.mul_assoc]
      have fits : (signed negative (rest * 10 ^ zeros)).natAbs < 2 ^ 96 := by
        have fewer : rest * 10 ^ zeros ≤ digits := by
          rw [kept]
          exact Nat.le_mul_of_pos_right _ (by positivity)
        rw [natAbs_signed]
        exact fewer.trans_lt (few.trans_lt (by norm_num))
      rw [Nat.add_sub_cancel_left, roundQuotient_dropped divided (Nat.le_add_right more zeros),
        Nat.add_sub_cancel_left]
      obtain ⟨decimal, made, same⟩ := make?_eq_some fits le_rfl
      refine ⟨decimal, made, same.trans ?_⟩
      rw [kept, signed_mul negative (rest * 10 ^ zeros), pow_add, Int.cast_mul]
      generalize signed negative (rest * 10 ^ zeros) = total
      push_cast
      field_simp

/-- Where a spelling is read, the significant bits are not asked. -/
theorem ofBinary64?_of_spelling {value : Binary64} {decimal : Decimal}
    (spelled : ofSpelling? value = some decimal) : ofBinary64? value = some decimal := by
  rw [ofBinary64?, spelled]

/-- A finite value whose spelling denotes a decimal becomes that decimal. -/
theorem ofBinary64?_exact {value : Binary64} (finite : value.isFinite = true)
    (represents : Represents value.denoted) :
    ∃ decimal, ofBinary64? value = some decimal ∧ decimal.toRat = value.denoted := by
  obtain ⟨decimal, spelled, same⟩ := ofSpelling?_exact finite represents
  exact ⟨decimal, ofBinary64?_of_spelling spelled, same⟩

end Decimal

end CampusQuery
