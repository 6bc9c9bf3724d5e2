import Mathlib.Data.List.Infix
import CampusQuery.Proofs.Decimals

/-!
# Sums

A sum of finite values is rounded once, at its end, as long as what the values denote and all
partial sums of these are decimals. Such a sum is the exact one in hundredths, so any two orders
of the values give it. The order matters only beyond that: where a partial total needs more
digits than a decimal has, it is rounded on the way, and where it is out of range the values are
added in binary, which depends on the order unless every partial total is exact there.
-/

namespace CampusQuery

namespace Decimal

/-- A number is a decimal if it is a whole number below 2^96 in magnitude at one of the scales. -/
theorem represents_iff {number : ℚ} :
    Represents number ↔ ∃ scale ∈ List.range 29,
      (number * 10 ^ scale).den = 1 ∧ (number * 10 ^ scale).num.natAbs < 2 ^ 96 := by
  constructor
  · rintro ⟨value, rfl⟩
    have whole : value.toRat * 10 ^ value.scale = value.mantissa :=
      div_mul_cancel₀ _ (by positivity)
    refine ⟨value.scale, List.mem_range.mpr (Nat.lt_succ_of_le value.scale_small), ?_⟩
    rw [whole]
    exact ⟨Rat.den_intCast _, value.mantissa_small⟩
  · rintro ⟨scale, short, whole, small⟩
    refine ⟨⟨(number * 10 ^ scale).num, scale, small,
      Nat.le_of_lt_succ (List.mem_range.mp short)⟩, ?_⟩
    rw [toRat, Rat.coe_int_num_of_den_eq_one whole]
    exact mul_div_cancel_right₀ _ (by positivity)

instance : DecidablePred Represents := fun _ => decidable_of_iff _ represents_iff.symm

end Decimal

namespace Binary64

open Decimal (Represents)

/-- Finite values that add up as decimals without rounding: what each of them denotes is a
decimal, and so is the sum of any first ones. -/
structure AddsUp (values : List Binary64) : Prop where
  finite : ∀ value ∈ values, value.isFinite = true
  decimal : ∀ value ∈ values, Represents value.denoted
  partials : ∀ front ∈ values.inits, Represents (front.map denoted).sum

instance : DecidablePred AddsUp := fun values =>
  decidable_of_iff ((∀ value ∈ values, value.isFinite = true) ∧
      (∀ value ∈ values, Represents value.denoted) ∧
      ∀ front ∈ values.inits, Represents (front.map denoted).sum)
    ⟨fun ⟨each, decimal, partials⟩ => ⟨each, decimal, partials⟩,
      fun ⟨each, decimal, partials⟩ => ⟨each, decimal, partials⟩⟩

/-- A last value is added to the total of those before it. -/
theorem decimalTotal?_append_singleton (values : List Binary64) (value : Binary64) :
    decimalTotal? (values ++ [value]) =
      (decimalTotal? values).bind fun total => (Decimal.ofBinary64? value).bind total.add? := by
  rw [decimalTotal?, decimalTotal?, List.foldlM_append]
  simp only [List.foldlM_cons, List.foldlM_nil, bind_pure]
  rfl

/-- What begins a list begins every longer one. -/
theorem inits_append_singleton {α : Type} {values : List α} {value : α} {front : List α}
    (initial : front ∈ values.inits) : front ∈ (values ++ [value]).inits := by
  rw [List.mem_inits] at initial ⊢
  exact initial.trans (List.prefix_append _ _)

/-- The decimal total of such values is their sum. -/
theorem AddsUp.decimalTotal?_exact {values : List Binary64} (addsUp : AddsUp values) :
    ∃ total, decimalTotal? values = some total ∧ total.toRat = (values.map denoted).sum := by
  obtain ⟨finite, decimal, partials⟩ := addsUp
  induction values using List.reverseRecOn with
  | nil => exact ⟨.zero, rfl, by simp [Decimal.toRat, Decimal.zero]⟩
  | append_singleton values value inductionHypothesis =>
    obtain ⟨total, totaled, same⟩ := inductionHypothesis
      (fun other member => finite other (List.mem_append_left _ member))
      (fun other member => decimal other (List.mem_append_left _ member))
      (fun front initial => partials front (inits_append_singleton initial))
    have last : value ∈ values ++ [value] := List.mem_append_right _ (List.mem_singleton_self _)
    obtain ⟨addend, converted, denotes⟩ :=
      Decimal.ofBinary64?_exact (finite value last) (decimal value last)
    have whole := partials _ ((List.mem_inits _ _).mpr List.prefix_rfl)
    have split : ((values ++ [value]).map denoted).sum = total.toRat + addend.toRat := by
      rw [List.map_append, List.sum_append, same, denotes, List.map_singleton, List.sum_singleton]
    rw [split] at whole ⊢
    obtain ⟨next, added, exact⟩ := Decimal.add?_exact whole
    refine ⟨next, ?_, exact⟩
    rw [decimalTotal?_append_singleton, totaled, Option.bind_some, converted, Option.bind_some,
      added]

/-- The sum of such values is their exact sum, rounded once. -/
theorem AddsUp.sum_eq {values : List Binary64} (addsUp : AddsUp values) :
    sum values = ofHundredths (nearestAway (100 * (values.map denoted).sum)) := by
  obtain ⟨total, totaled, same⟩ := addsUp.decimalTotal?_exact
  rw [sum, totaled]
  dsimp only
  rw [total.hundredths_eq, same]

/-- A sum of finite values is exact where what they denote and all its partial sums are decimals:
the decimal total is the sum of what they denote, and its nearest hundredths, ties going away from
zero, are the result. -/
theorem sum_exact {values : List Binary64} (addsUp : AddsUp values) :
    (∃ total, decimalTotal? values = some total ∧ total.toRat = (values.map denoted).sum) ∧
      sum values = ofHundredths (nearestAway (100 * (values.map denoted).sum)) :=
  ⟨addsUp.decimalTotal?_exact, addsUp.sum_eq⟩

/-- A loss of half a cent counts as a whole one: 1.005 and -2.01 make -1.005, and that -1.01. -/
theorem half_cent_lost :
    AddsUp [ofDecimal false 1005 (-3), ofDecimal true 201 (-2)] ∧
      sum [ofDecimal false 1005 (-3), ofDecimal true 201 (-2)] = ofHundredths (-101) := by
  have addsUp : AddsUp [ofDecimal false 1005 (-3), ofDecimal true 201 (-2)] := by decide +kernel
  have cents : nearestAway
      (100 * ([ofDecimal false 1005 (-3), ofDecimal true 201 (-2)].map denoted).sum) = -101 := by
    decide +kernel
  obtain ⟨-, rounded⟩ := sum_exact addsUp
  rw [cents] at rounded
  exact ⟨addsUp, rounded⟩

/-- Finite values that are all written with so many places, and whose magnitudes at that scale
together stay within a decimal. -/
structure Fits (scale : Nat) (values : List Binary64) : Prop where
  finite : ∀ value ∈ values, value.isFinite = true
  short : scale ≤ 28
  whole : ∀ value ∈ values, (value.denoted * 10 ^ scale).den = 1
  small : (values.map fun value => |value.denoted|).sum * 10 ^ scale < 2 ^ 96

instance (scale : Nat) : DecidablePred (Fits scale) := fun values =>
  decidable_of_iff ((∀ value ∈ values, value.isFinite = true) ∧ scale ≤ 28 ∧
      (∀ value ∈ values, (value.denoted * 10 ^ scale).den = 1) ∧
      (values.map fun value => |value.denoted|).sum * 10 ^ scale < 2 ^ 96)
    ⟨fun ⟨each, short, whole, small⟩ => ⟨each, short, whole, small⟩,
      fun ⟨each, short, whole, small⟩ => ⟨each, short, whole, small⟩⟩

/-- Values that are written with so many places add up to a number of so many places. -/
theorem exists_count {scale : Nat} {values : List Binary64}
    (whole : ∀ value ∈ values, (value.denoted * 10 ^ scale).den = 1) :
    ∃ count : ℤ, (values.map denoted).sum * 10 ^ scale = count := by
  induction values with
  | nil => exact ⟨0, by simp⟩
  | cons value rest inductionHypothesis =>
    obtain ⟨first, others⟩ := List.forall_mem_cons.mp whole
    obtain ⟨count, counted⟩ := inductionHypothesis others
    refine ⟨(value.denoted * 10 ^ scale).num + count, ?_⟩
    rw [List.map_cons, List.sum_cons, add_mul, counted, Int.cast_add,
      Rat.coe_int_num_of_den_eq_one first]

/-- Any part of these values adds up to a decimal. -/
theorem Fits.represents {scale : Nat} {values part : List Binary64} (fits : Fits scale values)
    (sublist : part.Sublist values) : Represents (part.map denoted).sum := by
  obtain ⟨-, short, whole, small⟩ := fits
  obtain ⟨count, counted⟩ := exists_count fun value member => whole value (sublist.subset member)
  have bounded : |(part.map denoted).sum| ≤ (values.map fun value => |value.denoted|).sum := by
    clear whole small counted
    induction sublist with
    | slnil => simp
    | cons value _ inductionHypothesis =>
      rw [List.map_cons, List.sum_cons]
      exact inductionHypothesis.trans (le_add_of_nonneg_left (abs_nonneg _))
    | cons_cons value _ inductionHypothesis =>
      rw [List.map_cons, List.sum_cons, List.map_cons, List.sum_cons]
      exact (abs_add_le _ _).trans (by gcongr)
  have positive : (0 : ℚ) < 10 ^ scale := by positivity
  have few : count.natAbs < 2 ^ 96 := by
    have below : |(part.map denoted).sum| * 10 ^ scale < 2 ^ 96 :=
      lt_of_le_of_lt (mul_le_mul_of_nonneg_right bounded positive.le) small
    rw [← abs_of_pos positive, ← abs_mul, counted, ← Int.cast_abs, Int.abs_eq_natAbs] at below
    exact_mod_cast below
  refine ⟨⟨count, scale, few, short⟩, ?_⟩
  rw [Decimal.toRat, ← counted]
  exact mul_div_cancel_right₀ _ positive.ne'

/-- Values that fit at a scale add up. -/
theorem Fits.addsUp {scale : Nat} {values : List Binary64} (fits : Fits scale values) :
    AddsUp values := by
  refine ⟨fits.finite, fun value member => ?_, fun front initial => ?_⟩
  · have single := fits.represents (List.singleton_sublist.mpr member)
    rwa [List.map_singleton, List.sum_singleton] at single
  · exact fits.represents ((List.mem_inits _ _).mp initial).sublist

/-- Values that fit at a scale do so in any sequence. -/
theorem Fits.perm {scale : Nat} {left right : List Binary64} (fits : Fits scale left)
    (permuted : left.Perm right) : Fits scale right where
  finite value member := fits.finite value (permuted.mem_iff.mpr member)
  short := fits.short
  whole value member := fits.whole value (permuted.mem_iff.mpr member)
  small := by
    rw [← (permuted.map _).sum_eq]
    exact fits.small

/-- Where a value stands, in units; what is not a number is put at zero. -/
def place (value : Binary64) : ℤ := value.position?.getD 0

/-- Finite values that are added in binary, and there without rounding: they have no decimal
total, and the sum of any first ones is the magnitude of a finite value. -/
structure AddsUpInBinary (values : List Binary64) : Prop where
  finite : ∀ value ∈ values, value.isFinite = true
  beyond : decimalTotal? values = none
  partials : ∀ front ∈ values.inits, Representable (front.map place).sum.natAbs

instance : DecidablePred AddsUpInBinary := fun values =>
  decidable_of_iff ((∀ value ∈ values, value.isFinite = true) ∧ decimalTotal? values = none ∧
      ∀ front ∈ values.inits, Representable (front.map place).sum.natAbs)
    ⟨fun ⟨each, beyond, partials⟩ => ⟨each, beyond, partials⟩,
      fun ⟨each, beyond, partials⟩ => ⟨each, beyond, partials⟩⟩

/-- A sum that is a magnitude of a finite value is the result of adding. -/
theorem add_exact {left right : Binary64} (leftFinite : left.isFinite = true)
    (rightFinite : right.isFinite = true)
    (representable : Representable (left.place + right.place).natAbs) :
    (left.add right).isFinite = true ∧ (left.add right).place = left.place + right.place := by
  cases left with
  | infinite => cases leftFinite
  | nan => cases leftFinite
  | finite leftNegative leftUnits leftRepresentable =>
    cases right with
    | infinite => cases rightFinite
    | nan => cases rightFinite
    | finite rightNegative rightUnits rightRepresentable =>
      simp only [place, position?, Option.getD_some] at representable ⊢
      rw [add]
      generalize (if leftNegative = true then -(leftUnits : ℤ) else leftUnits) +
        (if rightNegative = true then -(rightUnits : ℤ) else rightUnits) = total
        at representable ⊢
      split
      · rename_i nothing
        subst nothing
        rw [ofUnits, dif_pos (show Representable 0 from representable)]
        exact ⟨rfl, by cases leftNegative && rightNegative <;> rfl⟩
      · rw [ofRatio_one _ representable]
        refine ⟨rfl, ?_⟩
        exact Decimal.signed_natAbs total

/-- A last value is added to the binary total of those before it. -/
theorem binaryTotal_append_singleton (values : List Binary64) (value : Binary64) :
    binaryTotal (values ++ [value]) = (binaryTotal values).add value := by
  rw [binaryTotal, List.foldl_append]
  rfl

/-- The binary total of such values is their sum. -/
theorem AddsUpInBinary.binaryTotal_exact {values : List Binary64} (addsUp : AddsUpInBinary values) :
    (binaryTotal values).isFinite = true ∧
      (binaryTotal values).place = (values.map place).sum := by
  obtain ⟨finite, -, partials⟩ := addsUp
  induction values using List.reverseRecOn with
  | nil =>
    have nothing : Representable 0 := partials [] (List.mem_singleton_self _)
    rw [binaryTotal, List.foldl_nil, zero, ofUnits, dif_pos nothing]
    exact ⟨rfl, rfl⟩
  | append_singleton values value inductionHypothesis =>
    obtain ⟨totalFinite, same⟩ := inductionHypothesis
      (fun other member => finite other (List.mem_append_left _ member))
      (fun front initial => partials front (inits_append_singleton initial))
    have whole := partials _ ((List.mem_inits _ _).mpr List.prefix_rfl)
    have split : ((values ++ [value]).map place).sum =
        (binaryTotal values).place + value.place := by
      rw [List.map_append, List.sum_append, same, List.map_singleton, List.sum_singleton]
    rw [split] at whole ⊢
    rw [binaryTotal_append_singleton]
    exact add_exact totalFinite (finite value (by simp)) whole

/-- The sign of a zero does not survive rounding. -/
theorem roundToHundredths_identity (value : Binary64) :
    value.identity.roundToHundredths = value.roundToHundredths := by
  cases value with
  | infinite => rfl
  | nan => rfl
  | finite negative units representable =>
    cases units with
    | zero =>
      have nothing : roundQuotient .away (0 * 100) one = 0 := by
        have whole := roundQuotient_mul .away 0 one one_pos
        rwa [Nat.zero_mul] at whole ⊢
      have unsigned (sign : Bool) : Decimal.signed sign 0 = 0 := by cases sign <;> rfl
      have below : 0 < Nat.pow 2 96 * one := Nat.mul_pos (Nat.pow_pos (by decide)) one_pos
      simp only [identity, roundToHundredths, nothing, unsigned]
      rw [if_pos below, if_pos below]
    | succ units =>
      have kept : (negative && units + 1 != 0) = negative := by simp
      simp only [identity, kept]

/-- Finite values at one place are rounded alike, whatever the sign of a zero. -/
theorem roundToHundredths_of_place {left right : Binary64} (leftFinite : left.isFinite = true)
    (rightFinite : right.isFinite = true) (same : left.place = right.place) :
    left.roundToHundredths = right.roundToHundredths := by
  obtain ⟨leftPlace, leftStands⟩ := position?_of_isFinite leftFinite
  obtain ⟨rightPlace, rightStands⟩ := position?_of_isFinite rightFinite
  rw [place, place, leftStands, rightStands, Option.getD_some, Option.getD_some] at same
  subst same
  rw [← left.roundToHundredths_identity, identity_eq_of_place leftStands rightStands,
    right.roundToHundredths_identity]

/-- The sum of values does not depend on their order where adding them up is exact: as decimals
in both orders, or in binary in both; or as decimals that fit together, and then in any order. -/
theorem sum_perm {left right : List Binary64} (permuted : left.Perm right) :
    (AddsUp left → AddsUp right → sum left = sum right) ∧
      (∀ scale, Fits scale left → sum left = sum right) ∧
      (AddsUpInBinary left → AddsUpInBinary right → sum left = sum right) := by
  have byDecimals (leftAdds : AddsUp left) (rightAdds : AddsUp right) : sum left = sum right := by
    rw [leftAdds.sum_eq, rightAdds.sum_eq, (permuted.map denoted).sum_eq]
  refine ⟨byDecimals, fun scale fits => ?_, fun leftAdds rightAdds => ?_⟩
  · exact byDecimals fits.addsUp (fits.perm permuted).addsUp
  · obtain ⟨leftFinite, leftPlace⟩ := leftAdds.binaryTotal_exact
    obtain ⟨rightFinite, rightPlace⟩ := rightAdds.binaryTotal_exact
    rw [sum, leftAdds.beyond, sum, rightAdds.beyond]
    apply roundToHundredths_of_place leftFinite rightFinite
    rw [leftPlace, rightPlace, (permuted.map place).sum_eq]

/-- The sum hangs on the order of the values where a partial total is added in binary and loses
a small value, and where it is a decimal that has no room for the tenths of one. -/
theorem sum_ordered :
    let large := ofDecimal false 1 30
    let largeDebt := ofDecimal true 1 30
    let wide := ofDecimal false 5 28
    let wideDebt := ofDecimal true 5 28
    let tenths := ofDecimal false 4 (-1)
    ((∀ value ∈ [large, ofInt 1, largeDebt], value.isFinite = true) ∧
      [large, ofInt 1, largeDebt].Perm [large, largeDebt, ofInt 1] ∧
      sum [large, ofInt 1, largeDebt] = ofInt 0 ∧
      sum [large, largeDebt, ofInt 1] = ofInt 1) ∧
    (∀ value ∈ [wide, tenths, wideDebt], value.isFinite = true) ∧
      [wide, tenths, wideDebt].Perm [wide, wideDebt, tenths] ∧
      sum [wide, tenths, wideDebt] = ofInt 0 ∧
      sum [wide, wideDebt, tenths] = tenths := by
  decide +kernel

/-- Cents that fit together, and large values that are exact in binary, in two orders each. -/
theorem sums_rearranged :
    sum [ofDecimal false 1005 (-3), ofDecimal true 201 (-2)] =
        sum [ofDecimal true 201 (-2), ofDecimal false 1005 (-3)] ∧
      sum [ofDecimal false 1 30, ofDecimal true 1 30, ofInt 1] =
        sum [ofDecimal true 1 30, ofDecimal false 1 30, ofInt 1] :=
  ⟨(sum_perm (.swap _ _ [])).2.1 3 (by decide +kernel),
    (sum_perm (.swap _ _ [ofInt 1])).2.2 (by decide +kernel) (by decide +kernel)⟩

end Binary64

end CampusQuery
