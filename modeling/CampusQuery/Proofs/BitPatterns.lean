import CampusQuery.Proofs.Spelling

/-!
# Numbers and their patterns of bits

A pattern of sixty-four bits is a sign, an exponent and a fraction side by side, and each of the
three is found again in the whole. The exponent of a finite value is the binary order of its
magnitude, and the fraction is what is left of the significant bits without the leading one, so
a number is read back from its pattern, and no two numbers have one pattern. Both zeros have a
pattern of their own.
-/

namespace CampusQuery

namespace Binary64

/-- A sign, an exponent and a fraction side by side. -/
def packed (negative : Bool) (exponent fraction : Nat) : Nat :=
  (if negative then Nat.pow 2 63 else 0) + exponent * Nat.pow 2 52 + fraction

variable {negative : Bool} {exponent fraction units : Nat}

/-- The three parts are found again side by side. -/
theorem packed_parts (exponentFits : exponent < Nat.pow 2 11)
    (fractionFits : fraction < Nat.pow 2 52) :
    decide (Nat.pow 2 63 ≤ packed negative exponent fraction) = negative ∧
      packed negative exponent fraction / Nat.pow 2 52 % Nat.pow 2 11 = exponent ∧
      packed negative exponent fraction % Nat.pow 2 52 = fraction := by
  simp only [packed, Nat.pow_eq] at *
  cases negative with
  | false =>
    simp only [Bool.false_eq_true, if_false, decide_eq_false_iff_not]
    omega
  | true =>
    simp only [if_true, decide_eq_true_eq]
    omega

/-- They fit into sixty-four bits. -/
theorem toNat_packed (exponentFits : exponent < Nat.pow 2 11)
    (fractionFits : fraction < Nat.pow 2 52) :
    (UInt64.ofNat (packed negative exponent fraction)).toNat =
      packed negative exponent fraction := by
  rw [UInt64.toNat_ofNat']
  apply Nat.mod_eq_of_lt
  simp only [packed, Nat.pow_eq] at *
  split <;> omega

/-- A pattern stands for what its parts say. -/
theorem ofBits_packed (exponentFits : exponent < Nat.pow 2 11)
    (fractionFits : fraction < Nat.pow 2 52) :
    ofBits (.ofNat (packed negative exponent fraction)) =
      if exponent = 2047 then
        if fraction = 0 then .infinite negative
        else .nan (.ofNat (packed negative exponent fraction))
      else if exponent = 0 then ofUnits negative fraction
      else ofUnits negative ((Nat.pow 2 52 + fraction) * Nat.pow 2 (exponent - 1)) := by
  obtain ⟨sign, middle, rest⟩ := @packed_parts negative _ _ exponentFits fractionFits
  unfold ofBits
  dsimp only
  rw [toNat_packed exponentFits fractionFits, sign, middle, rest]

/-- Below 2^52 units there is one unit between magnitudes. -/
theorem spacing_of_small (small : units < Nat.pow 2 52) : spacing units = 1 := by
  have order : units.log2 ≤ 52 := by
    by_cases zero : units = 0
    · subst zero
      decide
    · exact Nat.le_of_lt ((Nat.log2_lt zero).mpr small)
  rw [spacing, Nat.sub_eq_zero_of_le order]

/-- The binary order of a magnitude that is given by its fifty-three significant bits. -/
theorem log2_significant (fractionFits : fraction < Nat.pow 2 52) (shift : Nat) :
    ((Nat.pow 2 52 + fraction) * Nat.pow 2 shift).log2 = 52 + shift := by
  have fits : fraction < 2 ^ 52 := fractionFits
  have positive : 0 < 2 ^ shift := Nat.two_pow_pos shift
  have nonzero : (2 ^ 52 + fraction) * 2 ^ shift ≠ 0 := Nat.mul_ne_zero (by omega) positive.ne'
  refine (Nat.log2_eq_iff nonzero).mpr ⟨?_, ?_⟩
  · rw [Nat.pow_add]
    exact Nat.mul_le_mul_right _ (Nat.le_add_right _ _)
  · rw [Nat.add_right_comm, Nat.pow_add]
    exact Nat.mul_lt_mul_of_pos_right (by omega) positive

/-- A finite magnitude from 2^52 units on is given by fifty-three significant bits. -/
theorem Representable.exists_significant (representable : Representable units)
    (large : Nat.pow 2 52 ≤ units) :
    ∃ fraction shift, fraction < Nat.pow 2 52 ∧ shift ≤ 2045 ∧
      units = (Nat.pow 2 52 + fraction) * Nat.pow 2 shift := by
  have nonzero : units ≠ 0 := (Nat.lt_of_lt_of_le (Nat.two_pow_pos 52) large).ne'
  have least : 52 ≤ units.log2 := (Nat.le_log2 nonzero).mpr large
  have most : units.log2 < 2098 := by
    have below := representable.1
    unfold limit at below
    generalize 2098 = top at below ⊢
    exact (Nat.log2_lt nonzero).mpr below
  obtain ⟨multiple, exact⟩ := representable.2
  have positive : 0 < spacing units := Nat.two_pow_pos _
  have lower : 2 ^ 52 ≤ multiple := by
    refine Nat.le_of_mul_le_mul_left ?_ positive
    calc spacing units * 2 ^ 52 = 2 ^ (units.log2 - 52 + 52) := (Nat.pow_add 2 _ 52).symm
      _ = 2 ^ units.log2 := by rw [Nat.sub_add_cancel least]
      _ ≤ units := Nat.log2_self_le nonzero
      _ = spacing units * multiple := exact
  have upper : multiple < 2 ^ 53 := by
    refine Nat.lt_of_mul_lt_mul_left (a := spacing units) ?_
    calc spacing units * multiple = units := exact.symm
      _ < 2 ^ 53 * spacing units := lt_spacing units
      _ = spacing units * 2 ^ 53 := Nat.mul_comm _ _
  refine ⟨multiple - 2 ^ 52, units.log2 - 52, ?_, by omega, ?_⟩
  · rw [Nat.pow_eq]
    omega
  · rw [Nat.pow_eq, Nat.add_sub_cancel' lower, Nat.mul_comm]
    exact exact

/-- The pattern of a magnitude below 2^52 units has no exponent. -/
theorem toBits_small (representable : Representable units) (small : units < Nat.pow 2 52) :
    (finite negative units representable).toBits = .ofNat (packed negative 0 units) := by
  simp only [toBits, packed, if_pos small, spacing_of_small small, Nat.div_one,
    Nat.mod_eq_of_lt small]

/-- The pattern of any other magnitude counts how far its significant bits are shifted. -/
theorem toBits_significant {shift : Nat} (fractionFits : fraction < Nat.pow 2 52)
    (representable : Representable ((Nat.pow 2 52 + fraction) * Nat.pow 2 shift)) :
    (finite negative _ representable).toBits = .ofNat (packed negative (shift + 1) fraction) := by
  have positive : 0 < Nat.pow 2 shift := Nat.two_pow_pos shift
  have large : ¬(Nat.pow 2 52 + fraction) * Nat.pow 2 shift < Nat.pow 2 52 := by
    have grows := Nat.le_mul_of_pos_right (Nat.pow 2 52 + fraction) positive
    omega
  have exponent : 52 + shift - 51 = shift + 1 := by omega
  have trailing : (Nat.pow 2 52 + fraction) * Nat.pow 2 shift / Nat.pow 2 shift % Nat.pow 2 52 =
      fraction := by
    rw [Nat.mul_div_cancel _ positive, Nat.add_mod_left, Nat.mod_eq_of_lt fractionFits]
  simp only [toBits, packed, if_neg large, spacing, log2_significant fractionFits, exponent,
    Nat.add_sub_cancel_left, trailing]

/-- A number is what its pattern stands for. -/
theorem ofBits_toBits {value : Binary64} {place : Int} (stands : value.position? = some place) :
    ofBits value.toBits = value := by
  cases value with
  | nan => cases stands
  | infinite negative =>
    have parts : (infinite negative).toBits = .ofNat (packed negative 2047 0) := rfl
    rw [parts, ofBits_packed (by decide) (by decide), if_pos rfl, if_pos rfl]
  | finite negative units representable =>
    by_cases small : units < Nat.pow 2 52
    · rw [toBits_small representable small, ofBits_packed (by decide) small, if_neg (by decide),
        if_pos rfl, ofUnits, dif_pos representable]
    · obtain ⟨fraction, shift, fractionFits, low, rfl⟩ :=
        representable.exists_significant (Nat.le_of_not_lt small)
      have exponentFits : shift + 1 < Nat.pow 2 11 := by
        rw [Nat.pow_eq]
        omega
      rw [toBits_significant fractionFits, ofBits_packed exponentFits fractionFits,
        if_neg (by omega), if_neg (Nat.succ_ne_zero shift), Nat.add_sub_cancel, ofUnits,
        dif_pos representable]

end Binary64

end CampusQuery
