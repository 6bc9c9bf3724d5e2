import CampusQuery.Proofs.BitPatterns
import CampusQuery.Proofs.NumberTexts

/-!
# Numbers told apart

Grouping tells numbers apart by their bits, where either zero counts as the one without a sign. A
condition tells them apart by where they stand. A reader of a result sees what is written for them:
a whole number without a fraction up to a bound, and the value itself from there on. Finite numbers
are told apart alike by all three. Up to the bound every whole number is a value, so it is written
as the number that it is and read as no other; beyond the bound nothing is written without a
fraction, so no number has two forms. The one number with two patterns is zero, and it is written
as a whole number, which has no sign to show.
-/

namespace CampusQuery

namespace Binary64

/-- Zero has no units and no sign. -/
theorem zero_eq : zero = .finite false 0 ⟨limit_pos, Nat.dvd_zero _⟩ := by
  rw [zero, ofUnits, dif_pos ⟨limit_pos, Nat.dvd_zero _⟩]

/-- Zero stands at zero. -/
theorem zero_stands : zero.position? = some 0 := by
  rw [zero_eq]
  rfl

/-- Away from zero a number is its own identity. -/
theorem identity_eq_self {number : Binary64} (nonzero : number.position? ≠ some 0) :
    number.identity = number := by
  cases number with
  | infinite => rfl
  | nan => rfl
  | finite negative units representable =>
    have away : units ≠ 0 := by
      rintro rfl
      exact nonzero (by cases negative <;> rfl)
    simp [identity, away]

/-- The pattern by which a number is told apart from others: its own, but for either zero the
pattern of the zero without a sign. -/
def foldedBits (number : Binary64) : UInt64 :=
  if number.compare? zero = some .eq then zero.toBits else number.toBits

/-- This is the pattern of the number under which it is grouped and counted. -/
theorem foldedBits_eq (number : Binary64) : number.foldedBits = number.identity.toBits := by
  unfold foldedBits
  split
  · rename_i equal
    rw [(compare?_eq_iff_identity zero_stands).mp equal, zero_eq]
    rfl
  · rename_i different
    have nonzero : number.position? ≠ some 0 := fun stands =>
      different ((compare?_eq_iff_identity zero_stands).mpr
        (identity_eq_of_place stands zero_stands))
    rw [identity_eq_self nonzero]

/-- Numbers have one such pattern exactly when grouping takes them for one. -/
theorem foldedBits_eq_iff {left right : Binary64} {leftPlace rightPlace : Int}
    (leftStands : left.position? = some leftPlace)
    (rightStands : right.position? = some rightPlace) :
    left.foldedBits = right.foldedBits ↔ left.identity = right.identity := by
  rw [foldedBits_eq, foldedBits_eq]
  constructor
  · intro same
    rw [← ofBits_toBits (left.position?_identity.trans leftStands), same,
      ofBits_toBits (right.position?_identity.trans rightStands)]
  · exact congrArg toBits

/-- A finite value is a whole number exactly when it stands at a multiple of one. -/
theorem toInt?_eq_some_iff {number : Binary64} (finite : number.isFinite = true) {whole : Int} :
    number.toInt? = some whole ↔ number.position? = some (whole * one) := by
  cases number with
  | infinite => cases finite
  | nan => cases finite
  | finite negative units representable =>
    change (if units % one = 0 then some (Decimal.signed negative (units / one)) else none) =
      some whole ↔ some (Decimal.signed negative units) = some (whole * one)
    -- Only that there is a unit matters, and the power is not computed.
    have positive := one_pos
    generalize one = unit at positive ⊢
    constructor
    · intro found
      split at found
      · rename_i divides
        have exact : units / unit * unit = units :=
          Nat.div_mul_cancel (Nat.dvd_of_mod_eq_zero divides)
        rw [← Option.some.inj found, ← Decimal.signed_mul, exact]
      · cases found
    · intro stands
      have place := Option.some.inj stands
      have exact : units = whole.natAbs * unit := by
        rw [← Decimal.natAbs_signed negative units, place, Int.natAbs_mul, Int.natAbs_natCast]
      rw [exact, Decimal.signed_mul] at place
      rw [exact, if_pos (Nat.mul_mod_left _ _), Nat.mul_div_cancel _ positive,
        Int.eq_of_mul_eq_mul_right (Int.natCast_ne_zero.mpr positive.ne') place]

/-- No whole number up to the bound has a zero with a sign for its value. -/
theorem identity_ofInt {whole : Int} (small : whole.natAbs ≤ Numeral.largestExact) :
    (ofInt whole).identity = ofInt whole := by
  rw [ofInt, ofRatio_one _ (representable_mul_one small)]
  by_cases zero : whole = 0
  · subst zero
    rfl
  · have nonzero : whole.natAbs * one ≠ 0 :=
      Nat.mul_ne_zero (Int.natAbs_ne_zero.mpr zero) one_pos.ne'
    simp [identity, nonzero]

/-- A finite number is equal to its identity. -/
theorem compare?_identity {number : Binary64} (finite : number.isFinite = true) :
    number.identity.compare? number = some .eq := by
  obtain ⟨place, stands⟩ := position?_of_isFinite finite
  rw [compare?_eq_iff_position? stands, number.position?_identity]

end Binary64

namespace Numeral

open Binary64

/-- Where the number that a numeral denotes stands, in units. Nothing is rounded. -/
def position? : Numeral → Option Int
  | .integer value => some (value * one)
  | .real value => value.position?

/-- Two numerals are one JSON value if both are written without a fraction and are one whole
number, or both are values and compare as equal. -/
def Equals : Numeral → Numeral → Prop
  | .integer left, .integer right => left = right
  | .real left, .real right => left.compare? right = some .eq
  | _, _ => False

/-- A numeral that can be written is one JSON value with itself. -/
theorem Legible.equals {numeral : Numeral} (legible : numeral.Legible) :
    numeral.Equals numeral := by
  cases numeral with
  | integer value => rfl
  | real value =>
    obtain ⟨place, stands⟩ := position?_of_isFinite legible
    exact (compare?_eq_iff_position? stands).mpr rfl

/-- Numerals that are one JSON value denote one number. -/
theorem Equals.position?_eq {left right : Numeral} (rightLegible : right.Legible)
    (equal : left.Equals right) : left.position? = right.position? := by
  cases left with
  | integer left =>
    cases right with
    | integer right => exact congrArg position? (congrArg integer equal)
    | real right => exact equal.elim
  | real left =>
    cases right with
    | integer right => exact equal.elim
    | real right =>
      obtain ⟨place, stands⟩ := position?_of_isFinite rightLegible
      exact (compare?_eq_iff_position? stands).mp equal

/-- No two numerals that can be written have one text. -/
theorem eq_of_spell_eq {left right : Numeral} (leftLegible : left.Legible)
    (rightLegible : right.Legible) (same : left.spell = right.spell) : left = right := by
  rcases left.exists_written with ⟨-, unwritten, -⟩ | ⟨leftNumber, leftText, leftForm, leftRead, -⟩
  · exact absurd leftLegible unwritten
  · rcases right.exists_written with
      ⟨-, unwritten, -⟩ | ⟨rightNumber, rightText, rightForm, rightRead, -⟩
    · exact absurd rightLegible unwritten
    · have stops : Stops [] := fun character front => by cases front
      have leftBack := Written.readNumber_spell leftForm stops
      have rightBack := Written.readNumber_spell rightForm stops
      rw [leftText, same, ← rightText, rightBack] at leftBack
      obtain rfl : rightNumber = leftNumber := congrArg Prod.fst (Option.some.inj leftBack)
      exact Option.some.inj ((leftRead leftLegible).symm.trans (rightRead rightLegible))

/-- A whole number up to the bound has few enough bits. -/
theorem holds_of_small {whole : Int} (small : whole.natAbs ≤ largestExact) :
    holds whole = true := by
  have bounded : whole.natAbs ≤ 9007199254740991 := small
  rw [holds, Bool.and_eq_true, decide_eq_true_eq, decide_eq_true_eq]
  norm_num
  omega

/-- A whole number up to the bound is written without a fraction. -/
theorem ofBinary64?_of_whole {number : Binary64} {whole : Int}
    (found : number.toInt? = some whole) (small : whole.natAbs ≤ largestExact) :
    ofBinary64? number = some (.integer whole) := by
  simp only [ofBinary64?, found, if_pos small]

/-- Every other finite value is written as it is. -/
theorem ofBinary64?_of_other {number : Binary64} (finite : number.isFinite = true)
    (other : ∀ whole, number.toInt? = some whole → ¬whole.natAbs ≤ largestExact) :
    ofBinary64? number = some (.real number) := by
  unfold ofBinary64?
  cases found : number.toInt? with
  | none => exact if_pos finite
  | some whole => exact if_neg (other whole found)

end Numeral

namespace Binary64

/-- The numeral is what a number is shown as, and it keeps the number. -/
structure IsShownAs (number : Binary64) (numeral : Numeral) : Prop where
  /-- The number is shown as a JSON number. -/
  shown : (Value.number number).toJson = .number numeral
  /-- The JSON number can be written, so it is not replaced by null. -/
  legible : numeral.Legible
  /-- Read as a value, it is the number but for the sign of a zero. -/
  read : numeral.toBinary64 = number.identity
  /-- So it is read as a value that is equal to the number. -/
  equal : numeral.toBinary64.compare? number = some .eq
  /-- What it denotes is the number, without any rounding. -/
  denotes : numeral.position? = number.position?
  /-- It has no fraction exactly where the number is whole and not beyond the bound. -/
  whole_iff : (∃ value, numeral = .integer value) ↔
    ∃ value : Int, number.position? = some (value * one) ∧ value.natAbs ≤ 9007199254740991

/-- A whole number up to the bound is shown without a fraction. -/
theorem isShownAs_integer {number : Binary64} (finite : number.isFinite = true) {whole : Int}
    (found : number.toInt? = some whole) (small : whole.natAbs ≤ Numeral.largestExact) :
    number.IsShownAs (.integer whole) := by
  have position := (toInt?_eq_some_iff finite).mp found
  have read : (Numeral.integer whole).toBinary64 = number.identity := by
    rw [← identity_eq_of_place ((position?_ofInt found).trans position) position]
    exact (identity_ofInt small).symm
  refine ⟨?_, Numeral.holds_of_small small, read, ?_, position.symm, ?_⟩
  · rw [Value.toJson, Json.ofBinary64, Numeral.ofBinary64?_of_whole found small]
  · rw [read, compare?_identity finite]
  · exact iff_of_true ⟨whole, rfl⟩ ⟨whole, position, small⟩

/-- Every other finite number is shown as the value that it is. Zero is not among them, so there is
no sign to lose. -/
theorem isShownAs_real {number : Binary64} (finite : number.isFinite = true)
    (other : ∀ whole, number.toInt? = some whole → ¬whole.natAbs ≤ Numeral.largestExact) :
    number.IsShownAs (.real number) := by
  have nonzero : number.position? ≠ some 0 := by
    intro zero
    have found : number.toInt? = some 0 := by
      rw [toInt?_eq_some_iff finite, Int.zero_mul, zero]
    exact other 0 found (Nat.zero_le _)
  have read : (Numeral.real number).toBinary64 = number.identity :=
    (identity_eq_self nonzero).symm
  refine ⟨?_, finite, read, ?_, rfl, ?_⟩
  · rw [Value.toJson, Json.ofBinary64, Numeral.ofBinary64?_of_other finite other]
  · rw [read, compare?_identity finite]
  · constructor
    · rintro ⟨value, same⟩
      cases same
    · rintro ⟨whole, position, small⟩
      exact absurd small (other whole ((toInt?_eq_some_iff finite).mpr position))

/-- Every finite number is shown as a JSON number. -/
theorem exists_isShownAs {number : Binary64} (finite : number.isFinite = true) :
    ∃ numeral, number.IsShownAs numeral := by
  by_cases bounded : ∃ whole, number.toInt? = some whole ∧ whole.natAbs ≤ Numeral.largestExact
  · obtain ⟨whole, found, small⟩ := bounded
    exact ⟨.integer whole, isShownAs_integer finite found small⟩
  · exact ⟨.real number, isShownAs_real finite fun whole found small =>
      bounded ⟨whole, found, small⟩⟩

/-- Finite numbers are shown as JSON numbers that are read as values equal to them, and two of them
are shown alike exactly when they are grouped together, and exactly when they are equal. This holds
of the JSON numbers themselves, of their equality as JSON values, which tells a whole number from a
value with a fraction, of the numbers that they denote in either form, and of their texts. -/
theorem shown_as_grouped {left right : Binary64} (leftFinite : left.isFinite = true)
    (rightFinite : right.isFinite = true) :
    ∃ leftNumeral rightNumeral : Numeral,
      left.IsShownAs leftNumeral ∧ right.IsShownAs rightNumeral ∧
      ((Value.number left).toJson = (Value.number right).toJson ↔
        left.compare? right = some .eq) ∧
      ((Value.number left).identity = (Value.number right).identity ↔
        left.compare? right = some .eq) ∧
      (left.foldedBits = right.foldedBits ↔ left.compare? right = some .eq) ∧
      (leftNumeral.Equals rightNumeral ↔ left.compare? right = some .eq) ∧
      (leftNumeral.position? = rightNumeral.position? ↔ left.compare? right = some .eq) ∧
      (leftNumeral.spell = rightNumeral.spell ↔ left.compare? right = some .eq) := by
  obtain ⟨leftPlace, leftStands⟩ := position?_of_isFinite leftFinite
  obtain ⟨rightPlace, rightStands⟩ := position?_of_isFinite rightFinite
  obtain ⟨leftNumeral, leftShown⟩ := exists_isShownAs leftFinite
  obtain ⟨rightNumeral, rightShown⟩ := exists_isShownAs rightFinite
  have grouped : (Value.number left).identity = (Value.number right).identity ↔
      left.compare? right = some .eq := by
    rw [Value.identity, Value.identity, Value.number.injEq, compare?_eq_iff_identity rightStands]
  have json : (Value.number left).toJson = (Value.number right).toJson ↔
      left.compare? right = some .eq := by
    rw [← grouped]
    exact ⟨Value.identity_eq_of_toJson leftFinite rightFinite, Value.toJson_eq⟩
  have numerals : leftNumeral = rightNumeral ↔ left.compare? right = some .eq := by
    rw [← json, leftShown.shown, rightShown.shown, Json.number.injEq]
  have denoted : leftNumeral.position? = rightNumeral.position? ↔
      left.compare? right = some .eq := by
    rw [leftShown.denotes, rightShown.denotes, compare?_eq_iff_position? rightStands]
  refine ⟨leftNumeral, rightNumeral, leftShown, rightShown, json, grouped, ?_, ?_, denoted, ?_⟩
  · rw [foldedBits_eq_iff leftStands rightStands, compare?_eq_iff_identity rightStands]
  · -- Equality as JSON values lies between being one numeral and denoting one number.
    constructor
    · intro equal
      exact denoted.mp (equal.position?_eq rightShown.legible)
    · intro same
      rw [numerals.mpr same]
      exact rightShown.legible.equals
  · rw [← numerals]
    exact ⟨Numeral.eq_of_spell_eq leftShown.legible rightShown.legible, congrArg Numeral.spell⟩

/-- The two zeros have two patterns but are shown and grouped as one. The last whole number that is
written without a fraction and the next whole number, which is written with one, stay apart. -/
theorem zeros_and_bound_shown :
    ((ofUnits true 0).toBits ≠ zero.toBits ∧
      ∃ leftNumeral rightNumeral : Numeral,
        (ofUnits true 0).IsShownAs leftNumeral ∧ zero.IsShownAs rightNumeral ∧
        (Value.number (ofUnits true 0)).toJson = (Value.number zero).toJson ∧
        (ofUnits true 0).foldedBits = zero.foldedBits ∧ leftNumeral.Equals rightNumeral) ∧
      ∃ leftNumeral rightNumeral : Numeral,
        (ofInt 9007199254740991).IsShownAs leftNumeral ∧
        (ofInt 9007199254740992).IsShownAs rightNumeral ∧
        (Value.number (ofInt 9007199254740991)).toJson ≠
          (Value.number (ofInt 9007199254740992)).toJson ∧
        (ofInt 9007199254740991).foldedBits ≠ (ofInt 9007199254740992).foldedBits ∧
        leftNumeral.position? ≠ rightNumeral.position? := by
  constructor
  · obtain ⟨leftNumeral, rightNumeral, leftShown, rightShown, json, -, bits, equals, -⟩ :=
      @shown_as_grouped (ofUnits true 0) zero (by decide +kernel) (by decide +kernel)
    have same : (ofUnits true 0).compare? zero = some .eq := by decide +kernel
    exact ⟨by decide +kernel, leftNumeral, rightNumeral, leftShown, rightShown, json.mpr same,
      bits.mpr same, equals.mpr same⟩
  · obtain ⟨leftNumeral, rightNumeral, leftShown, rightShown, json, -, bits, -, denoted, -⟩ :=
      @shown_as_grouped (ofInt 9007199254740991) (ofInt 9007199254740992) (by decide +kernel)
        (by decide +kernel)
    have different : (ofInt 9007199254740991).compare? (ofInt 9007199254740992) ≠ some .eq := by
      decide +kernel
    exact ⟨leftNumeral, rightNumeral, leftShown, rightShown, mt json.mp different,
      mt bits.mp different, mt denoted.mp different⟩

end Binary64

end CampusQuery
