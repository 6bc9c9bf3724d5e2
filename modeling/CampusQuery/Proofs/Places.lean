import CampusQuery.Record

/-!
# Numbers at one place

A comparison of numbers sees where they stand, grouping sees their identity, and a
reader of the result sees a numeral. For finite numbers the three tell the same numbers
apart: two of them stand at one place exactly when they differ at most in the sign of a
zero, and the numeral that is written reads back to the place that it came from, because
a number that is representable is its own rounding. The larger and the smaller of two
numbers are chosen by their places.
-/

namespace CampusQuery

namespace Binary64

/-- The exponent is set aside, so that the power is not computed. -/
theorem limit_pos : 0 < limit := by
  unfold limit
  generalize 2098 = exponent
  exact Nat.two_pow_pos exponent

/-- There are units in one. -/
theorem one_pos : 0 < one := by
  unfold one
  generalize 1074 = places
  exact Nat.two_pow_pos places

/-- The sign of a zero does not move it. -/
theorem position?_identity (value : Binary64) : value.identity.position? = value.position? := by
  cases value with
  | finite negative units _ => cases negative <;> cases units <;> simp [identity, position?]
  | infinite => rfl
  | nan => rfl

/-- A finite value stands at its units, with its sign. -/
theorem place_of_finite {negative : Bool} {units : Nat} {representable : Representable units}
    {place : Int} (stands : (finite negative units representable).position? = some place) :
    negative = true ∧ place = -(units : Int) ∨ negative = false ∧ place = units := by
  cases negative with
  | true => exact .inl ⟨rfl, (Option.some.inj stands).symm⟩
  | false => exact .inr ⟨rfl, (Option.some.inj stands).symm⟩

/-- An infinite value stands at the limit, with its sign. -/
theorem place_of_infinite {negative : Bool} {place : Int}
    (stands : (infinite negative).position? = some place) :
    negative = true ∧ place = -(limit : Int) ∨ negative = false ∧ place = limit := by
  cases negative with
  | true => exact .inl ⟨rfl, (Option.some.inj stands).symm⟩
  | false => exact .inr ⟨rfl, (Option.some.inj stands).symm⟩

/-- Finite magnitudes lie below the limit, so no finite number stands where an infinity
does. -/
theorem place_of_finite_ne {leftNegative rightNegative : Bool} {units : Nat}
    {representable : Representable units} {place : Int}
    (leftPlace : (infinite leftNegative).position? = some place) :
    (finite rightNegative units representable).position? ≠ some place := by
  intro rightPlace
  have below : units < limit := representable.1
  rcases place_of_infinite leftPlace with ⟨-, leftAt⟩ | ⟨-, leftAt⟩ <;>
    rcases place_of_finite rightPlace with ⟨-, rightAt⟩ | ⟨-, rightAt⟩ <;> omega

/-- Numbers at one place differ at most in the sign of a zero. -/
theorem identity_eq_of_place {left right : Binary64} {place : Int}
    (leftPlace : left.position? = some place) (rightPlace : right.position? = some place) :
    left.identity = right.identity := by
  cases left with
  | nan => cases leftPlace
  | infinite leftNegative =>
    cases right with
    | nan => cases rightPlace
    | finite => exact absurd rightPlace (place_of_finite_ne leftPlace)
    | infinite rightNegative =>
      have beyond := limit_pos
      rcases place_of_infinite leftPlace with ⟨rfl, leftAt⟩ | ⟨rfl, leftAt⟩ <;>
        rcases place_of_infinite rightPlace with ⟨rfl, rightAt⟩ | ⟨rfl, rightAt⟩ <;>
          first | rfl | omega
  | finite leftNegative leftUnits leftRepresentable =>
    cases right with
    | nan => cases rightPlace
    | infinite => exact absurd leftPlace (place_of_finite_ne rightPlace)
    | finite rightNegative rightUnits rightRepresentable =>
      have units : leftUnits = rightUnits := by
        rcases place_of_finite leftPlace with ⟨-, leftAt⟩ | ⟨-, leftAt⟩ <;>
          rcases place_of_finite rightPlace with ⟨-, rightAt⟩ | ⟨-, rightAt⟩ <;> omega
      subst units
      by_cases zero : leftUnits = 0
      · subst zero
        simp [identity]
      · -- Away from zero the place has the sign of the number.
        rcases place_of_finite leftPlace with ⟨rfl, leftAt⟩ | ⟨rfl, leftAt⟩ <;>
          rcases place_of_finite rightPlace with ⟨rfl, rightAt⟩ | ⟨rfl, rightAt⟩ <;>
            first | rfl | omega

/-- Numbers compare as their places do. -/
theorem compare?_of_places {left right : Binary64} {leftPlace rightPlace : Int}
    (leftStands : left.position? = some leftPlace)
    (rightStands : right.position? = some rightPlace) :
    left.compare? right = some (compare leftPlace rightPlace) := by
  rw [compare?, leftStands, rightStands]
  rfl

/-- Numbers compare as equal exactly when they stand at one place, provided that one of
them stands somewhere. -/
theorem compare?_eq_iff_position? {left right : Binary64} {place : Int}
    (stands : right.position? = some place) :
    left.compare? right = some .eq ↔ left.position? = right.position? := by
  cases leftStands : left.position? with
  | none => simp [compare?, leftStands, stands]
  | some other =>
    rw [compare?_of_places leftStands stands, stands, Option.some.injEq, Option.some.injEq,
      Int.compare_eq_eq]

/-- They do so exactly when grouping takes them for one. -/
theorem compare?_eq_iff_identity {left right : Binary64} {place : Int}
    (stands : right.position? = some place) :
    left.compare? right = some .eq ↔ left.identity = right.identity := by
  rw [compare?_eq_iff_position? stands]
  constructor
  · intro same
    exact identity_eq_of_place (same.trans stands) stands
  · intro same
    rw [← left.position?_identity, same, right.position?_identity]

/-- A finite number stands somewhere. -/
theorem position?_of_isFinite {value : Binary64} (finite : value.isFinite = true) :
    ∃ place, value.position? = some place := by
  cases value with
  | finite => exact ⟨_, rfl⟩
  | infinite => cases finite
  | nan => cases finite

/-- A fold that chooses among numbers by their places comes to the place that is chosen
among these. What is not a number is passed over. -/
theorem position?_foldl {choose : Binary64 → Binary64 → Binary64} {best : Int → Int → Int}
    (chooses : ∀ (left right : Binary64) {place : Int}, left.position? = some place →
      (choose left right).position? = some ((right.position?.map (best place)).getD place))
    (values : List Binary64) {start : Binary64} {place : Int}
    (stands : start.position? = some place) :
    (values.foldl choose start).position? =
      some ((values.filterMap position?).foldl best place) := by
  -- The number chosen so far stands somewhere, whatever the next one is.
  induction values generalizing start place with
  | nil => exact stands
  | cons value rest inductionHypothesis =>
    have next := chooses start value stands
    rw [List.foldl_cons, inductionHypothesis next, List.filterMap_cons]
    cases value.position? <;> rfl

/-- The larger of two values stands at the larger of their places. -/
theorem position?_larger (left right : Binary64) {place : Int}
    (stands : left.position? = some place) :
    (larger left right).position? = some ((right.position?.map (max place)).getD place) := by
  unfold larger
  rw [stands]
  cases other : right.position? with
  | none => exact stands
  | some otherPlace =>
    dsimp only [Option.map_some, Option.getD_some]
    split
    · rw [other]
      congr 1
      omega
    · rw [stands]
      congr 1
      omega

/-- The smaller of two values stands at the smaller of their places. -/
theorem position?_smaller (left right : Binary64) {place : Int}
    (stands : left.position? = some place) :
    (smaller left right).position? = some ((right.position?.map (min place)).getD place) := by
  unfold smaller
  rw [stands]
  cases other : right.position? with
  | none => exact stands
  | some otherPlace =>
    dsimp only [Option.map_some, Option.getD_some]
    split
    · rw [other]
      congr 1
      omega
    · rw [stands]
      congr 1
      omega

/-- A representable magnitude is its own rounding. -/
theorem ofRatio_one (negative : Bool) {units : Nat} (representable : Representable units) :
    ofRatio negative units 1 = .finite negative units representable := by
  have positive : 0 < spacing units := Nat.two_pow_pos _
  obtain ⟨multiple, exact⟩ := representable.2
  have whole := roundQuotient_mul .toEven multiple (spacing units) positive
  rw [Nat.mul_comm, ← exact] at whole
  have rounded : roundQuotient .toEven units (1 * spacing units) * spacing units = units := by
    rw [Nat.one_mul, whole, Nat.mul_comm, ← exact]
  simp only [ofRatio, Nat.div_one, rounded, ofUnits, dif_pos representable]

/-- The whole number that a number is stands where the number does. -/
theorem position?_ofInt {value : Binary64} {whole : Int} (found : value.toInt? = some whole) :
    (ofInt whole).position? = value.position? := by
  cases value with
  | infinite => cases found
  | nan => cases found
  | finite negative units representable =>
    simp only [toInt?] at found
    split at found
    · rename_i divides
      have exact : units / one * one = units := Nat.div_mul_cancel (Nat.dvd_of_mod_eq_zero divides)
      generalize units / one = count at found exact
      obtain rfl := Option.some.inj found
      have magnitude : (if negative then -(count : Int) else count).natAbs = count := by
        cases negative <;> simp
      rw [ofInt, magnitude]
      simp only [exact, ofRatio_one _ representable]
      -- Only a zero loses its sign on the way, and a zero stands where it stood.
      cases negative with
      | false =>
        have above : ¬ (count : Int) < 0 := by omega
        simp only [Bool.false_eq_true, if_false, above, decide_false, position?]
      | true =>
        cases count with
        | zero => simp [position?, ← exact]
        | succ count =>
          have below : -((count + 1 : Nat) : Int) < 0 := by omega
          simp only [if_true, below, decide_true, position?]
    · cases found

/-- A finite number is written as a numeral, and the numeral reads back to its place. -/
theorem numeral_exists {value : Binary64} (finite : value.isFinite = true) :
    ∃ numeral, Json.ofBinary64 value = .number numeral ∧
      numeral.toBinary64.identity = value.identity := by
  obtain ⟨place, stands⟩ := position?_of_isFinite finite
  have itself : (Numeral.real value).toBinary64.identity = value.identity := rfl
  unfold Json.ofBinary64 Numeral.ofBinary64?
  cases found : value.toInt? with
  | none =>
    rw [if_pos finite]
    exact ⟨.real value, rfl, itself⟩
  | some whole =>
    by_cases small : whole.natAbs ≤ Numeral.largestExact
    · have place := (position?_ofInt found).trans stands
      simp only [if_pos small]
      exact ⟨.integer whole, rfl, identity_eq_of_place place stands⟩
    · simp only [if_neg small]
      exact ⟨.real value, rfl, itself⟩

end Binary64

namespace Value

/-- An identity is its own identity. -/
theorem identity_identity (value : Value) : value.identity.identity = value.identity := by
  cases value with
  | text => rfl
  | number number => cases number <;> simp [identity, Binary64.identity]

/-- The sign of a zero is not seen in the value that is shown. -/
theorem toJson_identity (value : Value) : value.identity.toJson = value.toJson := by
  cases value with
  | text => rfl
  | number number =>
    cases number with
    | infinite => rfl
    | nan => rfl
    | finite negative units representable =>
      cases units with
      | succ units => simp [identity, Binary64.identity]
      | zero =>
        simp [identity, Binary64.identity, toJson, Json.ofBinary64, Numeral.ofBinary64?,
          Binary64.toInt?]

/-- Nor is it seen where there may be no value. -/
theorem map_toJson_identity (value : Option Value) :
    (value.map identity).map toJson = value.map toJson := by
  rw [Option.map_map]
  exact congrArg value.map (funext toJson_identity)

/-- Values of one identity are shown alike. -/
theorem toJson_eq {left right : Value} (same : left.identity = right.identity) :
    left.toJson = right.toJson := by
  rw [← left.toJson_identity, same, right.toJson_identity]

/-- A text, or a finite number. -/
def IsFinite : Value → Prop
  | number value => value.isFinite = true
  | text _ => True

instance : DecidablePred IsFinite
  | number value => inferInstanceAs (Decidable (value.isFinite = true))
  | text _ => isTrue trivial

/-- Finite values that are shown alike are of one identity. -/
theorem identity_eq_of_toJson {left right : Value} (leftFinite : left.IsFinite)
    (rightFinite : right.IsFinite) (same : left.toJson = right.toJson) :
    left.identity = right.identity := by
  cases left with
  | text left =>
    cases right with
    | text right => exact congrArg text (Json.text.inj same)
    | number right =>
      obtain ⟨numeral, written, -⟩ := Binary64.numeral_exists rightFinite
      rw [toJson, toJson, written] at same
      cases same
  | number left =>
    obtain ⟨leftNumeral, leftWritten, leftBack⟩ := Binary64.numeral_exists leftFinite
    cases right with
    | text right =>
      rw [toJson, toJson, leftWritten] at same
      cases same
    | number right =>
      obtain ⟨rightNumeral, rightWritten, rightBack⟩ := Binary64.numeral_exists rightFinite
      rw [toJson, toJson, leftWritten, rightWritten] at same
      obtain rfl := Json.number.inj same
      rw [identity, identity, ← leftBack, rightBack]

/-- The same holds where there may be no value. -/
theorem map_identity_eq_of_toJson {left right : Option Value}
    (leftFinite : ∀ value ∈ left, value.IsFinite) (rightFinite : ∀ value ∈ right, value.IsFinite)
    (same : left.map toJson = right.map toJson) : left.map identity = right.map identity := by
  cases left with
  | none =>
    cases right with
    | none => rfl
    | some => cases same
  | some left =>
    cases right with
    | none => cases same
    | some right =>
      have shown := Option.some.inj same
      exact congrArg some
        (identity_eq_of_toJson (leftFinite left rfl) (rightFinite right rfl) shown)

end Value

end CampusQuery
