import CampusQuery.Proofs.Overflow

/-!
# Where a table can be sorted

The comparison of rows contradicts itself only where something that is not a number stands
under a sort key. Records that hold no such thing bring none into the table: the largest and
the smallest of any values are numbers, and so is every count. A total is not a number only
where infinities of both signs are added up, which finite values never come to, although their
total may be infinite.
-/

namespace CampusQuery

namespace Binary64

/-- The value is a number, perhaps an infinite one. -/
inductive IsNumber : Binary64 → Prop where
  | finite {negative : Bool} {units : Nat} {representable : Representable units} :
    IsNumber (finite negative units representable)
  | infinite {negative : Bool} : IsNumber (infinite negative)

/-- A value that stands somewhere is a number. -/
theorem isNumber_of_position? {value : Binary64} {place : Int}
    (stands : value.position? = some place) : value.IsNumber := by
  cases value with
  | finite => exact .finite
  | infinite => exact .infinite
  | nan => cases stands

/-- Units make a number, perhaps an infinite one. -/
theorem isNumber_ofUnits (negative : Bool) (units : Nat) : (ofUnits negative units).IsNumber := by
  unfold ofUnits
  split
  · exact .finite
  · exact .infinite

/-- So does a quotient of units, -/
theorem isNumber_ofRatio (negative : Bool) (numerator denominator : Nat) :
    (ofRatio negative numerator denominator).IsNumber := by
  unfold ofRatio
  exact isNumber_ofUnits _ _

/-- and so do decimal digits. -/
theorem isNumber_ofDecimal (negative : Bool) (digits : Nat) (exponent : Int) :
    (ofDecimal negative digits exponent).IsNumber := by
  unfold ofDecimal
  split
  · exact isNumber_ofUnits _ _
  · split
    · exact .infinite
    · split
      · exact isNumber_ofUnits _ _
      · exact isNumber_ofRatio _ _ _

/-- Rounding makes no number into something else. -/
theorem IsNumber.roundToHundredths {value : Binary64} (number : value.IsNumber) :
    value.roundToHundredths.IsNumber := by
  cases value with
  | nan => cases number
  | infinite => exact .infinite
  | finite negative units representable =>
    unfold Binary64.roundToHundredths ofHundredths
    dsimp only
    split
    · exact isNumber_ofDecimal _ _ _
    · exact .finite

/-- Neither does a division by a count, -/
theorem IsNumber.divideBy {value : Binary64} (number : value.IsNumber) (count : Nat) :
    (value.divideBy count).IsNumber := by
  cases value with
  | nan => cases number
  | infinite => exact .infinite
  | finite =>
    unfold Binary64.divideBy
    exact isNumber_ofRatio _ _ _

/-- nor adding something finite. -/
theorem IsNumber.add {left right : Binary64} (number : left.IsNumber)
    (finite : right.isFinite = true) : (left.add right).IsNumber := by
  cases right with
  | infinite => cases finite
  | nan => cases finite
  | finite =>
    cases left with
    | nan => cases number
    | infinite => exact .infinite
    | finite leftNegative leftUnits =>
      rw [Binary64.add]
      generalize (if leftNegative = true then -(leftUnits : Int) else leftUnits) + _ = total
      split
      · exact isNumber_ofUnits _ _
      · exact isNumber_ofRatio _ _ _

/-- So the binary total of finite values is a number. -/
theorem isNumber_binaryTotal {values : List Binary64}
    (finite : ∀ value ∈ values, value.isFinite = true) : (binaryTotal values).IsNumber := by
  have added (values : List Binary64) (start : Binary64) (number : start.IsNumber)
      (finite : ∀ value ∈ values, value.isFinite = true) :
      (values.foldl Binary64.add start).IsNumber := by
    induction values generalizing start with
    | nil => exact number
    | cons value rest inductionHypothesis =>
      obtain ⟨first, others⟩ := List.forall_mem_cons.mp finite
      exact inductionHypothesis (start.add value) (number.add first) others
  have zeroNumber : zero.IsNumber := by
    unfold zero
    exact isNumber_ofUnits _ _
  unfold binaryTotal
  exact added values zero zeroNumber finite

/-- The sum of finite values is a number, -/
theorem isNumber_sum {values : List Binary64}
    (finite : ∀ value ∈ values, value.isFinite = true) : (sum values).IsNumber := by
  unfold sum ofHundredths
  split
  · exact isNumber_ofDecimal _ _ _
  · exact (isNumber_binaryTotal finite).roundToHundredths

/-- and so is their average. -/
theorem isNumber_average {values : List Binary64}
    (finite : ∀ value ∈ values, value.isFinite = true) : (average values).IsNumber := by
  unfold average
  split
  · unfold zero
    exact isNumber_ofUnits _ _
  · refine (IsNumber.divideBy ?_ _).roundToHundredths
    split
    · unfold Decimal.toBinary64
      exact isNumber_ofDecimal _ _ _
    · exact isNumber_binaryTotal finite

/-- The largest of any values is a number, -/
theorem isNumber_maximum (values : List Binary64) : (maximum values).IsNumber := by
  have start : (infinite true).position? = some (-(limit : Int)) := rfl
  exact isNumber_of_position? (position?_foldl position?_larger values start)

/-- and so is the smallest. -/
theorem isNumber_minimum (values : List Binary64) : (minimum values).IsNumber := by
  have start : (infinite false).position? = some (limit : Int) := rfl
  exact isNumber_of_position? (position?_foldl position?_smaller values start)

end Binary64

/-- A value that is no text is not a number exactly if what it holds is none. -/
theorem Value.isNaN_number_iff {number : Binary64} :
    (Value.number number).IsNaN ↔ ¬number.IsNumber := by
  cases number with
  | finite => exact iff_of_false id fun absent => absent .finite
  | infinite => exact iff_of_false id fun absent => absent .infinite
  | nan => exact iff_of_true trivial fun number => by cases number

/-- An aggregate is a number, if the values are finite where it adds them up. -/
theorem Aggregate.isNumber_ofValues? {aggregate : Aggregate} {values : List Value}
    (finite : aggregate ∈ [avg, sum] → ∀ value ∈ values, value.IsFinite) {result : Binary64}
    (given : aggregate.ofValues? values = some result) : result.IsNumber := by
  have counted (count : Int) : (Binary64.ofInt count).IsNumber := by
    unfold Binary64.ofInt
    exact Binary64.isNumber_ofRatio _ _ _
  unfold ofValues? at given
  split at given
  · obtain ⟨numbers, read, rfl⟩ := Option.map_eq_some_iff.mp given
    have numeric (adds : aggregate ∈ [avg, sum]) :
        ∀ number ∈ numbers, number.isFinite = true := by
      obtain ⟨-, rfl⟩ := Checks.mapM_eq_some_iff.mp read
      intro number member
      obtain ⟨value, listed, isNumber⟩ := List.mem_filterMap.mp member
      have valueFinite := finite adds value listed
      cases value with
      | text => cases isNumber
      | number => exact Option.some.inj isNumber ▸ valueFinite
    cases aggregate with
    | max => exact Binary64.isNumber_maximum numbers
    | min => exact Binary64.isNumber_minimum numbers
    | avg => exact Binary64.isNumber_average (numeric (by decide))
    | sum => exact Binary64.isNumber_sum (numeric (by decide))
    | count => exact counted _
  · exact Option.some.inj given ▸ counted _

namespace Query

section

variable {dataset : Dataset} {raw : Json} {records : List Record} {rule : DeclaredRule}

/-- What a rule gives for records is a number, if they have finite values where it adds them
up. -/
theorem not_isNaN_result?
    (finite : rule.token ∈ ["AVG", "SUM"] →
      ∀ record ∈ records, ∀ value ∈ cell? dataset.id record rule.target, value.IsFinite)
    {value : Value} (given : result? dataset records rule = some value) : ¬value.IsNaN := by
  simp only [result?, Option.bind_eq_bind, Option.bind_eq_some_iff, Option.pure_def,
    Option.some.injEq] at given
  obtain ⟨aggregate, labelled, values, read, result, computed, rfl⟩ := given
  rw [Value.isNaN_number_iff, not_not]
  refine Aggregate.isNumber_ofValues? (fun adds value listed => ?_) computed
  obtain ⟨-, rfl⟩ := Checks.mapM_eq_some_iff.mp read
  obtain ⟨record, member, held⟩ := List.mem_filterMap.mp listed
  exact finite ((adds_iff labelled).mpr adds) record member value held

/-- A table has numbers and texts under all names, if the selected records do, and finite
ones wherever a rule adds them up. -/
theorem numbersOnly_of_cells
    (numbers : ∀ record ∈ selected dataset raw, ∀ name, ∀ value ∈ cell? dataset.id record name,
      ¬value.IsNaN)
    (finite : ∀ rule ∈ rules raw, rule.token ∈ ["AVG", "SUM"] →
      ∀ record ∈ selected dataset raw, ∀ value ∈ cell? dataset.id record rule.target,
        value.IsFinite) : NumbersOnly dataset raw := by
  cases grouped : grouping? raw with
  | none =>
    unfold NumbersOnly table
    rw [grouped, List.forall_mem_map]
    exact fun record chosen name _ => numbers record chosen name
  | some names =>
    apply numbersOnly_of_grouping grouped
    · exact fun record chosen name _ => numbers record chosen name
    · intro values _ rule declared value given
      refine not_isNaN_result? (fun adds record inMembers => ?_) given
      exact finite rule declared adds record (List.mem_filter.mp inMembers).1

/-- Tables of finite datasets can be sorted, whatever the rules. -/
theorem numbersOnly_of_isFinite (finite : dataset.IsFinite) : NumbersOnly dataset raw :=
  numbersOnly_of_cells
    (fun _ chosen name value held => (isFinite_cell? finite chosen name value held).not_isNaN)
    fun rule _ _ _ chosen => isFinite_cell? finite chosen rule.target

end

end Query

/-- Some record of the dataset holds what is not a number. -/
def Dataset.HoldsNaN (dataset : Dataset) : Prop :=
  ∃ record ∈ dataset.records.toList, ∃ field, ∃ value ∈ record.value? field, value.IsNaN

/-- Without rules that add, a dataset that holds nothing but numbers and texts has no others in
its tables. -/
theorem Query.numbersOnly_of_not_holdsNaN {dataset : Dataset} {raw : Json}
    (numbers : ¬dataset.HoldsNaN) (adding : ∀ rule ∈ rules raw, rule.token ∉ ["AVG", "SUM"]) :
    NumbersOnly dataset raw := by
  refine numbersOnly_of_cells (fun record chosen name value held isNaN => ?_) ?_
  · rw [cell?, Option.mem_def, Option.bind_eq_some_iff] at held
    obtain ⟨field, -, read⟩ := held
    exact numbers ⟨record, (List.mem_filter.mp chosen).1, field, value, read, isNaN⟩
  · exact fun rule listed adds => absurd adds (adding rule listed)

end CampusQuery
