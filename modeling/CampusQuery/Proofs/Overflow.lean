import CampusQuery.Proofs.Finiteness
import CampusQuery.Proofs.GroupRows

/-!
# Sums that leave the numbers

Rows are meant to hold numbers and texts alone. On a dataset of finite values every
aggregate keeps to that but the two that add: where the values of a tuple are too large for
decimals, their binary total may be infinite, and then neither the sum nor the average is a
number that can be written. The average is lost even where it lies between the values. So
an answer holds numbers and texts alone exactly where every total that it shows, or divides,
stays within range.
-/

namespace CampusQuery

/-- A number or a text. -/
def Json.IsScalar : Json → Prop
  | .number _ | .text _ => True
  | _ => False

/-- Whether a value is null. -/
def Json.isNull : Json → Bool
  | .null => true
  | _ => false

/-- Null is the only such value. -/
theorem Json.eq_null {raw : Json} (isNull : raw.isNull = true) : raw = .null := by
  cases raw with
  | null => rfl
  | _ => cases isNull

/-- Exactly the finite values are shown as numbers or texts. -/
theorem Value.isScalar_toJson_iff (value : Value) : value.toJson.IsScalar ↔ value.IsFinite := by
  cases value with
  | text value => exact Iff.rfl
  | number number =>
    cases number with
    | finite negative units representable =>
      have finite : (Binary64.finite negative units representable).isFinite = true := rfl
      obtain ⟨numeral, written, -⟩ := Binary64.numeral_exists finite
      rw [toJson, written]
      simp [Json.IsScalar, IsFinite, Binary64.isFinite]
    | infinite negative =>
      have null : (number (.infinite negative)).toJson = .null := rfl
      simp [null, Json.IsScalar, IsFinite, Binary64.isFinite]
    | nan pattern =>
      have null : (number (.nan pattern)).toJson = .null := rfl
      simp [null, Json.IsScalar, IsFinite, Binary64.isFinite]

/-- The identity of a finite value is finite. -/
theorem Value.isFinite_identity {value : Value} (finite : value.IsFinite) :
    value.identity.IsFinite := by
  rw [← isScalar_toJson_iff, toJson_identity, isScalar_toJson_iff]
  exact finite

/-- No field of a record holds a number that is not finite. -/
def Dataset.IsFinite (dataset : Dataset) : Prop :=
  ∀ record ∈ dataset.records.toList, ∀ field ∈ Field.all, ∀ value ∈ record.value? field,
    value.IsFinite

instance : DecidablePred Dataset.IsFinite := fun dataset =>
  inferInstanceAs (Decidable (∀ record ∈ dataset.records.toList, ∀ field ∈ Field.all,
    ∀ value ∈ record.value? field, value.IsFinite))

/-- There are not more distinct values than values. -/
theorem Value.countDistinct_le (values : List Value) : countDistinct values ≤ values.length := by
  have counted := Group.length_eraseDups_le (values.map identity)
  rwa [List.length_map] at counted

namespace Query

/-- The numbers of records under a name, if each of them has one. -/
def numbers? (dataset : Dataset) (records : List Record) (name : String) : Option (List Binary64) :=
  (records.mapM fun record => cell? dataset.id record name).bind (List.mapM Value.number?)

/-- In every tuple, the numbers that a sum or an average among the columns is made of add up
within range. -/
def TotalsInRange (dataset : Dataset) (raw : Json) : Prop :=
  ∀ names ∈ grouping? raw, ∀ values ∈ tuples dataset raw names,
    ∀ rule ∈ rules raw, rule.name ∈ columns raw → rule.token ∈ ["AVG", "SUM"] →
      ∀ numbers ∈ numbers? dataset (members dataset raw names values) rule.target,
        Binary64.TotalInRange numbers

instance (dataset : Dataset) (raw : Json) : Decidable (TotalsInRange dataset raw) :=
  inferInstanceAs (Decidable (∀ names ∈ grouping? raw, ∀ values ∈ tuples dataset raw names,
    ∀ rule ∈ rules raw, rule.name ∈ columns raw → rule.token ∈ ["AVG", "SUM"] →
      ∀ numbers ∈ numbers? dataset (members dataset raw names values) rule.target,
        Binary64.TotalInRange numbers))

section

variable {dataset : Dataset} {records : List Record} {rule : DeclaredRule} {aggregate : Aggregate}

/-- A rule of numbers gives its aggregate of them. -/
theorem result?_of_numbers (labelled : Aggregate.ofLabel? rule.token = some aggregate)
    (numeric : aggregate.needsNumbers = true) :
    result? dataset records rule = (numbers? dataset records rule.target).map
      fun numbers => .number (aggregate.ofNumbers numbers) := by
  rw [result?, labelled, numbers?]
  cases records.mapM fun record => cell? dataset.id record rule.target with
  | none => rfl
  | some values =>
    simp only [Option.bind_eq_bind, Option.bind_some, Aggregate.ofValues?, numeric, if_true]
    cases values.mapM Value.number? <;> rfl

/-- Records that have numbers have at least one, if there are any records. -/
theorem numbers?_ne_nil (nonempty : records ≠ []) {name : String} {numbers : List Binary64}
    (found : numbers? dataset records name = some numbers) : numbers ≠ [] := by
  rw [numbers?, Option.bind_eq_some_iff] at found
  obtain ⟨values, read, numeric⟩ := found
  obtain ⟨readable, rfl⟩ := Checks.mapM_eq_some_iff.mp read
  obtain ⟨allNumeric, rfl⟩ := Checks.mapM_eq_some_iff.mp numeric
  obtain ⟨record, member⟩ := List.exists_mem_of_ne_nil records nonempty
  obtain ⟨value, held⟩ := Option.isSome_iff_exists.mp (readable record member)
  have listed : value ∈ records.filterMap fun record => cell? dataset.id record name :=
    List.mem_filterMap.mpr ⟨record, member, held⟩
  obtain ⟨number, isNumber⟩ := Option.isSome_iff_exists.mp (allNumeric value listed)
  exact List.ne_nil_of_mem (List.mem_filterMap.mpr ⟨value, listed, isNumber⟩)

/-- The numbers of records that have finite values are finite. -/
theorem isFinite_of_numbers? {name : String}
    (finite : ∀ record ∈ records, ∀ value ∈ cell? dataset.id record name, value.IsFinite)
    {numbers : List Binary64} (found : numbers? dataset records name = some numbers) :
    ∀ number ∈ numbers, number.isFinite = true := by
  rw [numbers?, Option.bind_eq_some_iff] at found
  obtain ⟨values, read, numeric⟩ := found
  obtain ⟨-, rfl⟩ := Checks.mapM_eq_some_iff.mp read
  obtain ⟨-, rfl⟩ := Checks.mapM_eq_some_iff.mp numeric
  intro number member
  obtain ⟨value, listed, isNumber⟩ := List.mem_filterMap.mp member
  obtain ⟨record, inRecords, held⟩ := List.mem_filterMap.mp listed
  have valueFinite := finite record inRecords value held
  cases value with
  | text => cases isNumber
  | number => exact Option.some.inj isNumber ▸ valueFinite

/-- A rule that counts gives the number of distinct values. -/
theorem result?_of_count (labelled : Aggregate.ofLabel? rule.token = some .count) :
    result? dataset records rule =
      (records.mapM fun record => cell? dataset.id record rule.target).map
        fun values => .number (Binary64.ofInt (Value.countDistinct values)) := by
  rw [result?, labelled]
  cases records.mapM fun record => cell? dataset.id record rule.target <;> rfl

/-- The count of records that are numbered in sixty-four bits is finite. -/
theorem isFinite_count (few : records.length ≤ 2 ^ 64) {values : List Value} {name : String}
    (read : (records.mapM fun record => cell? dataset.id record name) = some values) :
    (Binary64.ofInt (Value.countDistinct values)).isFinite = true := by
  obtain ⟨-, rfl⟩ := Checks.mapM_eq_some_iff.mp read
  have counted :=
    Value.countDistinct_le (records.filterMap fun record => cell? dataset.id record name)
  have listed := List.length_filterMap_le (fun record => cell? dataset.id record name) records
  apply Binary64.isFinite_ofInt
  rw [Int.natAbs_natCast]
  omega

/-- The names of the aggregates that add are those of the average and the sum. -/
theorem adds_iff (labelled : Aggregate.ofLabel? rule.token = some aggregate) :
    rule.token ∈ ["AVG", "SUM"] ↔ aggregate ∈ [.avg, .sum] := by
  rw [Aggregate.ofLabel?_eq_some_iff.mp labelled]
  cases aggregate <;> decide

/-- What a rule gives for some records with finite values is finite, except that a sum or an
average needs a total within range. -/
theorem isFinite_result?_iff (nonempty : records ≠ []) (few : records.length ≤ 2 ^ 64)
    (finite : ∀ record ∈ records, ∀ value ∈ cell? dataset.id record rule.target, value.IsFinite) :
    (∀ value ∈ result? dataset records rule, value.IsFinite) ↔
      (rule.token ∈ ["AVG", "SUM"] →
        ∀ numbers ∈ numbers? dataset records rule.target, Binary64.TotalInRange numbers) := by
  cases labelled : Aggregate.ofLabel? rule.token with
  | none =>
    have nothing : result? dataset records rule = none := by
      rw [result?, labelled]
      rfl
    have unknown : rule.token ∉ ["AVG", "SUM"] := by
      intro adds
      simp only [List.mem_cons, List.not_mem_nil, or_false] at adds
      rcases adds with token | token <;> rw [token] at labelled <;> cases labelled
    simp [nothing, unknown]
  | some aggregate =>
    rw [adds_iff labelled]
    cases numeric : aggregate.needsNumbers with
    | false =>
      obtain rfl : aggregate = .count := by
        cases aggregate with
        | count => rfl
        | _ => cases numeric
      have counted : ∀ value ∈ result? dataset records rule, value.IsFinite := by
        rw [result?_of_count labelled]
        intro value given
        obtain ⟨values, read, rfl⟩ := Option.map_eq_some_iff.mp given
        exact isFinite_count few read
      exact iff_of_true counted fun adds => absurd adds (by decide)
    | true =>
      rw [result?_of_numbers labelled numeric]
      cases found : numbers? dataset records rule.target with
      | none => simp
      | some numbers =>
        have each := isFinite_of_numbers? finite found
        have finiteIff := Aggregate.isFinite_ofNumbers_iff numeric
          (numbers?_ne_nil nonempty found) each
        simpa [Value.IsFinite] using finiteIff

end

/-- No row of the table holds, under a column, a number that is not finite. -/
def FiniteTable (dataset : Dataset) (raw : Json) : Prop :=
  ∀ cell ∈ table dataset raw, ∀ name ∈ columns raw, ∀ value ∈ cell name, value.IsFinite

/-- Rows hold numbers and texts alone exactly where their table is finite. -/
theorem isScalar_rows_iff {dataset : Dataset} {raw : Json} {rows : List ResultRow}
    (permuted : rows.Perm (Query.rows dataset raw)) :
    (∀ row ∈ rows, ∀ name shown, row.get? name = some shown → shown.IsScalar) ↔
      FiniteTable dataset raw := by
  have shows (cell : String → Option Value) :
      (∀ name shown, (rowOf (columns raw) cell).get? name = some shown → shown.IsScalar) ↔
        ∀ name ∈ columns raw, ∀ value ∈ cell name, value.IsFinite := by
    simp only [get?_rowOf]
    constructor
    · intro each name selected value held
      have scalar := each name value.toJson (by rw [if_pos selected, Option.mem_def.mp held]; rfl)
      exact value.isScalar_toJson_iff.mp scalar
    · intro each name shown found
      by_cases selected : name ∈ columns raw
      · rw [if_pos selected, Option.map_eq_some_iff] at found
        obtain ⟨value, held, rfl⟩ := found
        exact value.isScalar_toJson_iff.mpr (each name selected value held)
      · rw [if_neg selected] at found
        cases found
  simp only [permuted.mem_iff, Query.rows, List.forall_mem_map, shows, FiniteTable]

end Query

namespace Query

section

variable {dataset : Dataset} (finite : dataset.IsFinite)

include finite

/-- Records of a finite dataset have finite values under all names. -/
theorem isFinite_cell? {raw : Json} {record : Record} (chosen : record ∈ selected dataset raw)
    (name : String) : ∀ value ∈ cell? dataset.id record name, value.IsFinite := by
  intro value held
  rw [cell?, Option.mem_def, Option.bind_eq_some_iff] at held
  obtain ⟨field, -, read⟩ := held
  exact finite record (List.mem_filter.mp chosen).1 field (Field.mem_all field) value read

/-- A tuple shows finite values under the grouping names. -/
theorem isFinite_groupCell? {raw : Json} {names : List String} {values : List (Option Value)}
    (member : values ∈ tuples dataset raw names) {name : String} (listed : name ∈ names) :
    ∀ value ∈ groupCell? dataset raw names values name, value.IsFinite := by
  obtain ⟨record, chosen, rfl⟩ := mem_tuples_iff.mp member
  rw [groupCell?_of_listed dataset raw record listed]
  intro value held
  obtain ⟨original, found, rfl⟩ := Option.map_eq_some_iff.mp held
  exact Value.isFinite_identity (isFinite_cell? finite chosen name original found)

/-- What a rule gives for the members of a tuple is finite exactly where it needs no total or
the total is within range. -/
theorem isFinite_result?_members_iff (few : dataset.records.toList.length ≤ 2 ^ 64) {raw : Json}
    {names : List String} {values : List (Option Value)}
    (member : values ∈ tuples dataset raw names) (rule : DeclaredRule) :
    (∀ value ∈ result? dataset (members dataset raw names values) rule, value.IsFinite) ↔
      (rule.token ∈ ["AVG", "SUM"] →
        ∀ numbers ∈ numbers? dataset (members dataset raw names values) rule.target,
          Binary64.TotalInRange numbers) := by
  have nonempty := (divides dataset raw names).inhabited values member
  have fewMembers : (members dataset raw names values).length ≤ 2 ^ 64 :=
    Nat.le_trans (List.length_filter_le _ _) (Nat.le_trans (List.length_filter_le _ _) few)
  apply isFinite_result?_iff nonempty fewMembers
  intro record inMembers
  exact isFinite_cell? finite (List.mem_filter.mp inMembers).1 rule.target

end

end Query

namespace Plan

variable {lookup : Lookup} {members : List (String × Json)} {plan : Plan}

/-- Under the name of a rule, a tuple shows what the rule gives for its members. -/
theorem Spells.groupCell?_of_rule (spelled : Spells lookup members plan) {names : List String}
    (grouped : Query.grouping? (.object members) = some names) {values : List (Option Value)}
    (member : values ∈ Query.tuples plan.dataset (.object members) names)
    {rule : Query.DeclaredRule} (declared : rule ∈ Query.rules (.object members)) :
    Query.groupCell? plan.dataset (.object members) names values rule.name =
      Query.result? plan.dataset (Query.members plan.dataset (.object members) names values)
        rule := by
  obtain ⟨record, -, rfl⟩ := Query.mem_tuples_iff.mp member
  rw [Query.groupCell?_of_unlisted _ _ record (spelled.rule_not_grouped grouped declared),
    Checks.find?_of_mem spelled.rule_names_distinct declared, Option.bind_some]

/-- On a finite dataset, the table of a query is finite exactly where the totals are within
range. -/
theorem Spells.finiteTable_iff (spelled : Spells lookup members plan)
    (finite : plan.dataset.IsFinite) (few : plan.dataset.records.toList.length ≤ 2 ^ 64) :
    Query.FiniteTable plan.dataset (.object members) ↔
      Query.TotalsInRange plan.dataset (.object members) := by
  unfold Query.FiniteTable Query.TotalsInRange Query.table
  cases grouped : Query.grouping? (.object members) with
  | none =>
    refine iff_of_true ?_ (by simp)
    rw [List.forall_mem_map]
    intro record chosen name _
    exact Query.isFinite_cell? finite chosen name
  | some names =>
    simp only [List.forall_mem_map, Option.mem_def, Option.some.injEq, forall_eq']
    refine forall_congr' fun values => imp_congr_right fun member => ?_
    have resultIff := Query.isFinite_result?_members_iff finite few member
    constructor
    · intro each rule declared selected
      apply (resultIff rule).mp
      rw [← spelled.groupCell?_of_rule grouped member declared]
      exact each rule.name selected
    · intro inRange name selected
      rcases spelled.column_grouped grouped selected with listed | ⟨rule, declared, rfl⟩
      · exact Query.isFinite_groupCell? finite member listed
      · have given := (resultIff rule).mpr (inRange rule declared selected)
        rw [← spelled.groupCell?_of_rule grouped member declared] at given
        exact given

end Plan

/-- On a finite dataset, whose records can be numbered in sixty-four bits, an accepted query
that is answered shows numbers and texts alone exactly where each total that it adds up, for
a sum or an average among its columns, is within range. -/
theorem answer_scalar_iff {lookup : Lookup} {limit : Nat} {raw : Json} {plan : Plan}
    {rows : List ResultRow} (accepted : Plan.ofQuery lookup raw = .ok plan)
    (answered : answer lookup limit raw = .ok rows) (finite : plan.dataset.IsFinite)
    (few : plan.dataset.records.toList.length ≤ 2 ^ 64) :
    (∀ row ∈ rows, ∀ name shown, row.get? name = some shown → shown.IsScalar) ↔
      Query.TotalsInRange plan.dataset raw := by
  have permuted := perm_of_answer accepted answered
  obtain ⟨members, rfl, spelled⟩ := Plan.ofQuery_eq_ok_iff.mp accepted
  exact (Query.isScalar_rows_iff permuted).trans (spelled.finiteTable_iff finite few)

/-- The average of each department. -/
def Sample.averaged : Json :=
  .object [
    ("OPTIONS", .object [("COLUMNS", .array [.text "courses_dept", .text "average"])]),
    ("TRANSFORMATIONS", .object [
      ("APPLY", .array [.object [("average", .object [("AVG", .text "courses_avg")])]]),
      ("GROUP", .array [.text "courses_dept"])]),
    ("WHERE", .object [])]

/-- The averages of the sample are numbers. -/
theorem averaged_scalar : ∃ plan rows,
    Plan.ofQuery (.ofList [Sample.dataset]) Sample.averaged = .ok plan ∧
      answer (.ofList [Sample.dataset]) 3 Sample.averaged = .ok rows ∧
      ∀ row ∈ rows, ∀ name shown, row.get? name = some shown → shown.IsScalar := by
  obtain ⟨plan, accepted, bound⟩ : ∃ plan,
      Plan.ofQuery (.ofList [Sample.dataset]) Sample.averaged = .ok plan ∧
        plan.dataset = Sample.dataset :=
    Checks.exists_ok_of_seen (by decide +kernel)
  have within : Query.size plan.dataset Sample.averaged ≤ 3 := by
    rw [bound]
    decide +kernel
  have answered := answer_of_unordered accepted within rfl
  have finite : plan.dataset.IsFinite := by
    rw [bound]
    decide +kernel
  have few : plan.dataset.records.toList.length ≤ 2 ^ 64 := by
    rw [bound]
    decide +kernel
  have inRange : Query.TotalsInRange plan.dataset Sample.averaged := by
    rw [bound]
    decide +kernel
  have scalar := (answer_scalar_iff accepted answered finite few).mpr inRange
  exact ⟨plan, _, accepted, answered, scalar⟩

/-- Two sections of a department with the average 10^308, which is finite; their total is
not. -/
def Sample.enormous : Dataset :=
  ⟨"courses", .sections [
    { course "cpsc" 0 with avg := .ofDecimal false 1 308 },
    { course "cpsc" 0 with avg := .ofDecimal false 1 308 }]⟩

/-- The average of two equal finite numbers is shown as null. -/
theorem enormous_null : Sample.enormous.IsFinite ∧ ∃ rows,
    answer (.ofList [Sample.enormous]) 5000 Sample.averaged = .ok rows ∧
      ∃ row ∈ rows, row.get? "average" = some .null := by
  have finite : Sample.enormous.IsFinite := by decide +kernel
  obtain ⟨rows, answered, seen⟩ : ∃ rows,
      answer (.ofList [Sample.enormous]) 5000 Sample.averaged = .ok rows ∧
        rows.any (fun row => (row.get? "average").any Json.isNull) = true :=
    Checks.exists_ok_of_seen (by decide +kernel)
  obtain ⟨row, member, null⟩ := List.any_eq_true.mp seen
  obtain ⟨shown, found, isNull⟩ := (Option.any_eq_true _ _).mp null
  exact ⟨finite, rows, answered, row, member, found.trans (congrArg some (Json.eq_null isNull))⟩

end CampusQuery
