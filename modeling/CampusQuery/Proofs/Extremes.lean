import Mathlib.Data.Int.Order.Basic
import Mathlib.Order.MinMax
import CampusQuery.Proofs.Overflow
import CampusQuery.Proofs.Rearrangement

/-!
# The largest and the smallest number of a group

The largest and the smallest number are found by going through the numbers once, starting
at the infinity on the other side. That the infinity is not seen afterwards depends on two
things: a group has a record, so there is a number to replace it, and every number stands
somewhere. What is not a number would be passed over, and a group of nothing else would
show the infinity; so such values are excluded here.

Both results are then numbers of the group, up to the sign of a zero, and all numbers of
the group lie between them.
-/

namespace CampusQuery

/-- A fold of the larger of two comes to the start or to an item, and to nothing smaller
than either. -/
theorem foldl_max_largest {α : Type} [LinearOrder α] (items : List α) (start : α) :
    items.foldl max start ∈ start :: items ∧
      ∀ item ∈ start :: items, item ≤ items.foldl max start := by
  induction items generalizing start with
  | nil => simp
  | cons first rest inductionHypothesis =>
    obtain ⟨member, largest⟩ := inductionHypothesis (max start first)
    rw [List.foldl_cons]
    have reached := largest (max start first) List.mem_cons_self
    constructor
    · rcases List.mem_cons.mp member with same | later
      · rcases max_choice start first with chosen | chosen
        · rw [same, chosen]
          exact List.mem_cons_self
        · rw [same, chosen]
          exact List.mem_cons_of_mem _ List.mem_cons_self
      · exact List.mem_cons_of_mem _ (List.mem_cons_of_mem _ later)
    · intro item listed
      rcases List.mem_cons.mp listed with rfl | afterStart
      · exact (le_max_left _ _).trans reached
      · rcases List.mem_cons.mp afterStart with rfl | later
        · exact (le_max_right _ _).trans reached
        · exact largest item (List.mem_cons_of_mem _ later)

/-- The start is not seen where it is below all items and there is one. -/
theorem foldl_max_attained {α : Type} [LinearOrder α] {items : List α} (nonempty : items ≠ [])
    {start : α} (least : ∀ item ∈ items, start ≤ item) :
    items.foldl max start ∈ items ∧ ∀ item ∈ items, item ≤ items.foldl max start := by
  obtain ⟨member, largest⟩ := foldl_max_largest items start
  refine ⟨?_, fun item listed => largest item (List.mem_cons_of_mem _ listed)⟩
  rcases List.mem_cons.mp member with same | listed
  · obtain ⟨item, listed⟩ := List.exists_mem_of_ne_nil items nonempty
    have below := largest item (List.mem_cons_of_mem _ listed)
    rw [same] at below ⊢
    rw [le_antisymm (least item listed) below]
    exact listed
  · exact listed

/-- The same of the smaller of two, since it is the larger one in the opposite order. -/
theorem foldl_min_attained {items : List Int} (nonempty : items ≠ []) {start : Int}
    (greatest : ∀ item ∈ items, item ≤ start) :
    items.foldl min start ∈ items ∧ ∀ item ∈ items, item ≥ items.foldl min start :=
  @foldl_max_attained Intᵒᵈ _ items nonempty start greatest

namespace Binary64

/-- The left number is not larger. Nothing of the kind holds of what is not a number. -/
def AtMost (left right : Binary64) : Prop :=
  left.compare? right = some .lt ∨ left.compare? right = some .eq

/-- Numbers are ordered as their places are. -/
theorem atMost_iff {left right : Binary64} :
    left.AtMost right ↔ ∃ leftPlace rightPlace, left.position? = some leftPlace ∧
      right.position? = some rightPlace ∧ leftPlace ≤ rightPlace := by
  constructor
  · intro ordered
    cases leftStands : left.position? with
    | none => simp [AtMost, compare?, leftStands] at ordered
    | some leftPlace =>
      cases rightStands : right.position? with
      | none => simp [AtMost, compare?, leftStands, rightStands] at ordered
      | some rightPlace =>
        rw [AtMost, compare?_of_places leftStands rightStands, Option.some.injEq,
          Option.some.injEq, Int.compare_eq_lt, Int.compare_eq_eq] at ordered
        exact ⟨leftPlace, rightPlace, rfl, rfl, Int.le_iff_lt_or_eq.mpr ordered⟩
  · rintro ⟨leftPlace, rightPlace, leftStands, rightStands, ordered⟩
    rw [AtMost, compare?_of_places leftStands rightStands, Option.some.injEq, Option.some.injEq,
      Int.compare_eq_lt, Int.compare_eq_eq]
    exact Int.lt_or_eq_of_le ordered

/-- Being at most is transitive. -/
theorem AtMost.trans {left middle right : Binary64} (first : left.AtMost middle)
    (second : middle.AtMost right) : left.AtMost right := by
  obtain ⟨leftPlace, place, leftStands, stands, below⟩ := atMost_iff.mp first
  obtain ⟨_, rightPlace, standsAgain, rightStands, above⟩ := atMost_iff.mp second
  obtain rfl := Option.some.inj (stands.symm.trans standsAgain)
  exact atMost_iff.mpr ⟨leftPlace, rightPlace, leftStands, rightStands, below.trans above⟩

/-- Every number stands between the infinities. -/
theorem place_bounds {value : Binary64} {place : Int} (stands : value.position? = some place) :
    -(limit : Int) ≤ place ∧ place ≤ limit := by
  have beyond := limit_pos
  cases value with
  | nan => cases stands
  | infinite => rcases place_of_infinite stands with ⟨-, at_⟩ | ⟨-, at_⟩ <;> omega
  | finite negative units representable =>
    have below : units < limit := representable.1
    rcases place_of_finite stands with ⟨-, at_⟩ | ⟨-, at_⟩ <;> omega

/-- A number that stands where an infinity does is that infinity. -/
theorem eq_infinite_of_compare {value : Binary64} {negative : Bool}
    (same : value.compare? (.infinite negative) = some .eq) : value = .infinite negative := by
  have stands : (infinite negative).position? =
      some (if negative then -(limit : Int) else limit) := rfl
  have identical := (compare?_eq_iff_identity stands).mp same
  cases value with
  | finite => cases identical
  | infinite => exact identical
  | nan => cases identical

section

variable {values : List Binary64}

/-- The number that is chosen among others by their places stands where one of them does, and
its place is the chosen one. -/
theorem foldl_attained {choose : Binary64 → Binary64 → Binary64} {best : Int → Int → Int}
    {before : Int → Int → Prop}
    (chooses : ∀ (left right : Binary64) {place : Int}, left.position? = some place →
      (choose left right).position? = some ((right.position?.map (best place)).getD place))
    {start : Binary64} {place : Int} (stands : start.position? = some place)
    (attained : (values.filterMap position?).foldl best place ∈ values.filterMap position? ∧
      ∀ other ∈ values.filterMap position?,
        before other ((values.filterMap position?).foldl best place)) :
    ∃ chosen, (values.foldl choose start).position? = some chosen ∧
      (∃ value ∈ values, value.position? = some chosen) ∧
      ∀ value ∈ values, ∀ other, value.position? = some other → before other chosen := by
  refine ⟨_, position?_foldl chooses values stands, List.mem_filterMap.mp attained.1, ?_⟩
  intro value listed other standsThere
  exact attained.2 other (List.mem_filterMap.mpr ⟨value, listed, standsThere⟩)

/-- Numbers that stand somewhere have places if there are any. -/
theorem places_ne_nil (nonempty : values ≠ [])
    (numbers : ∀ value ∈ values, ∃ place, value.position? = some place) :
    values.filterMap position? ≠ [] := by
  obtain ⟨value, listed⟩ := List.exists_mem_of_ne_nil values nonempty
  obtain ⟨place, stands⟩ := numbers value listed
  exact List.ne_nil_of_mem (List.mem_filterMap.mpr ⟨value, listed, stands⟩)

/-- Places are between those of the infinities. -/
theorem mem_places {place : Int} (listed : place ∈ values.filterMap position?) :
    -(limit : Int) ≤ place ∧ place ≤ limit := by
  obtain ⟨value, -, stands⟩ := List.mem_filterMap.mp listed
  exact place_bounds stands

/-- The largest of some numbers is one of them, up to the sign of a zero, and none is
larger. -/
theorem maximum_attained (nonempty : values ≠ [])
    (numbers : ∀ value ∈ values, ∃ place, value.position? = some place) :
    (∃ value ∈ values, value.compare? (maximum values) = some .eq) ∧
      ∀ value ∈ values, value.AtMost (maximum values) := by
  have start : (infinite true).position? = some (-(limit : Int)) := rfl
  obtain ⟨chosen, stands, ⟨value, listed, standsThere⟩, largest⟩ :=
    foldl_attained position?_larger start
      (foldl_max_attained (places_ne_nil nonempty numbers) fun _ member => (mem_places member).1)
  constructor
  · refine ⟨value, listed, ?_⟩
    rw [maximum, compare?_of_places standsThere stands, Int.compare_eq_eq.mpr rfl]
  · intro other inValues
    obtain ⟨place, otherStands⟩ := numbers other inValues
    exact atMost_iff.mpr
      ⟨place, chosen, otherStands, stands, largest other inValues place otherStands⟩

/-- The smallest of some numbers is one of them, up to the sign of a zero, and none is
smaller. -/
theorem minimum_attained (nonempty : values ≠ [])
    (numbers : ∀ value ∈ values, ∃ place, value.position? = some place) :
    (∃ value ∈ values, value.compare? (minimum values) = some .eq) ∧
      ∀ value ∈ values, (minimum values).AtMost value := by
  have start : (infinite false).position? = some (limit : Int) := rfl
  obtain ⟨chosen, stands, ⟨value, listed, standsThere⟩, smallest⟩ :=
    foldl_attained position?_smaller start
      (foldl_min_attained (places_ne_nil nonempty numbers) fun _ member => (mem_places member).2)
  constructor
  · refine ⟨value, listed, ?_⟩
    rw [minimum, compare?_of_places standsThere stands, Int.compare_eq_eq.mpr rfl]
  · intro other inValues
    obtain ⟨place, otherStands⟩ := numbers other inValues
    exact atMost_iff.mpr
      ⟨chosen, place, stands, otherStands, smallest other inValues place otherStands⟩

end

end Binary64

namespace Query

/-- Some of the records has the number under the name. -/
def HasNumber (dataset : Dataset) (records : List Record) (name : String) (number : Binary64) :
    Prop :=
  ∃ record ∈ records, cell? dataset.id record name = some (.number number)

/-- Two numbers bound what records have under a name, and both bounds are attained. They are
infinite only where a record has the infinity. -/
structure Bounds (dataset : Dataset) (records : List Record) (name : String)
    (low high : Binary64) : Prop where
  between : ∀ record ∈ records, ∃ number, cell? dataset.id record name = some (.number number) ∧
    low.AtMost number ∧ number.AtMost high
  ordered : low.AtMost high
  lowAttained : ∃ number, HasNumber dataset records name number ∧ number.compare? low = some .eq
  highAttained : ∃ number, HasNumber dataset records name number ∧ number.compare? high = some .eq
  infinite : ∀ negative, low = .infinite negative ∨ high = .infinite negative →
    HasNumber dataset records name (.infinite negative)

section

variable {dataset : Dataset} {records : List Record} {name : String} {numbers : List Binary64}

/-- Where records have numbers under a name, each of them has one of these. -/
theorem number_of_mem (found : numbers? dataset records name = some numbers) {record : Record}
    (member : record ∈ records) :
    ∃ number ∈ numbers, cell? dataset.id record name = some (.number number) := by
  rw [numbers?, Option.bind_eq_some_iff] at found
  obtain ⟨values, read, numeric⟩ := found
  obtain ⟨readable, rfl⟩ := Checks.mapM_eq_some_iff.mp read
  obtain ⟨allNumeric, rfl⟩ := Checks.mapM_eq_some_iff.mp numeric
  obtain ⟨value, held⟩ := Option.isSome_iff_exists.mp (readable record member)
  have listed : value ∈ records.filterMap fun record => cell? dataset.id record name :=
    List.mem_filterMap.mpr ⟨record, member, held⟩
  obtain ⟨number, isNumber⟩ := Option.isSome_iff_exists.mp (allNumeric value listed)
  refine ⟨number, List.mem_filterMap.mpr ⟨value, listed, isNumber⟩, ?_⟩
  cases value with
  | text => cases isNumber
  | number => rw [held, Option.some.inj isNumber]

/-- And each of these is had by some record. -/
theorem hasNumber_of_mem (found : numbers? dataset records name = some numbers)
    {number : Binary64} (listed : number ∈ numbers) : HasNumber dataset records name number := by
  rw [numbers?, Option.bind_eq_some_iff] at found
  obtain ⟨values, read, numeric⟩ := found
  obtain ⟨-, rfl⟩ := Checks.mapM_eq_some_iff.mp read
  obtain ⟨-, rfl⟩ := Checks.mapM_eq_some_iff.mp numeric
  obtain ⟨value, inValues, isNumber⟩ := List.mem_filterMap.mp listed
  obtain ⟨record, inRecords, held⟩ := List.mem_filterMap.mp inValues
  refine ⟨record, inRecords, ?_⟩
  cases value with
  | text => cases isNumber
  | number => rw [held, Option.some.inj isNumber]

/-- A number that is had by a record stands where an infinity does only if it is the
infinity. -/
theorem hasNumber_infinite {bound : Binary64} {negative : Bool}
    (attained : ∃ number, HasNumber dataset records name number ∧
      number.compare? bound = some .eq)
    (isInfinite : bound = .infinite negative) :
    HasNumber dataset records name (.infinite negative) := by
  obtain ⟨number, had, same⟩ := attained
  rw [isInfinite] at same
  rwa [← Binary64.eq_infinite_of_compare same]

/-- The smallest and the largest number of records are their bounds, if there are records
and all of them have numbers that stand somewhere. -/
theorem bounds_of_numbers? (nonempty : records ≠ [])
    (found : numbers? dataset records name = some numbers)
    (noNaN : ∀ record ∈ records, ∀ pattern,
      cell? dataset.id record name ≠ some (.number (.nan pattern))) :
    Bounds dataset records name (Binary64.minimum numbers) (Binary64.maximum numbers) := by
  have inhabited := numbers?_ne_nil nonempty found
  have stand : ∀ number ∈ numbers, ∃ place, number.position? = some place := by
    intro number listed
    obtain ⟨record, member, held⟩ := hasNumber_of_mem found listed
    cases number with
    | finite => exact ⟨_, rfl⟩
    | infinite => exact ⟨_, rfl⟩
    | nan pattern => exact absurd held (noNaN record member pattern)
  obtain ⟨⟨lowest, lowestListed, isLow⟩, smallest⟩ := Binary64.minimum_attained inhabited stand
  obtain ⟨⟨highest, highestListed, isHigh⟩, largest⟩ := Binary64.maximum_attained inhabited stand
  have attained {number bound : Binary64} (listed : number ∈ numbers)
      (same : number.compare? bound = some .eq) :
      ∃ number, HasNumber dataset records name number ∧ number.compare? bound = some .eq :=
    ⟨number, hasNumber_of_mem found listed, same⟩
  refine ⟨?_, ?_, attained lowestListed isLow, attained highestListed isHigh, ?_⟩
  · intro record member
    obtain ⟨number, listed, held⟩ := number_of_mem found member
    exact ⟨number, held, smallest number listed, largest number listed⟩
  · exact (smallest lowest lowestListed).trans (largest lowest lowestListed)
  · rintro negative (low | high)
    · exact hasNumber_infinite (attained lowestListed isLow) low
    · exact hasNumber_infinite (attained highestListed isHigh) high

end

end Query

namespace Plan

variable {lookup : Lookup} {members : List (String × Json)} {plan : Plan}

/-- Every declared rule gives a number for selected records. -/
theorem Spells.result?_exists (spelled : Spells lookup members plan) (typed : plan.WellTyped)
    {records : List Record} (chosen : ∀ record ∈ records, record ∈ plan.selected)
    {rule : Query.DeclaredRule} (declared : rule ∈ Query.rules (.object members)) :
    ∃ number, Query.result? plan.dataset records rule = some (.number number) := by
  rw [spelled.rules_eq] at declared
  obtain ⟨read, inRules, rfl⟩ := List.mem_map.mp declared
  obtain ⟨owned, numeric⟩ := typed.rules read inRules
  obtain ⟨number, computed⟩ := Aggregate.ofRecords_exists
    (fun record member => field_of_selected owned (chosen record member)) numeric
  exact ⟨number, Query.result?_of_computes owned ⟨rfl, computed⟩⟩

/-- Under the name of a rule of numbers, a tuple shows the aggregate of the numbers that its
members have under the target. -/
theorem Spells.groupCell?_of_numbers (spelled : Spells lookup members plan)
    (typed : plan.WellTyped) {names : List String}
    (grouped : Query.grouping? (.object members) = some names) {values : List (Option Value)}
    (member : values ∈ Query.tuples plan.dataset (.object members) names)
    {rule : Query.DeclaredRule} (declared : rule ∈ Query.rules (.object members))
    {aggregate : Aggregate} (labelled : Aggregate.ofLabel? rule.token = some aggregate)
    (numeric : aggregate.needsNumbers = true) :
    ∃ numbers,
      Query.numbers? plan.dataset (Query.members plan.dataset (.object members) names values)
        rule.target = some numbers ∧
      Query.groupCell? plan.dataset (.object members) names values rule.name =
        some (.number (aggregate.ofNumbers numbers)) := by
  have chosen : ∀ record ∈ Query.members plan.dataset (.object members) names values,
      record ∈ plan.selected := by
    intro record inMembers
    rw [← spelled.selected_eq]
    exact (List.mem_filter.mp inMembers).1
  obtain ⟨number, given⟩ := spelled.result?_exists typed chosen declared
  have cell := spelled.groupCell?_of_rule grouped member declared
  rw [Query.result?_of_numbers labelled numeric] at given cell
  obtain ⟨numbers, found, -⟩ := Option.map_eq_some_iff.mp given
  rw [found, Option.map_some] at cell
  exact ⟨numbers, found, cell⟩

end Plan

/-- An accepted query with groups, within the limit, gives one row for each tuple. Where it
has a rule for the largest and one for the smallest number of a field, and no selected record
has there what is not a number, the two numbers that a row shows are the attained bounds of
what the records with its tuple have in the field. -/
theorem answer_bounds {lookup : Lookup} {limit : Nat} {raw : Json} {plan : Plan}
    {names : List String} {highest lowest : Query.DeclaredRule}
    (accepted : Plan.ofQuery lookup raw = .ok plan)
    (grouped : Query.grouping? raw = some names) (within : Query.size plan.dataset raw ≤ limit)
    (highestDeclared : highest ∈ Query.rules raw) (takesLargest : highest.token = "MAX")
    (lowestDeclared : lowest ∈ Query.rules raw) (takesSmallest : lowest.token = "MIN")
    (sameField : lowest.target = highest.target)
    (noNaN : ∀ record ∈ Query.selected plan.dataset raw, ∀ pattern,
      Query.cell? plan.dataset.id record highest.target ≠ some (.number (.nan pattern))) :
    let shown := fun values =>
      Query.rowOf (Query.columns raw) (Query.groupCell? plan.dataset raw names values)
    Query.Gives plan.dataset raw
        (fun rows => rows.Perm ((Query.tuples plan.dataset raw names).map shown))
        (answer lookup limit raw) ∧
      ∀ values ∈ Query.tuples plan.dataset raw names, ∃ low high,
        Query.Bounds plan.dataset (Query.members plan.dataset raw names values) highest.target
          low high ∧
        (lowest.name ∈ Query.columns raw →
          (shown values).get? lowest.name = some (.ofBinary64 low)) ∧
        (highest.name ∈ Query.columns raw →
          (shown values).get? highest.name = some (.ofBinary64 high)) := by
  have typed := Plan.wellTyped_of_ofQuery accepted
  have gives := answer_gives_perm accepted within
  rw [Query.rows_of_grouping grouped] at gives
  refine ⟨gives, ?_⟩
  intro values member
  obtain ⟨members, rfl, spelled⟩ := Plan.ofQuery_eq_ok_iff.mp accepted
  have labelledMax : Aggregate.ofLabel? highest.token = some .max := by
    rw [takesLargest]
    rfl
  have labelledMin : Aggregate.ofLabel? lowest.token = some .min := by
    rw [takesSmallest]
    rfl
  obtain ⟨numbers, found, highCell⟩ :=
    spelled.groupCell?_of_numbers typed grouped member highestDeclared labelledMax rfl
  obtain ⟨others, foundAgain, lowCell⟩ :=
    spelled.groupCell?_of_numbers typed grouped member lowestDeclared labelledMin rfl
  rw [sameField, found] at foundAgain
  obtain rfl := Option.some.inj foundAgain
  have nonempty := (Query.divides plan.dataset (.object members) names).inhabited values member
  have bounds := Query.bounds_of_numbers? nonempty found fun record inMembers =>
    noNaN record (List.mem_filter.mp inMembers).1
  refine ⟨_, _, bounds, ?_, ?_⟩
  · intro selected
    rw [Query.get?_rowOf, if_pos selected, lowCell]
    rfl
  · intro selected
    rw [Query.get?_rowOf, if_pos selected, highCell]
    rfl

/-- The range of averages in each department. -/
def Sample.ranges : Json :=
  .object [
    ("OPTIONS", .object [
      ("COLUMNS", .array [.text "courses_dept", .text "lowest", .text "highest"])]),
    ("TRANSFORMATIONS", .object [
      ("APPLY", .array [
        .object [("lowest", .object [("MIN", .text "courses_avg")])],
        .object [("highest", .object [("MAX", .text "courses_avg")])]]),
      ("GROUP", .array [.text "courses_dept"])]),
    ("WHERE", .object [])]

/-- One row bounds the averages of the two sections of computer science. -/
theorem ranges_bound : ∃ rows, answer (.ofList [Sample.dataset]) 3 Sample.ranges = .ok rows ∧
    ∃ row ∈ rows, ∃ low high,
      row.get? "lowest" = some (.ofBinary64 low) ∧ row.get? "highest" = some (.ofBinary64 high) ∧
      Query.Bounds Sample.dataset
        [.ofSection (Sample.course "cpsc" 80), .ofSection (Sample.course "cpsc" 90)] "courses_avg"
        low high := by
  obtain ⟨plan, accepted, bound⟩ : ∃ plan,
      Plan.ofQuery (.ofList [Sample.dataset]) Sample.ranges = .ok plan ∧
        plan.dataset = Sample.dataset :=
    Checks.exists_ok_of_seen (by decide +kernel)
  have within : Query.size plan.dataset Sample.ranges ≤ 3 := by
    rw [bound]
    decide +kernel
  have noNaN : ∀ record ∈ Query.selected plan.dataset Sample.ranges, ∀ pattern,
      Query.cell? plan.dataset.id record "courses_avg" ≠ some (.number (.nan pattern)) := by
    have finite : Query.FiniteUnder Sample.dataset Sample.ranges ["courses_avg"] := by
      decide +kernel
    rw [bound]
    intro record chosen pattern held
    exact absurd (finite record chosen _ List.mem_cons_self _ held) Bool.false_ne_true
  have grouped : Query.grouping? Sample.ranges = some ["courses_dept"] := rfl
  have largest : ⟨"highest", "MAX", "courses_avg"⟩ ∈ Query.rules Sample.ranges := by
    decide +kernel
  have smallest : ⟨"lowest", "MIN", "courses_avg"⟩ ∈ Query.rules Sample.ranges := by
    decide +kernel
  obtain ⟨gives, each⟩ :=
    answer_bounds accepted grouped within largest rfl smallest rfl rfl noNaN
  rw [bound] at gives each
  obtain ⟨rows, answered, permuted⟩ := gives.exists_rows (Query.sortable_of_unordered rfl)
  have member : [some (.text "cpsc")] ∈
      Query.tuples Sample.dataset Sample.ranges ["courses_dept"] := by
    decide +kernel
  obtain ⟨low, high, bounds, lowShown, highShown⟩ := each _ member
  refine ⟨rows, answered, _, permuted.mem_iff.mpr (List.mem_map_of_mem member), low, high,
    lowShown (by decide +kernel), highShown (by decide +kernel), ?_⟩
  have sections : Query.members Sample.dataset Sample.ranges ["courses_dept"]
      [some (.text "cpsc")] =
        [.ofSection (Sample.course "cpsc" 80), .ofSection (Sample.course "cpsc" 90)] := by
    decide +kernel
  rwa [sections] at bounds

end CampusQuery
