import Mathlib.Data.List.Nodup
import CampusQuery.Proofs.Answers
import CampusQuery.Proofs.Places

/-!
# The rows of groups

A group is shown through its first record, but its row does not depend on that choice.
Only grouped fields can be columns, the records of a group agree on these up to the sign
of a zero, and a zero is shown without its sign. So every record of the group would stand
for it as well.

Where the values under the grouping names are finite, what is shown tells them apart
again: no two rows show the same tuple, and together the rows show every tuple of the
selected records once.
-/

namespace CampusQuery

/-- Finite values are numbers or texts. -/
theorem Value.IsFinite.not_isNaN {value : Value} (finite : value.IsFinite) : ¬value.IsNaN := by
  cases value with
  | text => exact id
  | number number =>
    cases number with
    | finite => exact id
    | infinite => exact id
    | nan => cases finite

namespace Query

/-- No selected record has, under one of the names, a number that is not finite. -/
def FiniteUnder (dataset : Dataset) (raw : Json) (names : List String) : Prop :=
  ∀ record ∈ selected dataset raw, ∀ name ∈ names, ∀ value ∈ cell? dataset.id record name,
    value.IsFinite

instance (dataset : Dataset) (raw : Json) (names : List String) :
    Decidable (FiniteUnder dataset raw names) :=
  inferInstanceAs (Decidable (∀ record ∈ selected dataset raw, ∀ name ∈ names,
    ∀ value ∈ cell? dataset.id record name, value.IsFinite))

/-- Rows that show each tuple once: no two show the same values under the grouping names,
together they show the values of all tuples, and without rules they show nothing else. -/
structure ShowsTuples (dataset : Dataset) (raw : Json) (names : List String)
    (rows : List ResultRow) : Prop where
  distinct : (rows.map fun row => names.map row.get?).Nodup
  complete : (rows.map fun row => names.map row.get?).Perm
    ((tuples dataset raw names).map (List.map (Option.map Value.toJson)))
  alone : rules raw = [] → ∀ row ∈ rows, ∀ name, name ∉ names → row.get? name = none

variable {dataset : Dataset} {raw : Json} {names : List String}

/-- A tuple of the table is that of some selected record. -/
theorem mem_tuples_iff {values : List (Option Value)} :
    values ∈ tuples dataset raw names ↔
      ∃ record ∈ selected dataset raw, tuple dataset names record = values := by
  rw [tuples, List.mem_eraseDups, List.mem_map]

/-- With groups, the rows that a query means are one for each tuple. -/
theorem rows_of_grouping (grouped : grouping? raw = some names) :
    rows dataset raw = (tuples dataset raw names).map fun values =>
      rowOf (columns raw) (groupCell? dataset raw names values) := by
  rw [rows, table, grouped]
  exact List.map_map

/-- Under a grouping name that is a column, the row of a tuple shows the value of every
record that has the tuple. -/
theorem get?_of_tuple (record : Record) {name : String} (listed : name ∈ names)
    (covered : name ∈ columns raw) :
    (rowOf (columns raw) (groupCell? dataset raw names (tuple dataset names record))).get? name =
      (cell? dataset.id record name).map Value.toJson := by
  rw [get?_rowOf, if_pos covered, groupCell?_of_listed dataset raw record listed]
  exact Value.map_toJson_identity _

/-- Under the grouping names, if all of them are columns, a row shows its tuple. -/
theorem map_get?_of_tuple (covered : ∀ name ∈ names, name ∈ columns raw)
    {values : List (Option Value)} (member : values ∈ tuples dataset raw names) :
    names.map (rowOf (columns raw) (groupCell? dataset raw names values)).get? =
      values.map (Option.map Value.toJson) := by
  obtain ⟨record, -, rfl⟩ := mem_tuples_iff.mp member
  conv_rhs => rw [tuple, List.map_map]
  refine List.map_congr_left fun name listed => ?_
  rw [get?_of_tuple record listed (covered name listed), Function.comp_apply,
    Value.map_toJson_identity]

/-- Without rules, the row of a tuple shows nothing but the tuple. -/
theorem get?_of_no_rules (noRules : rules raw = []) {values : List (Option Value)}
    (member : values ∈ tuples dataset raw names) {name : String} (unlisted : name ∉ names) :
    (rowOf (columns raw) (groupCell? dataset raw names values)).get? name = none := by
  obtain ⟨record, -, rfl⟩ := mem_tuples_iff.mp member
  have nothing : groupCell? dataset raw names (tuple dataset names record) name = none := by
    rw [groupCell?_of_unlisted dataset raw record unlisted, noRules]
    rfl
  rw [get?_rowOf, nothing]
  split <;> rfl

/-- A table of tuples has numbers and texts under all names, if the selected records have them
under the grouping names and the rules give no others. -/
theorem numbersOnly_of_grouping (grouped : grouping? raw = some names)
    (numbers : ∀ record ∈ selected dataset raw, ∀ name ∈ names,
      ∀ value ∈ cell? dataset.id record name, ¬value.IsNaN)
    (results : ∀ values ∈ tuples dataset raw names, ∀ rule ∈ rules raw,
      ∀ value ∈ result? dataset (members dataset raw names values) rule, ¬value.IsNaN) :
    NumbersOnly dataset raw := by
  unfold NumbersOnly table
  rw [grouped, List.forall_mem_map]
  intro values member name _ value held
  obtain ⟨record, chosen, rfl⟩ := mem_tuples_iff.mp member
  by_cases listed : name ∈ names
  · rw [groupCell?_of_listed dataset raw record listed] at held
    obtain ⟨original, found, rfl⟩ := Option.map_eq_some_iff.mp held
    rw [Value.isNaN_identity]
    exact numbers record chosen name listed original found
  · rw [groupCell?_of_unlisted dataset raw record listed] at held
    obtain ⟨rule, declared, given⟩ := Option.bind_eq_some_iff.mp held
    exact results _ member rule (List.mem_of_find?_eq_some declared) value given

/-- Tuples of finite values are told apart by what is shown of them. -/
theorem eq_of_shown (finite : FiniteUnder dataset raw names)
    {left right : List (Option Value)} (leftMember : left ∈ tuples dataset raw names)
    (rightMember : right ∈ tuples dataset raw names)
    (same : left.map (Option.map Value.toJson) = right.map (Option.map Value.toJson)) :
    left = right := by
  obtain ⟨leftRecord, leftChosen, rfl⟩ := mem_tuples_iff.mp leftMember
  obtain ⟨rightRecord, rightChosen, rfl⟩ := mem_tuples_iff.mp rightMember
  rw [tuple, tuple, List.map_map, List.map_map, List.map_inj_left] at same
  refine List.map_congr_left fun name listed => ?_
  have alike := same name listed
  rw [Function.comp_apply, Function.comp_apply, Value.map_toJson_identity,
    Value.map_toJson_identity] at alike
  have leftFinite := finite leftRecord leftChosen name listed
  have rightFinite := finite rightRecord rightChosen name listed
  exact Value.map_identity_eq_of_toJson leftFinite rightFinite alike

/-- The rows that a grouped query means show each tuple once, in any sequence. -/
theorem showsTuples (grouped : grouping? raw = some names)
    (finite : FiniteUnder dataset raw names) (covered : ∀ name ∈ names, name ∈ columns raw)
    {shown : List ResultRow} (permuted : shown.Perm (rows dataset raw)) :
    ShowsTuples dataset raw names shown := by
  have each : ((rows dataset raw).map fun row => names.map row.get?) =
      (tuples dataset raw names).map (List.map (Option.map Value.toJson)) := by
    rw [rows_of_grouping grouped, List.map_map]
    exact List.map_congr_left fun values member => map_get?_of_tuple covered member
  have distinct : ((tuples dataset raw names).map (List.map (Option.map Value.toJson))).Nodup :=
    List.Nodup.map_on (fun left leftMember right rightMember =>
      eq_of_shown finite leftMember rightMember) (divides dataset raw names).distinct
  have images := permuted.map fun row => names.map row.get?
  rw [each] at images
  refine ⟨images.nodup_iff.mpr distinct, images, fun noRules row member name unlisted => ?_⟩
  have inRows := permuted.mem_iff.mp member
  rw [rows_of_grouping grouped] at inRows
  obtain ⟨values, inTuples, rfl⟩ := List.mem_map.mp inRows
  exact get?_of_no_rules noRules inTuples unlisted

end Query

namespace Plan

variable {lookup : Lookup} {members : List (String × Json)} {plan : Plan}
  {transformation : Transformation} {groups : List Group}

/-- The row that a query means for a group. -/
def rowOfGroup (plan : Plan) (raw : Json) (transformation : Transformation) (group : Group) :
    ResultRow :=
  Query.rowOf (Query.columns raw) (Query.groupCell? plan.dataset raw
    (transformation.group.map Key.display) (group.values.map some))

/-- The rows that a query means are those of its groups. -/
theorem Spells.rows_eq (spelled : Spells lookup members plan) (typed : plan.WellTyped)
    (into : plan.GroupsInto transformation groups) :
    Query.rows plan.dataset (.object members) =
      groups.map (plan.rowOfGroup (.object members) transformation) := by
  have grouped : Query.grouping? (.object members) =
      some (transformation.group.map Key.display) := by
    rw [spelled.grouping_eq, into.present, Option.map_some]
  rw [Query.rows_of_grouping grouped, spelled.tuples_eq into.present (typed.gathers into),
    List.map_map]
  rfl

/-- Whichever of its records stands for a group, the columns show the row of the group. -/
theorem Spells.project_member (spelled : Spells lookup members plan) (typed : plan.WellTyped)
    (into : plan.GroupsInto transformation groups) {group : Group} (member : group ∈ groups)
    {record : Record} (inGroup : record ∈ group.records) {results : List (String × Binary64)}
    (each : List.Forall₂ (Rule.Computes group.records) transformation.rules results) :
    (Row.group record (.ofList results)).project plan.options.columns =
      .ok (plan.rowOfGroup (.object members) transformation group) := by
  have gathered := typed.gathers into
  have chosen := selected_of_gathers gathered member inGroup
  -- The row is read as it would be for any row of the plan; what it shows is settled by the
  -- tuple, which all records of the group have in common.
  have fits := fits_of_computes into.present chosen each
  obtain ⟨shown, projected⟩ := Row.project_exists fits typed.columns
  have matched := spelled.group_matches into.present gathered member inGroup each
  have shows := Row.project_shows projected matched
  rw [projected, rowOfGroup, spelled.columns_eq]
  exact congrArg Except.ok shows.eq_rowOf

end Plan

/-- The rows of an accepted query with groups are those of the groups, rearranged, and
the row of a group is the same whichever of its records stands for it. Where the grouping
names are columns and what stands under them is finite, the rows that the query gives within
the limit show each tuple of the selected records once, and nothing else if there are no
rules; without rules there always are such rows. -/
theorem answer_groups {lookup : Lookup} {limit : Nat} {raw : Json} {plan : Plan}
    {names : List String} (accepted : Plan.ofQuery lookup raw = .ok plan)
    (grouped : Query.grouping? raw = some names) :
    (∃ transformation groups, ∃ shows : Group → ResultRow,
      plan.GroupsInto transformation groups ∧
      (∀ group ∈ groups, ∃ results,
        Row.ofGroup transformation.rules group = .ok (.group group.first results) ∧
        ∀ record ∈ group.records,
          (Row.group record results).project plan.options.columns = .ok (shows group)) ∧
      ∀ rows, answer lookup limit raw = .ok rows → rows.Perm (groups.map shows)) ∧
    (Query.FiniteUnder plan.dataset raw names → (∀ name ∈ names, name ∈ Query.columns raw) →
      Query.size plan.dataset raw ≤ limit →
        Query.Gives plan.dataset raw (Query.ShowsTuples plan.dataset raw names)
          (answer lookup limit raw) ∧
        (Query.rules raw = [] → ∃ rows, answer lookup limit raw = .ok rows ∧
          Query.ShowsTuples plan.dataset raw names rows)) := by
  have typed := Plan.wellTyped_of_ofQuery accepted
  constructor
  · obtain ⟨members, rfl, spelled⟩ := Plan.ofQuery_eq_ok_iff.mp accepted
    rw [spelled.grouping_eq, Option.map_eq_some_iff] at grouped
    obtain ⟨transformation, present, -⟩ := grouped
    obtain ⟨groups, into, gathered⟩ := typed.groups_exist present
    refine ⟨transformation, groups, plan.rowOfGroup (.object members) transformation, into, ?_, ?_⟩
    · intro group member
      obtain ⟨row, computed⟩ := typed.ofGroup_exists present fun record =>
        Plan.selected_of_gathers gathered member
      obtain ⟨results, each, rfl⟩ := Row.ofGroup_eq_ok_iff.mp computed
      exact ⟨_, computed, fun record inGroup =>
        spelled.project_member typed into member inGroup each⟩
    · intro rows answered
      rw [← spelled.rows_eq typed into]
      exact perm_of_answer accepted answered
  · intro finite covered within
    have gives := (answer_gives_perm accepted within).imp fun rows permuted =>
      Query.showsTuples grouped finite covered permuted
    refine ⟨gives, fun noRules => gives.exists_rows fun unsortable => unsortable.unplaced ?_⟩
    apply Query.numbersOnly_of_grouping grouped
    · exact fun record chosen name listed value held =>
        (finite record chosen name listed value held).not_isNaN
    · rw [noRules]
      exact fun _ _ rule listed => absurd listed List.not_mem_nil

/-- Three sections, two of them without audits: one has a zero there, the other a zero
with a sign. -/
def Sample.audited : Dataset :=
  ⟨"courses", .sections [
    { course "cpsc" 80 with audit := .ofUnits true 0 },
    { course "math" 70 with audit := .ofInt 4 },
    course "phil" 60]⟩

/-- The numbers of audits. -/
def Sample.audits : Json :=
  .object [
    ("OPTIONS", .object [("COLUMNS", .array [.text "courses_audit"])]),
    ("TRANSFORMATIONS", .object [
      ("APPLY", .array []), ("GROUP", .array [.text "courses_audit"])]),
    ("WHERE", .object [])]

/-- The two zeros make one group, and the answer has one row for it. -/
theorem audits_groups : ∃ plan rows,
    Plan.ofQuery (.ofList [Sample.audited]) Sample.audits = .ok plan ∧
      answer (.ofList [Sample.audited]) 2 Sample.audits = .ok rows ∧ rows.length = 2 ∧
      Query.ShowsTuples Sample.audited Sample.audits ["courses_audit"] rows := by
  obtain ⟨plan, accepted, bound⟩ : ∃ plan,
      Plan.ofQuery (.ofList [Sample.audited]) Sample.audits = .ok plan ∧
        plan.dataset = Sample.audited :=
    Checks.exists_ok_of_seen (by decide +kernel)
  have grouped : Query.grouping? Sample.audits = some ["courses_audit"] := rfl
  obtain ⟨-, shown⟩ := @answer_groups _ 2 _ _ _ accepted grouped
  rw [bound] at shown
  obtain ⟨-, answers⟩ := shown (by decide +kernel) (by decide +kernel) (by decide +kernel)
  obtain ⟨rows, answered, each⟩ := answers rfl
  have two : (Query.tuples Sample.audited Sample.audits ["courses_audit"]).length = 2 := by
    decide +kernel
  have counted := each.complete.length_eq
  rw [List.length_map, List.length_map, two] at counted
  exact ⟨plan, rows, accepted, answered, counted, each⟩

end CampusQuery
