import CampusQuery.Answer
import CampusQuery.Proofs.Grouping
import CampusQuery.Proofs.NameMaps
import CampusQuery.Proofs.Typing

/-!
# The rows of a plan

A well typed plan has rows: the selected records themselves, or one row for each group
of them, with the results of the rules. In each row every column that the plan can
name has a value of the column's type.
-/

namespace CampusQuery

/-- The values of the grouping keys in a record, by identity. -/
def Record.identities (record : Record) (keys : List Key) : List Value :=
  keys.filterMap fun key => (record.value? key.field).map Value.identity

/-- An aggregate of values, where they are what the aggregate needs. -/
def Aggregate.ofValues? (aggregate : Aggregate) (values : List Value) : Option Binary64 :=
  if aggregate.needsNumbers then (values.mapM Value.number?).map aggregate.ofNumbers
  else some (Binary64.ofInt (Value.countDistinct values))

/-- The identities are those of the values under the keys, where all of these are found. -/
theorem Record.forall₂_identities {record : Record} {keys : List Key}
    (same : ∀ key ∈ keys, key.field.kind = record.kind) :
    List.Forall₂ (fun key identity => ∃ value, record.value? key.field = some value ∧
      value.identity = identity) keys (record.identities keys) := by
  induction keys with
  | nil => exact .nil
  | cons key rest inductionHypothesis =>
    obtain ⟨first, others⟩ := List.forall_mem_cons.mp same
    obtain ⟨value, found⟩ := Option.isSome_iff_exists.mp (value?_isSome_iff.mpr first)
    have head : record.identities (key :: rest) = value.identity :: record.identities rest := by
      simp [identities, found]
    rw [head]
    exact .cons ⟨value, found, rfl⟩ (inductionHypothesis others)

/-- Reading a field in a list of records succeeds exactly when each record has it. -/
theorem Record.mapM_value_eq_ok_iff {records : List Record} {field : Field} {values : List Value} :
    records.mapM (·.value field) = .ok values ↔ records.mapM (·.value? field) = some values := by
  induction records generalizing values with
  | nil => simp [pure, Except.pure]
  | cons record rest inductionHypothesis =>
    simp only [List.mapM_cons, Checks.bind_eq_ok, Checks.pure_eq_ok, value_eq_ok_iff,
      inductionHypothesis, Option.bind_eq_bind, Option.bind_eq_some_iff, Option.pure_def,
      Option.some.injEq]

/-- An aggregate is computed exactly from the values of its field in all the records. -/
theorem Aggregate.ofRecords_eq_ok_iff {aggregate : Aggregate} {key : Key} {records : List Record}
    {result : Binary64} :
    aggregate.ofRecords key records = .ok result ↔
      ∃ values, records.mapM (·.value? key.field) = some values ∧
        aggregate.ofValues? values = some result := by
  simp only [ofRecords, Checks.bind_eq_ok, Record.mapM_value_eq_ok_iff, ofValues?]
  refine exists_congr fun values => and_congr_right fun _ => ?_
  cases aggregate.needsNumbers with
  | false => simp
  | true => cases values.mapM Value.number? <;> simp

/-- Numeric values are numbers. -/
theorem Value.mapM_number?_exists {values : List Value}
    (numeric : ∀ value ∈ values, value.type = .numeric) :
    ∃ numbers, values.mapM Value.number? = some numbers := by
  induction values with
  | nil => exact ⟨[], rfl⟩
  | cons value rest inductionHypothesis =>
    obtain ⟨first, others⟩ := List.forall_mem_cons.mp numeric
    obtain ⟨numbers, restNumbers⟩ := inductionHypothesis others
    cases value with
    | number number => exact ⟨number :: numbers, by simp [List.mapM_cons, number?, restNumbers]⟩
    | text => cases first

/-- An aggregate on a field of the records' kind, numeric where it must be, is computed. -/
theorem Aggregate.ofRecords_exists {aggregate : Aggregate} {key : Key} {records : List Record}
    (same : ∀ record ∈ records, key.field.kind = record.kind)
    (numeric : aggregate.needsNumbers = true → key.isNumeric = true) :
    ∃ result, aggregate.ofRecords key records = .ok result := by
  have allRead : ∃ values, records.mapM (·.value key.field) = .ok values :=
    Checks.mapM_exists fun record member =>
      (Record.value_exists (same record member)).imp fun _ => And.left
  obtain ⟨values, read⟩ := allRead
  have type : ∀ value ∈ values, value.type = key.field.holds :=
    Checks.mapM_results read fun record member value found =>
      Record.value?_type (Record.value_eq_ok_iff.mp found)
  have found := Record.mapM_value_eq_ok_iff.mp read
  have computed : ∃ result, aggregate.ofValues? values = some result := by
    unfold ofValues?
    split
    · rename_i needed
      have isNumeric : key.field.holds = .numeric := of_decide_eq_true (numeric needed)
      obtain ⟨numbers, all⟩ :=
        Value.mapM_number?_exists fun value member => (type value member).trans isNumeric
      exact ⟨aggregate.ofNumbers numbers, by rw [all, Option.map_some]⟩
    · exact ⟨_, rfl⟩
  obtain ⟨result, computed⟩ := computed
  exact ⟨result, ofRecords_eq_ok_iff.mpr ⟨values, found, computed⟩⟩

namespace Transformation

/-- The values of owned keys are read in every record of the dataset's kind. -/
theorem groupOf_eq_ok {keys : List Key} {record : Record}
    (same : ∀ key ∈ keys, key.field.kind = record.kind) :
    groupOf keys record = .ok (record.identities keys) := by
  rw [groupOf, Checks.mapM_eq_ok_iff]
  refine (Record.forall₂_identities same).imp ?_
  rintro key _ ⟨value, found, rfl⟩
  rw [Record.value_eq_ok_iff.mpr found]
  rfl

end Transformation

/-- A rule computes a named result from records. -/
def Rule.Computes (records : List Record) (rule : Rule) (result : String × Binary64) : Prop :=
  result.1 = rule.name ∧ rule.aggregate.ofRecords rule.key records = .ok result.2

/-- Results that the rules compute are under the names of the rules. -/
theorem Rule.map_fst_of_computes {records : List Record} {rules : List Rule}
    {results : List (String × Binary64)} (each : List.Forall₂ (Computes records) rules results) :
    results.map Prod.fst = rules.map Rule.name :=
  (Checks.map_eq_map_of_forall₂ each fun _ _ computed => computed.1.symm).symm

namespace Row

/-- The row of a group holds what the rules compute from all of its records. -/
theorem ofGroup_eq_ok_iff {rules : List Rule} {group : Group} {row : Row} :
    ofGroup rules group = .ok row ↔
      ∃ results, List.Forall₂ (Rule.Computes group.records) rules results ∧
        row = .group group.first (.ofList results) := by
  simp only [ofGroup, Checks.bind_eq_ok, Checks.pure_eq_ok, Checks.mapM_eq_ok_iff]
  refine exists_congr fun results => and_congr (iff_of_eq ?_) eq_comm
  congr 1
  funext rule result
  obtain ⟨name, number⟩ := result
  simp only [Rule.Computes, Prod.mk.injEq, eq_iff_iff]
  constructor
  · rintro ⟨_, computed, rfl, rfl⟩
    exact ⟨rfl, computed⟩
  · rintro ⟨rfl, computed⟩
    exact ⟨number, computed, rfl, rfl⟩

/-- Every column that the plan can name has a value of its type in the row. -/
def Fits (plan : Plan) (row : Row) : Prop :=
  ∀ column, plan.Resolves column → ∃ value, row.value column = .ok value ∧ value.type = column.holds

end Row

namespace Plan

variable {plan : Plan}

/-- The records for which the filter holds, in the order of the dataset. -/
def selected (plan : Plan) : List Record :=
  plan.dataset.records.toList.filter plan.filter.verdict

/-- The rows that a plan has: its selected records, or a row for each of the groups that
gather them. -/
inductive Yields (plan : Plan) : List Row → Prop where
  | records (plain : plan.transformation = none) : Yields plan (plan.selected.map .single)
  | groups {transformation : Transformation} {groups : List Group} {rows : List Row}
      (present : plan.transformation = some transformation)
      (gathered : Group.Gathers (·.identities transformation.group) plan.selected groups)
      (done : groups.mapM (Row.ofGroup transformation.rules) = .ok rows) : Yields plan rows

/-- The groups into which a plan places the records that its filter selects. -/
structure GroupsInto (plan : Plan) (transformation : Transformation) (groups : List Group) :
    Prop where
  present : plan.transformation = some transformation
  selects : plan.filter.select plan.dataset.records.toList = .ok plan.selected
  places : Group.ofRecords transformation.group plan.selected = .ok groups

/-- The selected records are of the dataset's kind. -/
theorem kind_of_selected {record : Record} (member : record ∈ plan.selected) :
    record.kind = plan.scope.kind :=
  Records.kind_of_mem (List.mem_filter.mp member).1

/-- An owned key names a field of every selected record. -/
theorem field_of_selected {key : Key} (owned : plan.scope.Owns key) {record : Record}
    (member : record ∈ plan.selected) : key.field.kind = record.kind :=
  owned.kind.trans (kind_of_selected member).symm

/-- The records of a group are selected ones. -/
theorem selected_of_gathers {valuesOf : Record → List Value} {groups : List Group}
    (gathered : Group.Gathers valuesOf plan.selected groups) {group : Group}
    (member : group ∈ groups) {record : Record} (inGroup : record ∈ group.records) :
    record ∈ plan.selected :=
  ((gathered.mem_records_iff member).mp inGroup).1

/-- The rules of a well typed plan compute their results from any selected records. -/
theorem WellTyped.ofGroup_exists (typed : plan.WellTyped) {transformation : Transformation}
    (present : plan.transformation = some transformation) {group : Group}
    (chosen : ∀ record ∈ group.records, record ∈ plan.selected) :
    ∃ row, Row.ofGroup transformation.rules group = .ok row := by
  have each : ∀ rule ∈ transformation.rules, ∃ result, rule.Computes group.records result := by
    intro rule member
    obtain ⟨owned, numeric⟩ := typed.rules rule (by simpa [Plan.rules, present] using member)
    obtain ⟨result, computed⟩ := Aggregate.ofRecords_exists
      (fun record inGroup => field_of_selected owned (chosen record inGroup)) numeric
    exact ⟨(rule.name, result), rfl, computed⟩
  obtain ⟨results, computed⟩ := Checks.exists_forall₂ each
  exact ⟨_, Row.ofGroup_eq_ok_iff.mpr ⟨results, computed, rfl⟩⟩

/-- The filter of a well typed plan selects the records for which it holds. -/
theorem WellTyped.select_eq_selected (typed : plan.WellTyped) :
    plan.filter.select plan.dataset.records.toList = .ok plan.selected :=
  typed.filter.select_eq_filter fun _ => Records.kind_of_mem

/-- A well typed plan with a transformation places the records into groups that gather
them. -/
theorem WellTyped.groups_exist (typed : plan.WellTyped) {transformation : Transformation}
    (present : plan.transformation = some transformation) :
    ∃ groups, plan.GroupsInto transformation groups ∧
      Group.Gathers (·.identities transformation.group) plan.selected groups := by
  obtain ⟨groups, placed, gathered⟩ := Group.ofRecords_gathers fun record member =>
    Transformation.groupOf_eq_ok fun key inGroup =>
      field_of_selected (typed.group transformation present key inGroup) member
  exact ⟨groups, ⟨present, typed.select_eq_selected, placed⟩, gathered⟩

/-- Groups into which a well typed plan places the records gather them. -/
theorem WellTyped.gathers (typed : plan.WellTyped) {transformation : Transformation}
    {groups : List Group} (into : plan.GroupsInto transformation groups) :
    Group.Gathers (·.identities transformation.group) plan.selected groups := by
  obtain ⟨others, again, gathered⟩ := typed.groups_exist into.present
  obtain rfl : groups = others := Except.ok.inj (into.places.symm.trans again.places)
  exact gathered

/-- A well typed plan has rows. -/
theorem WellTyped.rows_exist (typed : plan.WellTyped) :
    ∃ rows, plan.rows = .ok rows ∧ plan.Yields rows := by
  unfold rows
  rw [typed.select_eq_selected, Checks.ok_bind]
  cases present : plan.transformation with
  | none => exact ⟨_, rfl, .records present⟩
  | some transformation =>
    obtain ⟨groups, into, gathered⟩ := typed.groups_exist present
    obtain ⟨rows, done⟩ := Checks.mapM_exists fun group member =>
      typed.ofGroup_exists present fun record => selected_of_gathers gathered member
    refine ⟨rows, ?_, .groups present gathered done⟩
    dsimp only
    rw [into.places, Checks.ok_bind, done]

/-- The row of a group, whichever selected record stands for the group in it, has a value
of its type under every column that the plan can name. -/
theorem fits_of_computes {transformation : Transformation}
    (present : plan.transformation = some transformation) {record : Record}
    (chosen : record ∈ plan.selected) {records : List Record}
    {results : List (String × Binary64)}
    (each : List.Forall₂ (Rule.Computes records) transformation.rules results) :
    (Row.group record (.ofList results)).Fits plan := by
  intro column resolved
  cases column with
  | field key => exact Record.value_exists (field_of_selected resolved chosen)
  | aggregate name =>
    have named : name ∈ results.map Prod.fst := by
      rw [Rule.map_fst_of_computes each]
      simpa [Resolves, ruleNames, Plan.rules, present] using resolved
    obtain ⟨result, found⟩ :=
      Option.isSome_iff_exists.mp (NameMap.get?_ofList_isSome_iff.mpr named)
    exact ⟨.number result, by simp only [Row.value, found], rfl⟩

/-- In the rows of a well typed plan every column has a value of its type. -/
theorem Yields.fits {rows : List Row} (yielded : plan.Yields rows) :
    ∀ row ∈ rows, row.Fits plan := by
  cases yielded with
  | records plain =>
    intro row member column resolved
    obtain ⟨record, inSelected, rfl⟩ := List.mem_map.mp member
    cases column with
    | field key => exact Record.value_exists (field_of_selected resolved inSelected)
    | aggregate name => simp [Resolves, ruleNames, Plan.rules, plain] at resolved
  | groups present gathered done =>
    refine Checks.mapM_results done fun group member row computed => ?_
    obtain ⟨results, each, rfl⟩ := Row.ofGroup_eq_ok_iff.mp computed
    have first := selected_of_gathers gathered member (List.mem_cons_self (a := group.first))
    exact fits_of_computes present first each

end Plan

end CampusQuery
