import CampusQuery.Proofs.Answers
import CampusQuery.Proofs.CatalogRuns
import CampusQuery.Proofs.Language

/-!
# What can be registered can be queried

The catalog looks for a blank identifier and for underscores; a key is split at its
underscores, and what stands before the only one of them must not be blank. These are two
statements of one rule. So every dataset that a run has registered can be queried through a
snapshot, by each of its fields, and no lookup at all can bring a dataset into a plan whose
identifier the catalog would refuse.
-/

namespace CampusQuery

namespace Query

/-- The query for a single field of all records of a dataset. -/
def ofField (id : String) (field : Field) : Json :=
  .object [
    ("OPTIONS", .object [("COLUMNS", .array [.text (id ++ "_" ++ field.label)])]),
    ("WHERE", .object [])]

/-- The identifier of a dataset for which a query is derivable can stand in a key: the query
names a field of the dataset, among the columns or among the grouping keys. -/
theorem IsQuery.isId {scope : Scope} {raw : Json} (derived : IsQuery scope raw) :
    IsId scope.dataset := by
  cases derived with
  | ungrouped known filtering selecting plain isCondition isOptions =>
    cases isOptions with
    | mk known selecting some each ordered =>
      obtain ⟨column, selected⟩ := List.exists_mem_of_ne_nil _ some
      rcases each column selected with ruled | ⟨⟨field, valid, -⟩, -⟩
      · cases ruled
      · exact valid
  | grouped known filtering selecting transforming isCondition isTransformation isOptions =>
    cases isTransformation with
    | mk known grouping grouped keys applying rules distinct =>
      obtain ⟨name, listed⟩ := List.exists_mem_of_ne_nil _ grouped
      obtain ⟨field, valid, -⟩ := keys name listed
      exact valid

/-- The query for a field is a query on every dataset that has the field, under an identifier
that can stand in a key. -/
theorem isQuery_ofField {scope : Scope} {field : Field} (valid : IsId scope.dataset)
    (belongs : field ∈ Field.ofKind scope.kind) : IsQuery scope (ofField scope.dataset field) := by
  have isOptions : IsOptions scope [] none
      (.object [("COLUMNS", .array [.text (scope.dataset ++ "_" ++ field.label)])]) := by
    refine @IsOptions.mk _ _ _ _ [scope.dataset ++ "_" ++ field.label] (by simp) rfl (by simp)
      ?_ nofun
    intro column selected
    obtain rfl := List.mem_singleton.mp selected
    exact .inr ⟨⟨field, valid, belongs, rfl⟩, nofun⟩
  exact .ungrouped (by simp) rfl rfl rfl .all isOptions

/-- It selects all records. -/
theorem selected_ofField (dataset : Dataset) (field : Field) :
    selected dataset (ofField dataset.id field) = dataset.records.toList :=
  List.filter_eq_self.mpr fun _ _ => rfl

/-- It means a row for each record, with the value of the field under its name. -/
theorem rows_ofField {dataset : Dataset} {field : Field}
    (belongs : field ∈ Field.ofKind dataset.kind) :
    List.Forall₂
      (fun record row => ∃ value, record.value? field = some value ∧
        row = NameMap.ofList [(dataset.id ++ "_" ++ field.label, value.toJson)])
      dataset.records.toList (rows dataset (ofField dataset.id field)) := by
  have meant : rows dataset (ofField dataset.id field) = dataset.records.toList.map fun record =>
      rowOf [dataset.id ++ "_" ++ field.label] (cell? dataset.id record) := by
    rw [rows, table, show grouping? (ofField dataset.id field) = none from rfl, selected_ofField]
    exact List.map_map
  rw [meant, List.forall₂_map_right_iff, List.forall₂_same]
  intro record member
  have sameKind : field.kind = record.kind :=
    (Field.mem_ofKind_iff.mp belongs).trans (Records.kind_of_mem member).symm
  obtain ⟨value, held⟩ := Option.isSome_iff_exists.mp (Record.value?_isSome_iff.mpr sameKind)
  have shown : cell? dataset.id record (dataset.id ++ "_" ++ field.label) = some value :=
    (cell?_display record ⟨dataset.id, field⟩).trans held
  refine ⟨value, held, ?_⟩
  rw [rowOf, List.filterMap_cons, shown]
  rfl

end Query

namespace Memory

/-- What can be registered is what can be queried. After every run, every registered dataset
is bound by the query for any of its fields, and the query is answered with one row for each
record, in their order, if the limit allows as many. And whatever the lookup, a plan binds
only datasets whose identifiers the catalog takes: a text is read as a key exactly when it
displays one with such an identifier. -/
theorem registered_queried :
    (∀ requests place id dataset field,
      let catalog := (start.after requests).registry place
      catalog.datasets.get? id = some dataset → field ∈ Field.ofKind dataset.kind →
        (∃ plan, Plan.ofQuery catalog.snapshot.lookup (Query.ofField dataset.id field) = .ok plan ∧
          plan.dataset = dataset) ∧
        ∀ limit, dataset.size ≤ limit → ∃ rows,
          answer catalog.snapshot.lookup limit (Query.ofField dataset.id field) = .ok rows ∧
          List.Forall₂
            (fun record row => ∃ value, record.value? field = some value ∧
              row = NameMap.ofList [(dataset.id ++ "_" ++ field.label, value.toJson)])
            dataset.records.toList rows) ∧
    (∀ lookup raw plan, Plan.ofQuery lookup raw = .ok plan →
      Catalog.checkId plan.dataset.id = .ok ()) ∧
    ∀ raw key, Key.read raw = .ok key ↔
      raw = key.display ∧ Catalog.checkId key.dataset = .ok () := by
  refine ⟨?_, ?_, ?_⟩
  · intro requests place id dataset field catalog registered belongs
    have admitted := sound_after requests place id dataset registered
    obtain rfl := admitted.named
    have derived : Query.IsQuery dataset.scope (Query.ofField dataset.id field) :=
      Query.isQuery_ofField admitted.valid belongs
    have found : catalog.snapshot.lookup dataset.id = some dataset := registered
    obtain ⟨plan, accepted, rfl⟩ := derived.exists_plan_on found
    refine ⟨⟨plan, accepted, rfl⟩, fun limit within => ?_⟩
    have size : Query.size plan.dataset (Query.ofField plan.dataset.id field) ≤ limit := by
      rw [Query.size_of_plain rfl, Query.selected_ofField]
      exact within
    have answered := answer_of_unordered accepted size rfl
    exact ⟨_, answered, Query.rows_ofField belongs⟩
  · intro lookup raw plan accepted
    have derived := (Query.isQuery_of_ofQuery accepted).2
    exact Catalog.checkId_eq_ok_iff.mpr derived.isId
  · intro raw key
    rw [Catalog.checkId_eq_ok_iff, Key.read_eq_ok_iff]

/-- The sections are registered, and their averages are queried through a snapshot. The
identifier that the plan binds is one that the catalog takes. -/
theorem courses_queried :
    let catalog := (start.after [.through ⟨0⟩ (.add Sample.dataset)]).registry 0
    let query := Query.ofField "courses" .avg
    (∃ plan, Plan.ofQuery catalog.snapshot.lookup query = .ok plan ∧
      plan.dataset = Sample.dataset) ∧
    (∃ rows, answer catalog.snapshot.lookup 4 query = .ok rows ∧ rows.length = 4) ∧
    Catalog.checkId "courses" = .ok () := by
  intro catalog query
  obtain ⟨accepts, binds, -⟩ := registered_queried
  have registered : catalog.datasets.get? "courses" = some Sample.dataset := by decide +kernel
  obtain ⟨⟨plan, accepted, bound⟩, answers⟩ :=
    accepts [.through ⟨0⟩ (.add Sample.dataset)] 0 "courses" Sample.dataset .avg registered
      (by decide)
  obtain ⟨rows, answered, each⟩ := answers 4 (by decide)
  have taken := binds _ _ plan accepted
  rw [bound] at taken
  exact ⟨⟨plan, accepted, bound⟩, ⟨rows, answered, each.length_eq.symm⟩, taken⟩

end Memory

end CampusQuery
