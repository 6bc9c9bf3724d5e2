import CampusQuery.Proofs.Places
import CampusQuery.Proofs.Readings
import CampusQuery.Proofs.Safety

/-!
# The meaning of a query

What a query means is given here without plans, groups or maps: select the records that
satisfy the condition; without a transformation show each of them; otherwise take the
distinct tuples of their values under the grouping names and, for each tuple, show its
values and the aggregates of all selected records that have it. An accepted query
without an order is answered with exactly these rows, as long as the limit allows them.
-/

namespace CampusQuery

namespace Query

/-- The records that satisfy the condition, in the order of the dataset. -/
def selected (dataset : Dataset) (raw : Json) : List Record :=
  dataset.records.toList.filter fun record => holds dataset.id record (condition raw)

/-- The values of a record under the names, by identity. -/
def tuple (dataset : Dataset) (names : List String) (record : Record) : List (Option Value) :=
  names.map fun name => (cell? dataset.id record name).map Value.identity

/-- The distinct tuples of the selected records, in the order of their first occurrence. -/
def tuples (dataset : Dataset) (raw : Json) (names : List String) : List (List (Option Value)) :=
  ((selected dataset raw).map (tuple dataset names)).eraseDups

/-- The selected records that have a tuple, in their order. -/
def members (dataset : Dataset) (raw : Json) (names : List String)
    (values : List (Option Value)) : List Record :=
  (selected dataset raw).filter fun record => tuple dataset names record = values

/-- What a rule gives for records: its aggregate of the values of its field in each. -/
def result? (dataset : Dataset) (records : List Record) (rule : DeclaredRule) : Option Value := do
  let aggregate ← Aggregate.ofLabel? rule.token
  let values ← records.mapM fun record => cell? dataset.id record rule.target
  return .number (← aggregate.ofValues? values)

/-- What a tuple has under a name: its own value there, or else what the rule of the
name gives for the members of the tuple. -/
def groupCell? (dataset : Dataset) (raw : Json) (names : List String)
    (values : List (Option Value)) (name : String) : Option Value :=
  match (names.zip values).lookup name with
  | some value => value
  | none =>
    ((rules raw).find? (·.name = name)).bind (result? dataset (members dataset raw names values))

/-- A row that maps each column to its value, and has no other names. -/
structure Shows (columns : List String) (cell : String → Option Value) (row : ResultRow) :
    Prop where
  present : ∀ name ∈ columns, ∃ value, cell name = some value ∧ row.get? name = some value.toJson
  absent : ∀ name, name ∉ columns → row.get? name = none

/-- What the rows of a query hold under each name, in their order: the selected records
themselves, or the tuples where there are groups. -/
def table (dataset : Dataset) (raw : Json) : List (String → Option Value) :=
  match grouping? raw with
  | none => (selected dataset raw).map (cell? dataset.id)
  | some names => (tuples dataset raw names).map (groupCell? dataset raw names)

/-- The rows that a query means, in their order. -/
def Evaluates (dataset : Dataset) (raw : Json) (rows : List ResultRow) : Prop :=
  List.Forall₂ (Shows (columns raw)) (table dataset raw) rows

/-- The number of rows that a query means. -/
def size (dataset : Dataset) (raw : Json) : Nat := (table dataset raw).length

/-- The tuples divide the selected records: none occurs twice, each has a member, and
every selected record is a member of exactly one. -/
structure Divides (dataset : Dataset) (raw : Json) (names : List String) : Prop where
  distinct : (tuples dataset raw names).Nodup
  inhabited : ∀ values ∈ tuples dataset raw names, members dataset raw names values ≠ []
  covers : ∀ record ∈ selected dataset raw,
    ∃! values, values ∈ tuples dataset raw names ∧ record ∈ members dataset raw names values

end Query

/-- Each of the columns of a row has, up to the sign of a zero, the value that stands
under its name. -/
def Row.Matches (columns : List Column) (cell : String → Option Value) (row : Row) : Prop :=
  ∀ column ∈ columns, ∀ value, row.value column = .ok value →
    ∃ other, cell column.label = some other ∧ other.identity = value.identity

/-- A row shows the columns with the values that stand under their names. -/
theorem Row.project_shows {columns : List Column} {row : Row} {shown : ResultRow}
    {cell : String → Option Value} (projected : row.project columns = .ok shown)
    (matched : row.Matches columns cell) : Query.Shows (columns.map Column.label) cell shown := by
  simp only [project, Checks.bind_eq_ok, Checks.pure_eq_ok, Checks.mapM_eq_ok_iff] at projected
  obtain ⟨pairs, each, rfl⟩ := projected
  have names : columns.map Column.label = pairs.map Prod.fst := by
    apply Checks.map_eq_map_of_forall₂ each
    rintro column pair ⟨value, -, rfl⟩
    rfl
  have held : ∀ pair ∈ pairs, ∃ other, cell pair.1 = some other ∧ other.toJson = pair.2 := by
    have inEach := (List.forall₂_and_left columns pairs).mpr ⟨fun _ member => member, each⟩
    intro pair member
    obtain ⟨column, -, selected, value, read, rfl⟩ := Checks.exists_of_mem_right inEach member
    obtain ⟨other, found, same⟩ := matched column selected value read
    exact ⟨other, found, Value.toJson_eq same⟩
  constructor
  · intro name selected
    rw [names] at selected
    obtain ⟨⟨_, json⟩, member, rfl⟩ := List.mem_map.mp selected
    obtain ⟨other, found, rfl⟩ := held _ member
    refine ⟨other, found, NameMap.get?_ofList_of_mem member fun json again => ?_⟩
    obtain ⟨another, foundAgain, rfl⟩ := held _ again
    rw [Option.some.inj (found.symm.trans foundAgain)]
  · intro name absent
    exact NameMap.get?_ofList_eq_none (names ▸ absent)

namespace Query

/-- Under the display of an owned key stands the value of its field. -/
theorem cell?_of_owns {dataset : Dataset} {key : Key} (owned : dataset.scope.Owns key)
    (record : Record) : cell? dataset.id record key.display = record.value? key.field := by
  have held := cell?_display record key
  rwa [owned.dataset] at held

/-- A tuple that belongs to a record has under each of its names the value of the record. -/
theorem lookup_tuple (dataset : Dataset) (names : List String) (record : Record) (name : String) :
    (names.zip (tuple dataset names record)).lookup name =
      if name ∈ names then some ((cell? dataset.id record name).map Value.identity) else none := by
  rw [tuple]
  induction names with
  | nil => rfl
  | cons first rest inductionHypothesis =>
    rw [List.map_cons, List.zip_cons_cons, NameMap.lookup_cons_eq, inductionHypothesis]
    by_cases same : name = first
    · subst same
      simp
    · simp [same]

/-- Under a grouping name the tuple of a record shows the value of the record, by identity. -/
theorem groupCell?_of_listed (dataset : Dataset) (raw : Json) {names : List String}
    (record : Record) {name : String} (listed : name ∈ names) :
    groupCell? dataset raw names (tuple dataset names record) name =
      (cell? dataset.id record name).map Value.identity := by
  rw [groupCell?, lookup_tuple]
  simp only [if_pos listed]

/-- Under any other name it shows what the rule of the name gives for its members. -/
theorem groupCell?_of_unlisted (dataset : Dataset) (raw : Json) {names : List String}
    (record : Record) {name : String} (unlisted : name ∉ names) :
    groupCell? dataset raw names (tuple dataset names record) name =
      ((rules raw).find? (·.name = name)).bind
        (result? dataset (members dataset raw names (tuple dataset names record))) := by
  rw [groupCell?, lookup_tuple]
  simp only [if_neg unlisted]

/-- A declared rule gives what the rule computes. -/
theorem result?_of_computes {dataset : Dataset} {records : List Record} {rule : Rule}
    (owned : dataset.scope.Owns rule.key) {name : String} {result : Binary64}
    (computed : rule.Computes records (name, result)) :
    result? dataset records rule.declared = some (.number result) := by
  obtain ⟨values, read, applied⟩ := Aggregate.ofRecords_eq_ok_iff.mp computed.2
  have labelled := Aggregate.ofLabel?_eq_some_iff.mpr (rfl : rule.aggregate.label = _)
  simp only [result?, Rule.declared, labelled, cell?_of_owns owned, Option.bind_eq_bind,
    Option.bind_some, read, applied]
  rfl

/-- The tuples divide the selected records, whatever the names. -/
theorem divides (dataset : Dataset) (raw : Json) (names : List String) :
    Divides dataset raw names := by
  constructor
  · exact Group.nodup_eraseDups _
  · intro values member
    obtain ⟨record, chosen, rfl⟩ := List.mem_map.mp (List.mem_eraseDups.mp member)
    exact List.ne_nil_of_mem (List.mem_filter.mpr ⟨chosen, decide_eq_true rfl⟩)
  · intro record chosen
    refine ⟨tuple dataset names record, ⟨?_, ?_⟩, ?_⟩
    · exact List.mem_eraseDups.mpr (List.mem_map_of_mem chosen)
    · exact List.mem_filter.mpr ⟨chosen, decide_eq_true rfl⟩
    · rintro values ⟨-, inMembers⟩
      exact (of_decide_eq_true (List.mem_filter.mp inMembers).2).symm

/-- Under the displays of owned keys a record has the values of their fields. -/
theorem tuple_of_owns {dataset : Dataset} {keys : List Key}
    (owned : ∀ key ∈ keys, dataset.scope.Owns key) {record : Record}
    (same : record.kind = dataset.kind) :
    tuple dataset (keys.map Key.display) record = (record.identities keys).map some := by
  have ofKind : ∀ key ∈ keys, key.field.kind = record.kind := fun key member =>
    (owned key member).kind.trans same.symm
  have each := (List.forall₂_and_left keys _).mpr ⟨owned, Record.forall₂_identities ofKind⟩
  rw [tuple, List.map_map]
  apply Checks.map_eq_map_of_forall₂ each
  rintro key _ ⟨owns, value, found, rfl⟩
  rw [Function.comp_apply, cell?_of_owns owns, found, Option.map_some]

section

variable {dataset : Dataset} {raw : Json} {keys : List Key} {groups : List Group}

/-- The selected records are of the dataset's kind. -/
theorem kind_of_selected {record : Record} (chosen : record ∈ selected dataset raw) :
    record.kind = dataset.kind :=
  Records.kind_of_mem (List.mem_filter.mp chosen).1

/-- Where groups gather the selected records, their values are the tuples. -/
theorem tuples_of_gathers (owned : ∀ key ∈ keys, dataset.scope.Owns key)
    (gathered : Group.Gathers (·.identities keys) (selected dataset raw) groups) :
    tuples dataset raw (keys.map Key.display) = groups.map fun group => group.values.map some := by
  have injective : Function.Injective (List.map (some : Value → Option Value)) :=
    List.map_injective_iff.mpr fun _ _ => Option.some.inj
  have each : (selected dataset raw).map (tuple dataset (keys.map Key.display)) =
      ((selected dataset raw).map (·.identities keys)).map (List.map some) := by
    rw [List.map_map]
    exact List.map_congr_left fun record chosen => tuple_of_owns owned (kind_of_selected chosen)
  rw [tuples, each, Group.eraseDups_map injective, ← gathered.order, List.map_map]
  rfl

/-- The members of a group's tuple are the records of the group. -/
theorem members_of_gathers (owned : ∀ key ∈ keys, dataset.scope.Owns key)
    (gathered : Group.Gathers (·.identities keys) (selected dataset raw) groups)
    {group : Group} (member : group ∈ groups) :
    members dataset raw (keys.map Key.display) (group.values.map some) = group.records := by
  rw [gathered.members group member, members]
  refine List.filter_congr fun record chosen => ?_
  rw [tuple_of_owns owned (kind_of_selected chosen)]
  exact decide_eq_decide.mpr (List.map_inj_right fun _ _ => Option.some.inj)

/-- The tuple of a group is that of each of its records. -/
theorem values_of_gathers (owned : ∀ key ∈ keys, dataset.scope.Owns key)
    (gathered : Group.Gathers (·.identities keys) (selected dataset raw) groups)
    {group : Group} (member : group ∈ groups) {record : Record}
    (inGroup : record ∈ group.records) :
    group.values.map some = tuple dataset (keys.map Key.display) record := by
  obtain ⟨chosen, same⟩ := (gathered.mem_records_iff member).mp inGroup
  rw [tuple_of_owns owned (kind_of_selected chosen), same]

/-- Under a grouping name a group shows the value of any of its records, by identity. -/
theorem groupCell?_of_mem (owned : ∀ key ∈ keys, dataset.scope.Owns key)
    (gathered : Group.Gathers (·.identities keys) (selected dataset raw) groups)
    {group : Group} (member : group ∈ groups) {record : Record}
    (inGroup : record ∈ group.records) {name : String} (listed : name ∈ keys.map Key.display) :
    groupCell? dataset raw (keys.map Key.display) (group.values.map some) name =
      (cell? dataset.id record name).map Value.identity := by
  rw [values_of_gathers owned gathered member inGroup]
  exact groupCell?_of_listed dataset raw record listed

/-- Under any other name a group shows what the rule of the name gives for its records. -/
theorem groupCell?_of_not_mem (owned : ∀ key ∈ keys, dataset.scope.Owns key)
    (gathered : Group.Gathers (·.identities keys) (selected dataset raw) groups)
    {group : Group} (member : group ∈ groups) {name : String}
    (unlisted : name ∉ keys.map Key.display) :
    groupCell? dataset raw (keys.map Key.display) (group.values.map some) name =
      ((rules raw).find? (·.name = name)).bind (result? dataset group.records) := by
  rw [← members_of_gathers owned gathered member,
    values_of_gathers owned gathered member List.mem_cons_self]
  exact groupCell?_of_unlisted dataset raw group.first unlisted

end

end Query

namespace Plan

variable {lookup : Lookup} {members : List (String × Json)} {plan : Plan}

/-- The plan selects the records that satisfy the condition. -/
theorem Spells.selected_eq (spelled : Spells lookup members plan) :
    Query.selected plan.dataset (.object members) = plan.selected :=
  List.filter_congr fun record _ => (Filter.verdict_eq_holds spelled.condition_read record).symm

/-- The grouping keys are owned by the dataset. -/
theorem Spells.group_owned (spelled : Spells lookup members plan) {transformation : Transformation}
    (present : plan.transformation = some transformation) :
    ∀ key ∈ transformation.group, plan.dataset.scope.Owns key := by
  obtain ⟨given, -, transformationSpelled⟩ := spelled.transformation_spelled present
  exact fun key inGroup => (transformationSpelled.owned key inGroup).2

/-- The values of the groups are the tuples of the query. -/
theorem Spells.tuples_eq (spelled : Spells lookup members plan) {transformation : Transformation}
    (present : plan.transformation = some transformation) {groups : List Group}
    (gathered : Group.Gathers (·.identities transformation.group) plan.selected groups) :
    Query.tuples plan.dataset (.object members) (transformation.group.map Key.display) =
      groups.map fun group => group.values.map some :=
  Query.tuples_of_gathers (spelled.group_owned present) (spelled.selected_eq ▸ gathered)

/-- Every selected column of a record has the value that stands under its name. -/
theorem Spells.single_matches (spelled : Spells lookup members plan) (record : Record) :
    (Row.single record).Matches plan.options.columns (Query.cell? plan.dataset.id record) := by
  intro column selected value read
  cases column with
  | field key =>
    have held := Query.cell?_of_owns (spelled.resolves selected) record
    exact ⟨value, held.trans (Record.value_eq_ok_iff.mp read), rfl⟩
  | aggregate name => cases read

/-- No name of a rule is the display of a key. -/
theorem name_ne_display {name : String} (legal : Rule.IsName name) (key : Key) :
    name ≠ key.display := by
  rintro rfl
  rw [Rule.IsName, Key.display_toList] at legal
  exact legal.2 (by simp)

/-- So no rule takes the place of a grouping name. -/
theorem Spells.rule_not_grouped (spelled : Spells lookup members plan) {names : List String}
    (grouped : Query.grouping? (.object members) = some names) {rule : Query.DeclaredRule}
    (declared : rule ∈ Query.rules (.object members)) : rule.name ∉ names := by
  rw [spelled.grouping_eq, Option.map_eq_some_iff] at grouped
  obtain ⟨transformation, present, rfl⟩ := grouped
  obtain ⟨given, -, transformationSpelled⟩ := spelled.transformation_spelled present
  rw [spelled.rules_eq, rules, present] at declared
  obtain ⟨read, inRules, rfl⟩ := List.mem_map.mp declared
  intro listed
  obtain ⟨key, -, shown⟩ := List.mem_map.mp listed
  exact name_ne_display (transformationSpelled.fits read inRules).name key shown.symm

/-- A field of any record of a group shows what stands under its name for the group's
tuple. -/
theorem Spells.field_cell (spelled : Spells lookup members plan) {transformation : Transformation}
    (present : plan.transformation = some transformation) {groups : List Group}
    (gathered : Group.Gathers (·.identities transformation.group) plan.selected groups)
    {group : Group} (member : group ∈ groups) {record : Record}
    (inGroup : record ∈ group.records) {key : Key}
    (selected : .field key ∈ plan.options.columns) {value : Value}
    (read : record.value key.field = .ok value) :
    Query.groupCell? plan.dataset (.object members) (transformation.group.map Key.display)
      (group.values.map some) key.display = some value.identity := by
  rw [← spelled.selected_eq] at gathered
  have grouped := spelled.grouped transformation present key (Options.mem_keys_iff.mpr selected)
  have found := (Query.cell?_of_owns (spelled.resolves selected) record).trans
    (Record.value_eq_ok_iff.mp read)
  rw [Query.groupCell?_of_mem (spelled.group_owned present) gathered member inGroup
    (List.mem_map_of_mem grouped), found, Option.map_some]

/-- A result of a group shows what the rule of its name gives for the group's records. -/
theorem Spells.result_cell (spelled : Spells lookup members plan) {transformation : Transformation}
    (present : plan.transformation = some transformation) {groups : List Group}
    (gathered : Group.Gathers (·.identities transformation.group) plan.selected groups)
    {group : Group} (member : group ∈ groups) {results : List (String × Binary64)}
    (each : List.Forall₂ (Rule.Computes group.records) transformation.rules results)
    {name : String} {number : Binary64}
    (found : (NameMap.ofList results).get? name = some number) :
    Query.groupCell? plan.dataset (.object members) (transformation.group.map Key.display)
      (group.values.map some) name = some (.number number) := by
  rw [← spelled.selected_eq] at gathered
  obtain ⟨given, -, transformationSpelled⟩ := spelled.transformation_spelled present
  obtain ⟨rule, inRules, computed⟩ :=
    Checks.exists_of_mem_right each (NameMap.mem_of_get?_ofList found)
  obtain rfl : name = rule.name := computed.1
  have fits := transformationSpelled.fits rule inRules
  have declared : rule.declared ∈ Query.rules (.object members) := by
    rw [spelled.rules_eq, rules, present]
    exact List.mem_map_of_mem inRules
  have grouped : Query.grouping? (.object members) =
      some (transformation.group.map Key.display) := by
    rw [spelled.grouping_eq, present, Option.map_some]
  have unlisted : rule.name ∉ transformation.group.map Key.display :=
    spelled.rule_not_grouped grouped declared
  have ofName : (Query.rules (.object members)).find? (·.name = rule.name) = some rule.declared :=
    Checks.find?_of_mem spelled.rule_names_distinct declared
  rw [Query.groupCell?_of_not_mem (spelled.group_owned present) gathered member unlisted, ofName,
    Option.bind_some, Query.result?_of_computes fits.owned computed]

/-- Every selected column of a group has the value that stands under its name for the
group's tuple, whichever of its records stands for the group. -/
theorem Spells.group_matches (spelled : Spells lookup members plan)
    {transformation : Transformation} (present : plan.transformation = some transformation)
    {groups : List Group}
    (gathered : Group.Gathers (·.identities transformation.group) plan.selected groups)
    {group : Group} (member : group ∈ groups) {record : Record}
    (inGroup : record ∈ group.records) {results : List (String × Binary64)}
    (each : List.Forall₂ (Rule.Computes group.records) transformation.rules results) :
    (Row.group record (.ofList results)).Matches plan.options.columns
      (Query.groupCell? plan.dataset (.object members) (transformation.group.map Key.display)
        (group.values.map some)) := by
  intro column selected value read
  cases column with
  | field key =>
    have shown := spelled.field_cell present gathered member inGroup selected read
    exact ⟨value.identity, shown, value.identity_identity⟩
  | aggregate name =>
    cases found : (NameMap.ofList results).get? name with
    | none => simp only [Row.value, found, reduceCtorEq] at read
    | some number =>
      simp only [Row.value, found, Except.ok.injEq] at read
      have shown := spelled.result_cell present gathered member each found
      exact ⟨_, shown, congrArg Value.identity read⟩

/-- The rows of a plan are the rows that the query means. -/
theorem Spells.table_matches (spelled : Spells lookup members plan) {rows : List Row}
    (yielded : plan.Yields rows) :
    List.Forall₂ (fun cell row => row.Matches plan.options.columns cell)
      (Query.table plan.dataset (.object members)) rows := by
  rw [Query.table, spelled.grouping_eq]
  cases yielded with
  | records plain =>
    simp only [plain, Option.map_none, spelled.selected_eq, List.forall₂_map_left_iff,
      List.forall₂_map_right_iff, List.forall₂_same]
    exact fun record _ => spelled.single_matches record
  | groups present gathered done =>
    have inGroups := (List.forall₂_and_left _ _).mpr
      ⟨fun _ member => member, Checks.mapM_eq_ok_iff.mp done⟩
    simp only [present, Option.map_some, spelled.tuples_eq present gathered,
      List.forall₂_map_left_iff]
    refine inGroups.imp fun group row ⟨member, computed⟩ => ?_
    obtain ⟨results, each, rfl⟩ := Row.ofGroup_eq_ok_iff.mp computed
    exact spelled.group_matches present gathered member List.mem_cons_self each

/-- The rows of a plan, in their own order, show what the query means. -/
theorem Spells.evaluates (spelled : Spells lookup members plan) {rows : List Row}
    (yielded : plan.Yields rows) {shown : List ResultRow}
    (projected : rows.mapM (Row.project plan.options.columns) = .ok shown) :
    Query.Evaluates plan.dataset (.object members) shown := by
  rw [Query.Evaluates, spelled.columns_eq]
  refine (Checks.forall₂_comp (spelled.table_matches yielded)
    (Checks.mapM_eq_ok_iff.mp projected)).imp ?_
  exact fun cell shown ⟨row, matched, made⟩ => Row.project_shows made matched

/-- The rows of a plan are as many as the query means. -/
theorem Spells.length_eq (spelled : Spells lookup members plan) {rows : List Row}
    (yielded : plan.Yields rows) : rows.length = Query.size plan.dataset (.object members) :=
  (spelled.table_matches yielded).length_eq.symm

end Plan

/-- An accepted query without an order is answered, within the limit, with exactly the
rows that it means; and where it groups, its tuples divide the selected records. -/
theorem answer_evaluates {lookup : Lookup} {limit : Nat} {raw : Json} {plan : Plan}
    (accepted : Plan.ofQuery lookup raw = .ok plan) (unordered : Query.order? raw = none)
    (within : Query.size plan.dataset raw ≤ limit) :
    ∃ rows, answer lookup limit raw = .ok rows ∧ Query.Evaluates plan.dataset raw rows ∧
      ∀ names, Query.grouping? raw = some names → Query.Divides plan.dataset raw names := by
  obtain ⟨members, rfl, spelled⟩ := Plan.ofQuery_eq_ok_iff.mp accepted
  have typed := Plan.wellTyped_of_ofQuery accepted
  obtain ⟨rows, done, yielded⟩ := typed.rows_exist
  have missing := spelled.order_rel
  rw [unordered, Checks.rel_none_iff] at missing
  have inOrder : plan.arrange rows = .ok rows := by rw [Plan.arrange, missing]
  obtain ⟨shown, projected⟩ := Checks.mapM_exists fun row member =>
    Row.project_exists (yielded.fits row member) typed.columns
  rw [← spelled.length_eq yielded] at within
  refine ⟨shown, ?_, spelled.evaluates yielded projected, fun names _ => Query.divides _ _ names⟩
  rw [answer, accepted]
  exact Plan.execute_eq_ok done within inOrder projected

/-- The query that counts averages is answered with one row for each department. -/
theorem counted_evaluates : ∃ plan rows,
    Plan.ofQuery (.ofList [Sample.dataset]) (Sample.counted []) = .ok plan ∧
      answer (.ofList [Sample.dataset]) 3 (Sample.counted []) = .ok rows ∧
      Query.Evaluates plan.dataset (Sample.counted []) rows := by
  obtain ⟨plan, accepted, bound⟩ : ∃ plan,
      Plan.ofQuery (.ofList [Sample.dataset]) (Sample.counted []) = .ok plan ∧
        plan.dataset = Sample.dataset :=
    Checks.exists_ok_of_seen (by decide +kernel)
  have within : Query.size plan.dataset (Sample.counted []) ≤ 3 := by
    rw [bound]
    decide +kernel
  obtain ⟨rows, answered, evaluated, -⟩ := answer_evaluates accepted rfl within
  exact ⟨plan, rows, accepted, answered, evaluated⟩

end CampusQuery
