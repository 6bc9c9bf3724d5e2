import CampusQuery.Proofs.Filters
import CampusQuery.Proofs.Plans

/-!
# The language of queries

The language is given here as a grammar on JSON values, clause by clause, for a dataset
that is already known. Nothing in it says in which order the clauses are checked or how
the dataset is found. A query is accepted exactly when the lookup has a dataset, under
the dataset's own identifier, for which the query is derivable.
-/

namespace CampusQuery

namespace Query

/-- A name that stands for a field of the dataset: the identifier, neither blank nor
with an underscore, then an underscore and the name of a field of the kind. -/
def Names (scope : Scope) (name : String) (field : Field) : Prop :=
  IsId scope.dataset ∧ field ∈ Field.ofKind scope.kind ∧
    name = scope.dataset ++ "_" ++ field.label

/-- A name that stands for some field of the dataset. -/
def IsKey (scope : Scope) (name : String) : Prop := ∃ field, Names scope name field

/-- The conditions of `WHERE`. -/
inductive IsCondition (scope : Scope) : Json → Prop where
  | all : IsCondition scope (.object [])
  | and {items : List Json} (some : items ≠ []) (each : ∀ item ∈ items, IsCondition scope item) :
      IsCondition scope (.object [("AND", .array items)])
  | or {items : List Json} (some : items ≠ []) (each : ∀ item ∈ items, IsCondition scope item) :
      IsCondition scope (.object [("OR", .array items)])
  | not {body : Json} (inner : IsCondition scope body) :
      IsCondition scope (.object [("NOT", body)])
  | compare {label name : String} {field : Field} {numeral : Numeral}
      (comparison : label ∈ ["EQ", "GT", "LT"]) (named : Names scope name field)
      (numeric : field.holds = .numeric) :
      IsCondition scope (.object [(label, .object [(name, .number numeral)])])
  | like {name pattern : String} {field : Field} (named : Names scope name field)
      (textual : field.holds = .textual) (atEnds : Pattern.StarsAtEnds pattern.toList) :
      IsCondition scope (.object [("IS", .object [(name, .text pattern)])])

/-- The rules of `APPLY`, each with its name. -/
inductive IsRule (scope : Scope) : String → Json → Prop where
  | mk {name token target : String} {field : Field} (some : name ≠ "")
      (plain : Key.separator ∉ name.toList)
      (known : token ∈ ["MAX", "MIN", "AVG", "COUNT", "SUM"]) (named : Names scope target field)
      (numeric : token ≠ "COUNT" → field.holds = .numeric) :
      IsRule scope name (.object [(name, .object [(token, .text target)])])

/-- The forms of `TRANSFORMATIONS`, with the names in `GROUP` and those of the rules. -/
inductive IsTransformation (scope : Scope) (group names : List String) : Json → Prop where
  | mk {members : List (String × Json)} {items : List Json}
      (known : ∀ member ∈ members, member.1 ∈ ["GROUP", "APPLY"])
      (grouping : members.lookup "GROUP" = some (.array (group.map .text)))
      (grouped : group ≠ [])
      (keys : ∀ name ∈ group, IsKey scope name)
      (applying : members.lookup "APPLY" = some (.array items))
      (rules : List.Forall₂ (IsRule scope) names items)
      (distinct : names.Nodup) : IsTransformation scope group names (.object members)

/-- The forms of `ORDER` for a selection of columns. -/
inductive IsOrder (columns : List String) : Json → Prop where
  | single {name : String} (selected : name ∈ columns) : IsOrder columns (.text name)
  | directed {members : List (String × Json)} {direction : String} {keys : List String}
      (known : ∀ member ∈ members, member.1 ∈ ["dir", "keys"])
      (directing : members.lookup "dir" = some (.text direction))
      (legal : direction ∈ ["UP", "DOWN"])
      (listing : members.lookup "keys" = some (.array (keys.map .text)))
      (some : keys ≠ [])
      (selected : ∀ key ∈ keys, key ∈ columns) : IsOrder columns (.object members)

/-- The forms of `OPTIONS`, given the names of the rules and, where there are groups,
the names in `GROUP`. -/
inductive IsOptions (scope : Scope) (rules : List String) (grouped : Option (List String)) :
    Json → Prop where
  | mk {members : List (String × Json)} {columns : List String}
      (known : ∀ member ∈ members, member.1 ∈ ["COLUMNS", "ORDER"])
      (selecting : members.lookup "COLUMNS" = some (.array (columns.map .text)))
      (some : columns ≠ [])
      (each : ∀ column ∈ columns, column ∈ rules ∨
        IsKey scope column ∧ ∀ group ∈ grouped, column ∈ group)
      (ordered : ∀ order ∈ members.lookup "ORDER", IsOrder columns order) :
      IsOptions scope rules grouped (.object members)

/-- The queries on a dataset, with and without groups. -/
inductive IsQuery (scope : Scope) : Json → Prop where
  | ungrouped {members : List (String × Json)} {condition options : Json}
      (known : ∀ member ∈ members, member.1 ∈ ["WHERE", "OPTIONS", "TRANSFORMATIONS"])
      (filtering : members.lookup "WHERE" = some condition)
      (selecting : members.lookup "OPTIONS" = some options)
      (plain : members.lookup "TRANSFORMATIONS" = none)
      (isCondition : IsCondition scope condition)
      (isOptions : IsOptions scope [] none options) : IsQuery scope (.object members)
  | grouped {members : List (String × Json)} {condition options transformation : Json}
      {group names : List String}
      (known : ∀ member ∈ members, member.1 ∈ ["WHERE", "OPTIONS", "TRANSFORMATIONS"])
      (filtering : members.lookup "WHERE" = some condition)
      (selecting : members.lookup "OPTIONS" = some options)
      (transforming : members.lookup "TRANSFORMATIONS" = some transformation)
      (isCondition : IsCondition scope condition)
      (isTransformation : IsTransformation scope group names transformation)
      (isOptions : IsOptions scope names (some group) options) : IsQuery scope (.object members)

variable {scope : Scope}

/-- A key of the dataset displays a name of its field. -/
theorem names_display {key : Key} (plain : IsId key.dataset) (owned : scope.Owns key) :
    Names scope key.display key.field :=
  ⟨owned.dataset ▸ plain, Field.mem_ofKind_iff.mpr owned.kind, by rw [Key.display, owned.dataset]⟩

/-- A name of a field is displayed by a key of the dataset. -/
theorem Names.exists_key {name : String} {field : Field} (named : Names scope name field) :
    ∃ key : Key, name = key.display ∧ key.field = field ∧ IsId key.dataset ∧ scope.Owns key := by
  obtain ⟨plain, belongs, rfl⟩ := named
  exact ⟨⟨scope.dataset, field⟩, rfl, rfl, plain, rfl, Field.mem_ofKind_iff.mp belongs⟩

/-- The names of fields are the displays of the dataset's keys. -/
theorem isKey_iff {name : String} :
    IsKey scope name ↔ ∃ key : Key, name = key.display ∧ IsId key.dataset ∧ scope.Owns key := by
  constructor
  · rintro ⟨field, named⟩
    obtain ⟨key, shown, -, fit⟩ := named.exists_key
    exact ⟨key, shown, fit⟩
  · rintro ⟨key, rfl, plain, owned⟩
    exact ⟨key.field, names_display plain owned⟩

/-- The names of the comparisons are the labels of the relations. -/
theorem exists_relation {label : String} (comparison : label ∈ ["EQ", "GT", "LT"]) :
    ∃ relation, label = (Operator.relate relation).label := by
  simp only [List.mem_cons, List.not_mem_nil, or_false] at comparison
  rcases comparison with rfl | rfl | rfl
  · exact ⟨.equal, rfl⟩
  · exact ⟨.greater, rfl⟩
  · exact ⟨.less, rfl⟩

/-- From every condition a filter is read. -/
theorem IsCondition.exists_filter {raw : Json} (derived : IsCondition scope raw) :
    ∃ filter, Filter.read scope raw = .ok filter := by
  induction derived with
  | all => exact ⟨.all, Filter.read_eq_ok_iff.mpr .all⟩
  | and some _ inductionHypothesis =>
    obtain ⟨children, each⟩ := Checks.exists_forall₂ inductionHypothesis
    exact ⟨.and children, Filter.read_eq_ok_iff.mpr (.and some each)⟩
  | or some _ inductionHypothesis =>
    obtain ⟨children, each⟩ := Checks.exists_forall₂ inductionHypothesis
    exact ⟨.or children, Filter.read_eq_ok_iff.mpr (.or some each)⟩
  | not _ inductionHypothesis =>
    obtain ⟨child, inner⟩ := inductionHypothesis
    exact ⟨.not child, Filter.read_eq_ok_iff.mpr (.not inner)⟩
  | compare comparison named numeric =>
    obtain ⟨key, rfl, rfl, plain, owned⟩ := named.exists_key
    obtain ⟨relation, rfl⟩ := exists_relation comparison
    have isNumeric : key.isNumeric = true := decide_eq_true numeric
    exact ⟨_, Filter.read_eq_ok_iff.mpr (.relate plain owned isNumeric)⟩
  | like named textual atEnds =>
    obtain ⟨key, rfl, rfl, plain, owned⟩ := named.exists_key
    obtain ⟨pattern, patternRead⟩ := Pattern.read_exists_iff.mpr atEnds
    have isTextual : key.isTextual = true := decide_eq_true textual
    exact ⟨_, Filter.read_eq_ok_iff.mpr (.like plain owned isTextual patternRead)⟩

/-- A filter is read from a condition alone. -/
theorem isCondition_of_read {raw : Json} {filter : Filter}
    (accepted : Filter.read scope raw = .ok filter) : IsCondition scope raw := by
  refine Filter.read_induction (fun raw _ => IsCondition scope raw) ?_ accepted
  intro raw filter step
  have inEach {items : List Json} {children : List Filter}
      (each : List.Forall₂ (fun part child => Filter.read scope part = .ok child ∧
        IsCondition scope part) items children) : ∀ item ∈ items, IsCondition scope item :=
    ((List.forall₂_and_left items children).mp
      (each.imp fun _ _ ⟨read, derived⟩ => ⟨derived, read⟩)).1
  cases step with
  | all => exact .all
  | and some each => exact .and some (inEach each)
  | or some each => exact .or some (inEach each)
  | not inner => exact .not inner.2
  | @relate relation key numeral plain owned numeric =>
    refine .compare ?_ (names_display plain owned) (of_decide_eq_true numeric)
    cases relation <;> decide
  | like plain owned textual patternRead =>
    exact .like (names_display plain owned) (of_decide_eq_true textual)
      (Pattern.read_exists_iff.mp ⟨_, patternRead⟩)

/-- The rules of `APPLY` are the written forms of fitting rules. -/
theorem isRule_iff {name : String} {raw : Json} :
    IsRule scope name raw ↔
      ∃ rule : Rule, rule.name = name ∧ raw = rule.written ∧ rule.Fits scope := by
  constructor
  · rintro ⟨some, plain, known, named, numeric⟩
    obtain ⟨key, rfl, rfl, isId, owned⟩ := named.exists_key
    obtain ⟨aggregate, -, rfl⟩ :=
      (List.mem_map (f := Aggregate.label) (l := Aggregate.all)).mp known
    refine ⟨⟨_, aggregate, key⟩, rfl, rfl, ⟨some, plain⟩, isId, owned, fun needed => ?_⟩
    refine decide_eq_true (numeric ?_)
    cases aggregate with
    | count => cases needed
    | _ => decide
  · rintro ⟨⟨name, aggregate, key⟩, rfl, rfl, ⟨some, plain⟩, isId, owned, numeric⟩
    refine .mk some plain ?_ (names_display isId owned) fun other => ?_
    · exact List.mem_map_of_mem (f := Aggregate.label) (Aggregate.mem_all aggregate)
    · refine of_decide_eq_true (numeric ?_)
      cases aggregate with
      | count => exact absurd rfl other
      | _ => rfl

/-- Lists of rules with their names are the written forms of lists of fitting rules. -/
theorem forall₂_isRule_iff {names : List String} {items : List Json} :
    List.Forall₂ (IsRule scope) names items ↔
      ∃ rules : List Rule, rules.map Rule.name = names ∧ items = rules.map Rule.written ∧
        ∀ rule ∈ rules, rule.Fits scope := by
  constructor
  · intro each
    induction each with
    | nil => exact ⟨[], rfl, rfl, by simp⟩
    | cons first _ inductionHypothesis =>
      obtain ⟨rule, rfl, rfl, fits⟩ := isRule_iff.mp first
      obtain ⟨rules, rfl, rfl, othersFit⟩ := inductionHypothesis
      exact ⟨rule :: rules, rfl, rfl, List.forall_mem_cons.mpr ⟨fits, othersFit⟩⟩
  · rintro ⟨rules, rfl, rfl, fits⟩
    rw [List.forall₂_map_left_iff, List.forall₂_map_right_iff, List.forall₂_same]
    exact fun rule member => isRule_iff.mpr ⟨rule, rfl, rfl, fits rule member⟩

/-- The forms of `TRANSFORMATIONS` are exactly what a transformation is read from. -/
theorem isTransformation_iff {group names : List String} {raw : Json} :
    IsTransformation scope group names raw ↔
      ∃ transformation, Transformation.read scope raw = .ok transformation ∧
        transformation.group.map Key.display = group ∧
        transformation.rules.map Rule.name = names := by
  constructor
  · rintro ⟨known, grouping, grouped, keys, applying, ruled, distinct⟩
    obtain ⟨listed, rfl, owned⟩ :=
      Checks.exists_written fun name member => isKey_iff.mp (keys name member)
    obtain ⟨rules, rfl, rfl, fits⟩ := forall₂_isRule_iff.mp ruled
    rw [List.map_map] at grouping
    have some : listed ≠ [] := fun none => grouped (List.map_eq_nil_iff.mpr none)
    exact ⟨⟨listed, rules⟩, Transformation.read_eq_ok_iff.mpr
      ⟨_, rfl, known, grouping, some, owned, applying, fits, distinct⟩, rfl, rfl⟩
  · rintro ⟨transformation, accepted, rfl, rfl⟩
    obtain ⟨members, rfl, spelled⟩ := Transformation.read_eq_ok_iff.mp accepted
    refine .mk spelled.known ?_ ?_ ?_ spelled.apply ?_ spelled.distinct
    · rw [List.map_map]
      exact spelled.group
    · exact fun none => spelled.grouped (List.map_eq_nil_iff.mp none)
    · intro name member
      obtain ⟨key, inGroup, rfl⟩ := List.mem_map.mp member
      exact isKey_iff.mpr ⟨key, rfl, spelled.owned key inGroup⟩
    · exact forall₂_isRule_iff.mpr ⟨_, rfl, rfl, spelled.fits⟩

/-- The forms of `ORDER` spell the orders by selected columns. -/
theorem isOrder_iff {columns : List Column} {raw : Json} :
    IsOrder (columns.map Column.label) raw ↔
      ∃ order : SortOrder, order.Spells raw ∧ ∀ key ∈ order.keys, key ∈ columns := by
  constructor
  · rintro (⟨selected⟩ | ⟨known, directing, legal, listing, some, selected⟩)
    · obtain ⟨column, member, rfl⟩ := List.mem_map.mp selected
      exact ⟨⟨.up, [column]⟩, .single column, by simpa using member⟩
    · obtain ⟨direction, -, rfl⟩ :=
        (List.mem_map (f := Direction.label) (l := [.up, .down])).mp legal
      obtain ⟨keys, rfl, each⟩ := Checks.exists_written fun key member => by
        obtain ⟨column, inColumns, shown⟩ := List.mem_map.mp (selected key member)
        exact ⟨column, shown.symm, inColumns⟩
      rw [List.map_map] at listing
      exact ⟨⟨direction, keys⟩,
        .directed known directing listing fun none => some (List.map_eq_nil_iff.mpr none), each⟩
  · rintro ⟨order, spelled, each⟩
    cases spelled with
    | single column => exact .single (List.mem_map_of_mem (each column List.mem_cons_self))
    | @directed members direction keys known dir listed some =>
      refine @IsOrder.directed _ members _ (keys.map Column.label) known dir ?_ ?_ ?_ ?_
      · cases direction <;> decide
      · rw [List.map_map]
        exact listed
      · exact fun none => some (List.map_eq_nil_iff.mp none)
      · intro key member
        obtain ⟨column, inKeys, rfl⟩ := List.mem_map.mp member
        exact List.mem_map_of_mem (each column inKeys)

/-- A name in `COLUMNS` labels a declared column; if that is a field, it belongs to the
dataset and is grouped where there are groups. -/
theorem exists_column {rules : List String} {grouped : Option (List String)} {name : String}
    (allowed : name ∈ rules ∨ IsKey scope name ∧ ∀ group ∈ grouped, name ∈ group) :
    ∃ column : Column, name = column.label ∧ column.Declared rules ∧
      ∀ key, column = .field key → scope.Owns key ∧ ∀ group ∈ grouped, key.display ∈ group := by
  by_cases ruled : name ∈ rules
  · exact ⟨.aggregate name, rfl, ruled, nofun⟩
  · obtain ⟨isKey, inGroups⟩ := allowed.resolve_left ruled
    obtain ⟨key, rfl, isId, owned⟩ := isKey_iff.mp isKey
    refine ⟨.field key, rfl, ⟨isId, ruled⟩, ?_⟩
    rintro _ ⟨⟩
    exact ⟨owned, inGroups⟩

/-- The clause `ORDER`, where there is one, spells an order by selected columns. -/
theorem exists_order {rules : List String} {columns : List Column} {clause : Option Json}
    (ordered : ∀ raw ∈ clause, IsOrder (columns.map Column.label) raw)
    (declared : ∀ column ∈ columns, column.Declared rules) :
    ∃ order, Option.Rel (fun raw (order : SortOrder) => order.Spells raw ∧
      ∀ key ∈ order.keys, key.Declared rules ∧ key ∈ columns) clause order := by
  cases clause with
  | none => exact ⟨none, .none⟩
  | some raw =>
    obtain ⟨order, spelled, selected⟩ := isOrder_iff.mp (ordered raw rfl)
    exact ⟨some order, .some ⟨spelled, fun key member =>
      ⟨declared key (selected key member), selected key member⟩⟩⟩

/-- The forms of `OPTIONS` are exactly what options are read from whose fields belong to
the dataset and are grouped where there are groups. -/
theorem isOptions_iff {rules : List String} {grouped : Option (List String)} {raw : Json} :
    IsOptions scope rules grouped raw ↔
      ∃ options, Options.read rules raw = .ok options ∧
        ∀ key ∈ options.keys, scope.Owns key ∧ ∀ group ∈ grouped, key.display ∈ group := by
  constructor
  · rintro @⟨members, columns, known, selecting, selects, each, ordered⟩
    obtain ⟨selected, rfl, fits⟩ :=
      Checks.exists_written fun name member => exists_column (each name member)
    have declared : ∀ column ∈ selected, column.Declared rules :=
      fun column member => (fits column member).1
    have owned : ∀ key, .field key ∈ selected →
        scope.Owns key ∧ ∀ group ∈ grouped, key.display ∈ group :=
      fun key member => (fits _ member).2 key rfl
    have agree : Column.Agree none selected :=
      ⟨scope.dataset, by simp, fun key member => (owned key member).1.dataset⟩
    have some : selected ≠ [] := fun none => selects (List.map_eq_nil_iff.mpr none)
    obtain ⟨order, written⟩ := exists_order ordered declared
    rw [List.map_map] at selecting
    exact ⟨⟨selected, order⟩, Options.read_eq_ok_iff.mpr
      ⟨members, rfl, known, selecting, some, declared, agree, written⟩,
      fun key member => owned key (Options.mem_keys_iff.mp member)⟩
  · rintro ⟨options, accepted, fits⟩
    obtain ⟨members, rfl, spelled⟩ := Options.read_eq_ok_iff.mp accepted
    refine @IsOptions.mk _ _ _ members (options.columns.map Column.label) spelled.known ?_ ?_ ?_ ?_
    · rw [List.map_map]
      exact spelled.columns
    · exact fun none => spelled.selected (List.map_eq_nil_iff.mp none)
    · intro name member
      obtain ⟨column, selected, rfl⟩ := List.mem_map.mp member
      have declared := spelled.declared column selected
      cases column with
      | aggregate rule => exact .inl declared
      | field key =>
        obtain ⟨owned, inGroups⟩ := fits key (Options.mem_keys_iff.mpr selected)
        exact .inr ⟨isKey_iff.mpr ⟨key, rfl, declared.1, owned⟩, inGroups⟩
    · intro raw given
      have order := spelled.order
      rw [Option.mem_def.mp given, Checks.rel_some_iff] at order
      obtain ⟨order, -, orderSpelled, each⟩ := order
      exact isOrder_iff.mpr ⟨order, orderSpelled, fun key member => (each key member).2⟩

/-- A query from which a plan is made is derivable for the dataset of the plan, which is
found under its own identifier. -/
theorem isQuery_of_ofQuery {lookup : Lookup} {raw : Json} {plan : Plan}
    (accepted : Plan.ofQuery lookup raw = .ok plan) :
    lookup plan.dataset.id = some plan.dataset ∧ IsQuery plan.dataset.scope raw := by
  obtain ⟨members, rfl, spelled⟩ := Plan.ofQuery_eq_ok_iff.mp accepted
  obtain ⟨condition, filtering, conditionRead⟩ := spelled.condition
  obtain ⟨given, selecting, optionsSpelled⟩ := spelled.options
  have isCondition := isCondition_of_read conditionRead
  have optionsRead := Options.read_eq_ok_iff.mpr ⟨given, rfl, optionsSpelled⟩
  have transformed := spelled.transformation
  refine ⟨spelled.found, ?_⟩
  cases clause : members.lookup "TRANSFORMATIONS" with
  | none =>
    rw [clause, Checks.rel_none_iff] at transformed
    have noRules : plan.ruleNames = [] := by simp [Plan.ruleNames, Plan.rules, transformed]
    rw [noRules] at optionsRead
    have isOptions : IsOptions plan.dataset.scope [] none (.object given) := isOptions_iff.mpr
      ⟨plan.options, optionsRead, fun key member => ⟨spelled.owned key member, by simp⟩⟩
    exact .ungrouped spelled.known filtering selecting clause isCondition isOptions
  | some raw =>
    rw [clause, Checks.rel_some_iff] at transformed
    obtain ⟨transformation, present, transformationRead⟩ := transformed
    have sameRules : plan.ruleNames = transformation.rules.map Rule.name := by
      simp [Plan.ruleNames, Plan.rules, present]
    rw [sameRules] at optionsRead
    have isTransformation :=
      isTransformation_iff.mpr ⟨transformation, transformationRead, rfl, rfl⟩
    have inGroup : ∀ key ∈ plan.options.keys,
        ∀ group ∈ some (transformation.group.map Key.display), key.display ∈ group := by
      rintro key member _ ⟨⟩
      exact List.mem_map_of_mem (spelled.grouped transformation present key member)
    have isOptions := isOptions_iff.mpr ⟨plan.options, optionsRead,
      fun key member => ⟨spelled.owned key member, inGroup key member⟩⟩
    exact .grouped spelled.known filtering selecting clause isCondition isTransformation isOptions

/-- A key of the dataset whose display is that of a grouping key is the grouping key. -/
theorem mem_group_of_display {transformation : Transformation} {members : List (String × Json)}
    (spelled : transformation.Spells scope members) {key : Key} (owned : scope.Owns key)
    (shown : key.display ∈ transformation.group.map Key.display) : key ∈ transformation.group := by
  obtain ⟨other, inGroup, same⟩ := List.mem_map.mp shown
  obtain ⟨otherId, otherOwned⟩ := spelled.owned other inGroup
  have isId : IsId key.dataset := by
    rw [owned.dataset, ← otherOwned.dataset]
    exact otherId
  exact Key.display_injective otherId isId same ▸ inGroup

/-- From every query that is derivable for a dataset a plan on this dataset is made, if
the dataset is found under its own identifier. -/
theorem IsQuery.exists_plan_on {lookup : Lookup} {raw : Json} {dataset : Dataset}
    (derived : IsQuery dataset.scope raw) (found : lookup dataset.id = some dataset) :
    ∃ plan, Plan.ofQuery lookup raw = .ok plan ∧ plan.dataset = dataset := by
  cases derived with
  | ungrouped known filtering selecting plain isCondition isOptions =>
    obtain ⟨filter, conditionRead⟩ := isCondition.exists_filter
    obtain ⟨options, optionsRead, fits⟩ := isOptions_iff.mp isOptions
    obtain ⟨given, rfl, optionsSpelled⟩ := Options.read_eq_ok_iff.mp optionsRead
    refine ⟨⟨dataset, filter, none, options⟩, Plan.ofQuery_eq_ok_iff.mpr
      ⟨_, rfl, known, ⟨_, filtering, conditionRead⟩, ⟨given, selecting, optionsSpelled⟩, ?_, found,
        fun key member => (fits key member).1, by simp⟩, rfl⟩
    rw [plain]
    exact .none
  | grouped known filtering selecting transforming isCondition isTransformation isOptions =>
    obtain ⟨filter, conditionRead⟩ := isCondition.exists_filter
    obtain ⟨transformation, transformationRead, rfl, rfl⟩ :=
      isTransformation_iff.mp isTransformation
    obtain ⟨options, optionsRead, fits⟩ := isOptions_iff.mp isOptions
    obtain ⟨given, rfl, optionsSpelled⟩ := Options.read_eq_ok_iff.mp optionsRead
    obtain ⟨_, rfl, spelled⟩ := Transformation.read_eq_ok_iff.mp transformationRead
    refine ⟨⟨dataset, filter, some transformation, options⟩, Plan.ofQuery_eq_ok_iff.mpr
      ⟨_, rfl, known, ⟨_, filtering, conditionRead⟩, ⟨given, selecting, optionsSpelled⟩, ?_, found,
        fun key member => (fits key member).1, ?_⟩, rfl⟩
    · rw [transforming]
      exact .some transformationRead
    · rintro _ ⟨⟩ key member
      obtain ⟨owned, inGroups⟩ := fits key member
      exact mem_group_of_display spelled owned (inGroups _ rfl)

/-- A derivable query over a dataset that is found is made into a plan. -/
theorem IsQuery.exists_plan {lookup : Lookup} {raw : Json} {dataset : Dataset}
    (derived : IsQuery dataset.scope raw) (found : lookup dataset.id = some dataset) :
    ∃ plan, Plan.ofQuery lookup raw = .ok plan := by
  obtain ⟨plan, accepted, -⟩ := derived.exists_plan_on found
  exact ⟨plan, accepted⟩

/-- A query is accepted exactly when it is derivable for a dataset that is found under
its own identifier. -/
theorem accepted_iff {lookup : Lookup} {raw : Json} :
    (∃ plan, Plan.ofQuery lookup raw = .ok plan) ↔
      ∃ id dataset, lookup id = some dataset ∧ dataset.id = id ∧ IsQuery dataset.scope raw := by
  constructor
  · rintro ⟨plan, accepted⟩
    obtain ⟨found, derived⟩ := isQuery_of_ofQuery accepted
    exact ⟨plan.dataset.id, plan.dataset, found, rfl, derived⟩
  · rintro ⟨_, dataset, found, rfl, derived⟩
    exact derived.exists_plan found

end Query

end CampusQuery
