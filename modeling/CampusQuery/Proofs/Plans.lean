import CampusQuery.Plan
import CampusQuery.Proofs.Columns
import CampusQuery.Proofs.Records
import CampusQuery.Proofs.Transformations

/-!
# What making a plan accepts

The clauses of a query are looked at in several passes: the names of the rules before
the columns, the columns before the dataset is known, and the rest in the scope of the
dataset. Taken together the passes accept exactly the queries that spell a plan: every
clause is in the written form of its part of the plan, and every part is on fields of
the dataset, which the lookup finds under its own identifier.
-/

namespace CampusQuery

namespace Options

/-- The keys are those of the fields among the columns. -/
theorem mem_keys_iff {options : Options} {key : Key} :
    key ∈ options.keys ↔ .field key ∈ options.columns := by
  simp only [keys, List.mem_filterMap]
  constructor
  · rintro ⟨column, member, found⟩
    cases column with
    | aggregate name => cases found
    | field other =>
      cases found
      exact member
  · exact fun member => ⟨.field key, member, rfl⟩

/-- Options pass the check of their scope if the dataset owns all their keys. -/
theorem checkScope_eq_ok_iff {options : Options} {scope : Scope} :
    options.checkScope scope = .ok () ↔ ∀ key ∈ options.keys, scope.Owns key := by
  rw [checkScope, Checks.forM_eq_ok_iff]
  simp only [Scope.check_eq_ok_iff]

/-- They pass the check of their groups if all their keys are grouping keys. -/
theorem checkGrouped_eq_ok_iff {options : Options} {group : List Key} :
    options.checkGrouped group = .ok () ↔ ∀ key ∈ options.keys, key ∈ group := by
  unfold checkGrouped
  split
  · rename_i key found
    have missing := List.find?_some found
    simp only [Bool.not_eq_true', List.contains_eq_mem, decide_eq_false_iff_not] at missing
    simp only [reduceCtorEq, false_iff]
    exact fun each => missing (each key (List.mem_of_find?_eq_some found))
  · rename_i found
    simpa [List.find?_eq_none] using found

end Options

namespace Plan

/-- The rules of a plan, none if it has no transformation. -/
def rules (plan : Plan) : List Rule := (plan.transformation.map Transformation.rules).getD []

/-- The names of the rules of a plan. -/
def ruleNames (plan : Plan) : List String := plan.rules.map Rule.name

/-- The scope of the dataset of a plan. -/
def scope (plan : Plan) : Scope := plan.dataset.scope

/-- What a plan is when it is made: its parts in the written form of the members, and
every field among its columns owned by the dataset and grouped if there are groups. -/
structure Spells (lookup : Lookup) (members : List (String × Json)) (plan : Plan) : Prop where
  known : ∀ member ∈ members, member.1 ∈ clauses
  condition : ∃ raw, members.lookup "WHERE" = some raw ∧
    Filter.read plan.scope raw = .ok plan.filter
  options : ∃ given, members.lookup "OPTIONS" = some (.object given) ∧
    Options.Spells plan.ruleNames given plan.options
  transformation : Option.Rel
    (fun raw transformation => Transformation.read plan.scope raw = .ok transformation)
    (members.lookup "TRANSFORMATIONS") plan.transformation
  found : lookup plan.dataset.id = some plan.dataset
  owned : ∀ key ∈ plan.options.keys, plan.scope.Owns key
  grouped : ∀ transformation ∈ plan.transformation, ∀ key ∈ plan.options.keys,
    key ∈ transformation.group

/-- The clauses that depend on the dataset are accepted exactly when its fields are the
ones among the columns and the other clauses are read in its scope. -/
theorem ofClauses_eq_ok_iff {dataset : Dataset} {options : Options} {condition : Json}
    {transformations : Option Json} {plan : Plan} :
    ofClauses dataset options condition transformations = .ok plan ↔
      plan.dataset = dataset ∧ plan.options = options ∧
        (∀ key ∈ options.keys, dataset.scope.Owns key) ∧
        Filter.read dataset.scope condition = .ok plan.filter ∧
        Option.Rel (fun raw transformation =>
          Transformation.read dataset.scope raw = .ok transformation)
          transformations plan.transformation ∧
        ∀ transformation ∈ plan.transformation, ∀ key ∈ options.keys,
          key ∈ transformation.group := by
  obtain ⟨found, filter, transformation, columns⟩ := plan
  cases transformations with
  | none =>
    simp only [ofClauses, Checks.bind_eq_ok, Checks.pure_eq_ok, Plan.mk.injEq]
    constructor
    · rintro ⟨⟨⟩, owned, read, conditionRead, rfl, rfl, rfl, rfl⟩
      exact ⟨rfl, rfl, Options.checkScope_eq_ok_iff.mp owned, conditionRead, .none, by simp⟩
    · rintro ⟨rfl, rfl, owned, conditionRead, transformed, -⟩
      cases transformed
      exact ⟨(), Options.checkScope_eq_ok_iff.mpr owned, filter, conditionRead, rfl, rfl, rfl, rfl⟩
  | some raw =>
    simp only [ofClauses, Checks.bind_eq_ok, Checks.pure_eq_ok, Plan.mk.injEq]
    constructor
    · rintro ⟨⟨⟩, owned, read, conditionRead, transformed, transformationRead, ⟨⟩, grouped, rfl,
        rfl, rfl, rfl⟩
      refine ⟨rfl, rfl, Options.checkScope_eq_ok_iff.mp owned, conditionRead,
        .some transformationRead, ?_⟩
      rintro _ ⟨⟩
      exact Options.checkGrouped_eq_ok_iff.mp grouped
    · rintro ⟨rfl, rfl, owned, conditionRead, transformed, grouped⟩
      cases transformed with
      | some transformationRead =>
        exact ⟨(), Options.checkScope_eq_ok_iff.mpr owned, filter, conditionRead, _,
          transformationRead, (), Options.checkGrouped_eq_ok_iff.mpr (grouped _ rfl), rfl, rfl, rfl,
          rfl⟩

/-- Where the fields among the columns and the transformation belong to a dataset, no
other dataset is named. -/
theorem target_eq {options : Options} {transformations : Option Json} {scope : Scope} {id : String}
    (named : target options transformations = .ok id)
    (owned : ∀ key ∈ options.keys, scope.Owns key)
    (read : ∀ raw ∈ transformations, ∃ transformation,
      Transformation.read scope raw = .ok transformation) : id = scope.dataset := by
  unfold target Options.dataset? at named
  cases keys : options.keys with
  | cons key others =>
    simp only [keys, List.head?_cons, Option.map_some, Except.ok.injEq] at named
    exact named.symm.trans (owned key (by simp [keys])).dataset
  | nil =>
    simp only [keys, List.head?_nil, Option.map_none] at named
    cases transformations with
    | none => cases named
    | some raw =>
      obtain ⟨transformation, transformationRead⟩ := read raw rfl
      have found := Transformation.groupDataset_of_read transformationRead
      exact Except.ok.inj (named.symm.trans found)

/-- A dataset is named by some field among the columns or else by the transformation. -/
theorem target_exists {options : Options} {transformations : Option Json} {scope : Scope}
    (owned : ∀ key ∈ options.keys, scope.Owns key)
    (read : ∀ raw ∈ transformations, ∃ transformation,
      Transformation.read scope raw = .ok transformation)
    (some : transformations = none → options.keys ≠ []) :
    target options transformations = .ok scope.dataset := by
  unfold target Options.dataset?
  cases keys : options.keys with
  | cons key others =>
    simp only [List.head?_cons, Option.map_some, (owned key (by simp [keys])).dataset]
  | nil =>
    cases transformations with
    | none => exact absurd keys (some rfl)
    | some raw =>
      obtain ⟨transformation, transformationRead⟩ := read raw rfl
      exact Transformation.groupDataset_of_read transformationRead

/-- The names that are found first are those of the rules that are read. -/
theorem namesOf_eq {plan : Plan} {transformations : Option Json}
    (read : Option.Rel
      (fun raw transformation => Transformation.read plan.scope raw = .ok transformation)
      transformations plan.transformation) : namesOf transformations = .ok plan.ruleNames := by
  obtain ⟨dataset, filter, transformation, options⟩ := plan
  cases read with
  | none => rfl
  | some transformationRead => exact Transformation.ruleNames_of_read transformationRead

/-- Without rules every column is a field. -/
theorem keys_ne_nil {options : Options} {members : List (String × Json)}
    (spelled : Options.Spells [] members options) : options.keys ≠ [] := by
  obtain ⟨column, others, columns⟩ := List.exists_cons_of_ne_nil spelled.selected
  have member : column ∈ options.columns := by simp [columns]
  cases column with
  | aggregate name => exact absurd (spelled.declared _ member) List.not_mem_nil
  | field key => exact List.ne_nil_of_mem (Options.mem_keys_iff.mpr member)

/-- The steps in which a plan is made of the members of a query. -/
structure Steps (lookup : Lookup) (members : List (String × Json)) (plan : Plan)
    (names : List String) (selected : Options) (id : String) : Prop where
  known : ∀ member ∈ members, member.1 ∈ clauses
  named : namesOf (members.lookup "TRANSFORMATIONS") = .ok names
  options : ∃ raw, members.lookup "OPTIONS" = some raw ∧ Options.read names raw = .ok selected
  target : target selected (members.lookup "TRANSFORMATIONS") = .ok id
  clauses : ∃ raw dataset, members.lookup "WHERE" = some raw ∧ lookup id = some dataset ∧
    ofClauses dataset selected raw (members.lookup "TRANSFORMATIONS") = .ok plan

/-- A plan is made of a query exactly when each of the steps succeeds. -/
theorem ofQuery_eq_ok_iff_steps {lookup : Lookup} {raw : Json} {plan : Plan} :
    ofQuery lookup raw = .ok plan ↔ ∃ members, raw = .object members ∧
      ∃ names options id, Steps lookup members plan names options id := by
  constructor
  · intro accepted
    unfold ofQuery at accepted
    split at accepted
    · rename_i members
      cases unknown : members.find? (fun member => !clauses.contains member.1) with
      | some member => simp only [unknown, Checks.throw_bind, Checks.throw_ne_ok] at accepted
      | none =>
        have known := Checks.unknown_eq_none_iff.mp unknown
        simp only [unknown] at accepted
        split at accepted
        · rename_i condition conditionFound
          split at accepted
          · rename_i selection optionsFound
            obtain ⟨names, named, accepted⟩ := Checks.bind_eq_ok.mp accepted
            obtain ⟨options, optionsRead, accepted⟩ := Checks.bind_eq_ok.mp accepted
            obtain ⟨id, target, accepted⟩ := Checks.bind_eq_ok.mp accepted
            split at accepted
            · rename_i dataset found
              exact ⟨members, rfl, names, options, id, known, named,
                ⟨selection, optionsFound, optionsRead⟩, target,
                ⟨condition, dataset, conditionFound, found, accepted⟩⟩
            · exact absurd accepted Checks.throw_ne_ok
          · exact absurd accepted Checks.throw_ne_ok
        · exact absurd accepted Checks.throw_ne_ok
    · cases accepted
  · rintro ⟨members, rfl, names, options, id, steps⟩
    obtain ⟨selection, optionsFound, optionsRead⟩ := steps.options
    obtain ⟨condition, dataset, conditionFound, found, made⟩ := steps.clauses
    unfold ofQuery
    simp only [Checks.unknown_eq_none_iff.mpr steps.known, conditionFound, optionsFound,
      steps.named, Checks.ok_bind, optionsRead, steps.target, found, made]

/-- A plan is made of exactly the queries that spell it. -/
theorem ofQuery_eq_ok_iff {lookup : Lookup} {raw : Json} {plan : Plan} :
    ofQuery lookup raw = .ok plan ↔
      ∃ members, raw = .object members ∧ Spells lookup members plan := by
  rw [ofQuery_eq_ok_iff_steps]
  constructor
  · rintro ⟨members, rfl, names, options, id, steps⟩
    obtain ⟨selection, optionsFound, optionsRead⟩ := steps.options
    obtain ⟨condition, dataset, conditionFound, found, made⟩ := steps.clauses
    obtain ⟨rfl, rfl, owned, conditionRead, transformed, grouped⟩ := ofClauses_eq_ok_iff.mp made
    have same : id = plan.scope.dataset :=
      target_eq steps.target owned (Checks.exists_of_rel transformed)
    have rules : names = plan.ruleNames :=
      Except.ok.inj (steps.named.symm.trans (namesOf_eq transformed))
    subst same rules
    obtain ⟨given, rfl, spelled⟩ := Options.read_eq_ok_iff.mp optionsRead
    exact ⟨members, rfl, steps.known, ⟨condition, conditionFound, conditionRead⟩,
      ⟨given, optionsFound, spelled⟩, transformed, found, owned, grouped⟩
  · rintro ⟨members, rfl, spelled⟩
    obtain ⟨condition, conditionFound, conditionRead⟩ := spelled.condition
    obtain ⟨given, optionsFound, optionsSpelled⟩ := spelled.options
    have transformed := spelled.transformation
    have read := Checks.exists_of_rel transformed
    have some : members.lookup "TRANSFORMATIONS" = none → plan.options.keys ≠ [] := by
      intro absent
      rw [absent, Checks.rel_none_iff] at transformed
      have noRules : plan.ruleNames = [] := by simp [ruleNames, rules, transformed]
      exact keys_ne_nil (noRules ▸ optionsSpelled)
    have optionsRead := Options.read_eq_ok_iff.mpr ⟨given, rfl, optionsSpelled⟩
    have made := ofClauses_eq_ok_iff.mpr
      ⟨rfl, rfl, spelled.owned, conditionRead, transformed, spelled.grouped⟩
    exact ⟨members, rfl, plan.ruleNames, plan.options, plan.scope.dataset, spelled.known,
      namesOf_eq transformed, ⟨_, optionsFound, optionsRead⟩,
      target_exists spelled.owned read some,
      ⟨condition, plan.dataset, conditionFound, spelled.found, made⟩⟩

section

variable {lookup : Lookup} {members : List (String × Json)} {plan : Plan}

/-- The keys of the order are among the columns. -/
theorem Spells.order_selected (spelled : Spells lookup members plan) {order : SortOrder}
    (ordered : order ∈ plan.options.order) {key : Column} (member : key ∈ order.keys) :
    key ∈ plan.options.columns := by
  obtain ⟨given, -, optionsSpelled⟩ := spelled.options
  have clause := optionsSpelled.order
  rw [Option.mem_def.mp ordered, Checks.rel_some_right_iff] at clause
  obtain ⟨raw, -, -, each⟩ := clause
  exact (each key member).2

/-- The transformation of a plan that is made is in its written form. -/
theorem Spells.transformation_spelled (spelled : Spells lookup members plan)
    {transformation : Transformation} (present : transformation ∈ plan.transformation) :
    ∃ given, members.lookup "TRANSFORMATIONS" = some (.object given) ∧
      Transformation.Spells plan.scope given transformation := by
  have transformed := spelled.transformation
  rw [Option.mem_def.mp present, Checks.rel_some_right_iff] at transformed
  obtain ⟨raw, clause, transformationRead⟩ := transformed
  obtain ⟨given, rfl, transformationSpelled⟩ :=
    Transformation.read_eq_ok_iff.mp transformationRead
  exact ⟨given, clause, transformationSpelled⟩

/-- A plan without a transformation is made of a query without one. -/
theorem Spells.transformation_missing (spelled : Spells lookup members plan)
    (missing : plan.transformation = none) : members.lookup "TRANSFORMATIONS" = none := by
  have transformed := spelled.transformation
  rwa [missing, Checks.rel_none_right_iff] at transformed

end

end Plan

end CampusQuery
