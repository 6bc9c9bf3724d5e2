import CampusQuery.Proofs.DrillDown
import CampusQuery.Proofs.Independence
import CampusQuery.Proofs.Overflow

/-!
# What is counted is what is grouped

Counting the distinct values of a field in a group and grouping by that field are separate
pieces of the program, and they must not disagree on which values are distinct. Both go by
identity. So the count in a group is the number of groups into which the group falls apart
when its field becomes one more grouping name: each of the finer tuples that extend the
group's own tuple ends in another of the values that are counted.
-/

namespace CampusQuery

namespace Query

/-- The one query counts the values of a field in each of its groups; the other one, under
the same condition, groups by the same names and then by the field. -/
structure Refines (raw fine : Json) (names : List String) (rule : DeclaredRule) : Prop where
  sameCondition : condition fine = condition raw
  grouped : grouping? raw = some names
  regrouped : grouping? fine = some (names ++ [rule.target])
  declared : rule ∈ rules raw
  counts : rule.token = "COUNT"

/-- The identity of the value of a record under a name. -/
def identity? (dataset : Dataset) (name : String) (record : Record) : Option Value :=
  (cell? dataset.id record name).map Value.identity

variable {dataset : Dataset} {raw fine : Json} {names : List String} {rule : DeclaredRule}

/-- The tuple of a record under one more name ends in its value there. -/
theorem tuple_append_singleton (dataset : Dataset) (names : List String) (name : String)
    (record : Record) :
    tuple dataset (names ++ [name]) record =
      tuple dataset names record ++ [identity? dataset name record] := by
  rw [tuple, List.map_append, List.map_singleton]
  rfl

/-- A longer tuple begins with the shorter one. -/
theorem take_tuple_append_singleton (dataset : Dataset) (names : List String) (name : String)
    (record : Record) :
    (tuple dataset (names ++ [name]) record).take names.length = tuple dataset names record := by
  rw [tuple_append_singleton]
  exact List.take_left' (List.length_map _)

/-- The finer tuples that extend a tuple: it is followed by each distinct value that its
members have under the further name. -/
theorem Refines.extensions_eq (refined : Refines raw fine names rule) (dataset : Dataset)
    (values : List (Option Value)) :
    (tuples dataset fine (names ++ [rule.target])).filter
        (fun finer => finer.take names.length = values) =
      ((members dataset raw names values).map (identity? dataset rule.target)).eraseDups.map
        fun last => values ++ [last] := by
  have sameSelected : selected dataset fine = selected dataset raw := by
    rw [selected, selected, refined.sameCondition]
  have chosen : ((selected dataset raw).map (tuple dataset (names ++ [rule.target]))).filter
      (fun finer => finer.take names.length = values) =
        (members dataset raw names values).map (tuple dataset (names ++ [rule.target])) := by
    rw [List.filter_map, members]
    simp only [Function.comp_def, take_tuple_append_singleton]
  have extended : (members dataset raw names values).map
      (tuple dataset (names ++ [rule.target])) =
        ((members dataset raw names values).map (identity? dataset rule.target)).map
          fun last => values ++ [last] := by
    rw [List.map_map]
    refine List.map_congr_left fun record member => ?_
    have same := of_decide_eq_true (List.mem_filter.mp member).2
    rw [tuple_append_singleton, same]
    rfl
  have injective : Function.Injective fun last : Option Value => values ++ [last] := by
    intro left right same
    simpa using same
  rw [tuples, ← Group.eraseDups_filter, sameSelected, chosen, extended,
    Group.eraseDups_map injective]

/-- Values that are read under a name have the identities that stand under it. -/
theorem map_identity?_eq {records : List Record} {name : String} {values : List Value}
    (read : (records.mapM fun record => cell? dataset.id record name) = some values) :
    records.map (identity? dataset name) = (values.map Value.identity).map some := by
  obtain ⟨readable, rfl⟩ := Checks.mapM_eq_some_iff.mp read
  clear read
  induction records with
  | nil => rfl
  | cons record rest inductionHypothesis =>
    obtain ⟨first, others⟩ := List.forall_mem_cons.mp readable
    obtain ⟨value, found⟩ := Option.isSome_iff_exists.mp first
    rw [List.map_cons, inductionHypothesis others, List.filterMap_cons, found, identity?, found]
    rfl

/-- So as many values are counted as there are distinct identities. -/
theorem countDistinct_eq {records : List Record} {name : String} {values : List Value}
    (read : (records.mapM fun record => cell? dataset.id record name) = some values) :
    Value.countDistinct values = (records.map (identity? dataset name)).eraseDups.length := by
  have injective : Function.Injective (some : Value → Option Value) := fun _ _ => Option.some.inj
  rw [map_identity?_eq read, Group.eraseDups_map injective, List.length_map]
  rfl

end Query

namespace Plan

variable {lookup : Lookup} {members others : List (String × Json)} {plan finer : Plan}
  {names : List String} {rule : Query.DeclaredRule} {transformation : Transformation}
  {groups fineGroups : List Group}

/-- An answer presents the groups into which a plan places its records: it gives one row for
each group, in some sequence, unless the table cannot be sorted. -/
structure Presents (plan : Plan) (raw : Json) (transformation : Transformation)
    (groups : List Group) (shown : Group → ResultRow)
    (outcome : Except Failure (List ResultRow)) : Prop where
  into : plan.GroupsInto transformation groups
  forms : ∀ group ∈ groups, plan.Forms group (shown group)
  rearranged : Query.Gives plan.dataset raw (fun rows => rows.Perm (groups.map shown)) outcome

/-- The result of a rule for a group is a count. It is shown wherever the rule is a column,
and as a whole number up to the largest exact one. -/
structure CountsAs (raw : Json) (rule : Query.DeclaredRule) (transformation : Transformation)
    (group : Group) (row : ResultRow) (count : Nat) : Prop where
  computed : ∃ results,
    Row.ofGroup transformation.rules group = .ok (.group group.first results) ∧
      results.get? rule.name = some (.ofInt count)
  shown : rule.name ∈ Query.columns raw →
    row.get? rule.name = some (.ofBinary64 (.ofInt count))
  whole : rule.name ∈ Query.columns raw → count ≤ Numeral.largestExact →
    row.get? rule.name = some (.number (.integer count))

/-- The groups of a finer grouping in which a group falls apart: those whose first values
are the values of the group. -/
def partsOf (group : Group) (fineGroups : List Group) : List Group :=
  fineGroups.filter fun finer => finer.values.take group.values.length = group.values

/-- An accepted query with groups, within the limit, presents them. -/
theorem presents_exists {lookup : Lookup} {limit : Nat} {raw : Json} {plan : Plan}
    {names : List String} (accepted : ofQuery lookup raw = .ok plan)
    (grouped : Query.grouping? raw = some names) (within : Query.size plan.dataset raw ≤ limit) :
    ∃ transformation groups, transformation.group.map Key.display = names ∧
      plan.Presents raw transformation groups (plan.rowOfGroup raw transformation)
        (answer lookup limit raw) := by
  have typed := wellTyped_of_ofQuery accepted
  have gives := answer_gives_perm accepted within
  obtain ⟨members, rfl, spelled⟩ := ofQuery_eq_ok_iff.mp accepted
  rw [spelled.grouping_eq, Option.map_eq_some_iff] at grouped
  obtain ⟨transformation, present, displayed⟩ := grouped
  obtain ⟨groups, into, -⟩ := typed.groups_exist present
  rw [spelled.rows_eq typed into] at gives
  refine ⟨transformation, groups, displayed, into, fun group member => ?_, gives⟩
  exact (spelled.forms_iff typed into).mpr ⟨member, rfl⟩

/-- There are as many groups as rows that the query means. -/
theorem length_groups {raw : Json} (accepted : ofQuery lookup raw = .ok plan)
    (into : plan.GroupsInto transformation groups) :
    groups.length = Query.size plan.dataset raw := by
  have typed := wellTyped_of_ofQuery accepted
  obtain ⟨members, rfl, spelled⟩ := ofQuery_eq_ok_iff.mp accepted
  rw [← Query.length_rows, spelled.rows_eq typed into, List.length_map]

/-- The records of a group have one identity under each grouping name. -/
theorem Spells.identity?_eq (spelled : Spells lookup members plan) (typed : plan.WellTyped)
    (into : plan.GroupsInto transformation groups) {group : Group} (member : group ∈ groups)
    {record : Record} (inGroup : record ∈ group.records) {name : String}
    (listed : name ∈ transformation.group.map Key.display) :
    Query.identity? plan.dataset name record = Query.identity? plan.dataset name group.first := by
  have gathered := typed.gathers into
  rw [← spelled.selected_eq] at gathered
  have owned := spelled.group_owned into.present
  have own := Query.values_of_gathers owned gathered member inGroup
  rw [Query.values_of_gathers owned gathered member List.mem_cons_self] at own
  exact (List.map_inj_left.mp own name listed).symm

/-- A group falls apart into as many groups of the finer grouping as there are distinct
values in its records. -/
theorem Spells.length_partsOf (spelled : Spells lookup members plan) (typed : plan.WellTyped)
    (into : plan.GroupsInto transformation groups)
    (fineSpelled : Spells lookup others finer) (fineTyped : finer.WellTyped)
    {fineTransformation : Transformation}
    (fineInto : finer.GroupsInto fineTransformation fineGroups)
    (refined : Query.Refines (.object members) (.object others)
      (transformation.group.map Key.display) rule)
    (sameDataset : finer.dataset = plan.dataset) {group : Group} (member : group ∈ groups) :
    (partsOf group fineGroups).length =
      (group.records.map (Query.identity? plan.dataset rule.target)).eraseDups.length := by
  have gathered := typed.gathers into
  rw [← spelled.selected_eq] at gathered
  have owned := spelled.group_owned into.present
  have records := Query.members_of_gathers owned gathered member
  have own := Query.values_of_gathers owned gathered member List.mem_cons_self
  have width : group.values.length = (transformation.group.map Key.display).length := by
    have lengths := congrArg List.length own
    rwa [Query.tuple, List.length_map, List.length_map] at lengths
  have regrouped := refined.regrouped
  rw [fineSpelled.grouping_eq, fineInto.present, Option.map_some, Option.some.injEq] at regrouped
  have fineTuples := fineSpelled.tuples_eq fineInto.present (fineTyped.gathers fineInto)
  rw [regrouped, sameDataset] at fineTuples
  have extensions := congrArg List.length
    (refined.extensions_eq plan.dataset (group.values.map some))
  rw [fineTuples, ← width, List.filter_map, List.length_map, List.length_map, records] at extensions
  have same : partsOf group fineGroups = fineGroups.filter
      ((fun finer => finer.take group.values.length = group.values.map some) ∘
        fun group => group.values.map some) := by
    refine List.filter_congr fun fine _ => decide_eq_decide.mpr ?_
    rw [← List.map_take, List.map_inj_right fun _ _ => Option.some.inj]
  rw [same]
  exact extensions

/-- What stands in a group under the name of a rule that counts is the number of distinct
values in its records. -/
theorem Spells.count_eq (spelled : Spells lookup members plan) (typed : plan.WellTyped)
    (into : plan.GroupsInto transformation groups)
    (declared : rule ∈ Query.rules (.object members)) (counts : rule.token = "COUNT")
    {group : Group} (member : group ∈ groups) {number : Binary64}
    (cell : Query.groupCell? plan.dataset (.object members) (transformation.group.map Key.display)
      (group.values.map some) rule.name = some (.number number)) :
    number = .ofInt
      (group.records.map (Query.identity? plan.dataset rule.target)).eraseDups.length := by
  have labelled : Aggregate.ofLabel? rule.token = some .count := by
    rw [counts]
    rfl
  have grouped : Query.grouping? (.object members) =
      some (transformation.group.map Key.display) := by
    rw [spelled.grouping_eq, into.present, Option.map_some]
  have gathered := typed.gathers into
  have inTuples : group.values.map some ∈ Query.tuples plan.dataset (.object members)
      (transformation.group.map Key.display) := by
    rw [spelled.tuples_eq into.present gathered]
    exact List.mem_map_of_mem member
  rw [← spelled.selected_eq] at gathered
  have records := Query.members_of_gathers (spelled.group_owned into.present) gathered member
  rw [spelled.groupCell?_of_rule grouped inTuples declared, records,
    Query.result?_of_count labelled, Option.map_eq_some_iff] at cell
  obtain ⟨values, read, shown⟩ := cell
  rw [← Query.countDistinct_eq read]
  exact (Value.number.inj shown).symm

/-- So the rule is computed as that number for the group, and shown as it. -/
theorem Spells.countsAs (spelled : Spells lookup members plan) (typed : plan.WellTyped)
    (into : plan.GroupsInto transformation groups)
    (declared : rule ∈ Query.rules (.object members)) (counts : rule.token = "COUNT")
    {group : Group} (member : group ∈ groups) :
    CountsAs (.object members) rule transformation group
      (plan.rowOfGroup (.object members) transformation group)
      (group.records.map (Query.identity? plan.dataset rule.target)).eraseDups.length := by
  have gathered := typed.gathers into
  obtain ⟨row, computed⟩ := typed.ofGroup_exists into.present fun record =>
    selected_of_gathers gathered member
  obtain ⟨results, each, rfl⟩ := Row.ofGroup_eq_ok_iff.mp computed
  have named : rule.name ∈ results.map Prod.fst := by
    rw [spelled.rules_eq, rules, into.present] at declared
    obtain ⟨read, inRules, rfl⟩ := List.mem_map.mp declared
    rw [Rule.map_fst_of_computes each]
    exact List.mem_map_of_mem inRules
  obtain ⟨number, found⟩ := Option.isSome_iff_exists.mp (NameMap.get?_ofList_isSome_iff.mpr named)
  have cell := spelled.result_cell into.present gathered member each found
  have shows (selected : rule.name ∈ Query.columns (.object members)) :
      (plan.rowOfGroup (.object members) transformation group).get? rule.name =
        some (.ofBinary64 number) := by
    rw [rowOfGroup, Query.get?_rowOf, if_pos selected, cell]
    rfl
  have counted := spelled.count_eq typed into declared counts member cell
  rw [counted] at found shows
  refine ⟨⟨_, computed, found⟩, shows, fun selected small => ?_⟩
  rw [shows selected, Json.ofBinary64_ofInt ((Int.natAbs_natCast _).trans_le small)]

end Plan

/-- Two accepted queries within their limits, of which one groups by one more field, present
their groups. The count of that field in each group of the coarser query is the number of
groups in which it falls apart when the query groups by the field as well. It is at least one
and at most the number of records in the group: one if the field is grouped by already, and
that number if no two records of the group have one value in the field. -/
theorem answer_counts {lookup : Lookup} {limit fineLimit : Nat} {raw fine : Json}
    {plan finer : Plan} {names : List String} {rule : Query.DeclaredRule}
    (accepted : Plan.ofQuery lookup raw = .ok plan)
    (fineAccepted : Plan.ofQuery lookup fine = .ok finer)
    (refined : Query.Refines raw fine names rule)
    (within : Query.size plan.dataset raw ≤ limit)
    (fineWithin : Query.size finer.dataset fine ≤ fineLimit) :
    ∃ transformation groups shown fineTransformation fineGroups fineShown,
      plan.Presents raw transformation groups shown (answer lookup limit raw) ∧
      finer.Presents fine fineTransformation fineGroups fineShown
        (answer lookup fineLimit fine) ∧
      ∀ group ∈ groups,
        let count := (Plan.partsOf group fineGroups).length
        Plan.CountsAs raw rule transformation group (shown group) count ∧
        1 ≤ count ∧ count ≤ group.records.length ∧
        (rule.target ∈ names → count = 1) ∧
        ((group.records.map (Query.identity? plan.dataset rule.target)).Nodup →
          count = group.records.length) := by
  obtain ⟨transformation, groups, rfl, presents⟩ :=
    Plan.presents_exists accepted refined.grouped within
  obtain ⟨fineTransformation, fineGroups, -, finePresents⟩ :=
    Plan.presents_exists fineAccepted refined.regrouped fineWithin
  refine ⟨transformation, groups, _, fineTransformation, fineGroups, _, presents, finePresents,
    fun group member => ?_⟩
  have typed := Plan.wellTyped_of_ofQuery accepted
  have fineTyped := Plan.wellTyped_of_ofQuery fineAccepted
  obtain ⟨members, rfl, spelled⟩ := Plan.ofQuery_eq_ok_iff.mp accepted
  obtain ⟨others, rfl, fineSpelled⟩ := Plan.ofQuery_eq_ok_iff.mp fineAccepted
  have sameDataset : finer.dataset = plan.dataset := by
    obtain ⟨name, listed⟩ := List.exists_mem_of_ne_nil _ spelled.naming_ne_nil
    refine spelled.dataset_eq fineSpelled listed ?_
    rw [Query.naming, refined.grouped] at listed
    rw [Query.naming, refined.regrouped]
    exact List.mem_append_left _ listed
  have parts := spelled.length_partsOf typed presents.into fineSpelled fineTyped finePresents.into
    refined sameDataset member
  have counted := spelled.countsAs typed presents.into refined.declared refined.counts member
  have nonempty : group.records.map (Query.identity? plan.dataset rule.target) ≠ [] :=
    List.cons_ne_nil _ _
  have atLeast := Group.length_eraseDups_pos nonempty
  have atMost := Group.length_eraseDups_le
    (group.records.map (Query.identity? plan.dataset rule.target))
  rw [List.length_map] at atMost
  dsimp only
  rw [parts]
  refine ⟨counted, atLeast, atMost, fun listed => ?_, fun distinct => ?_⟩
  · apply Group.length_eraseDups_of_same nonempty
    rw [List.forall_mem_map]
    intro record inGroup
    exact spelled.identity?_eq typed presents.into member inGroup listed
  · rw [Group.eraseDups_of_nodup distinct, List.length_map]

/-- The departments with their averages, one row for each pair of the two. -/
def Sample.separated : Json :=
  .object [
    ("OPTIONS", .object [("COLUMNS", .array [.text "courses_dept", .text "courses_avg"])]),
    ("TRANSFORMATIONS", .object [
      ("APPLY", .array []),
      ("GROUP", .array [.text "courses_dept", .text "courses_avg"])]),
    ("WHERE", .object [("GT", .object [("courses_avg", .number (.integer 50))])])]

/-- The departments are counted in three groups, and these fall apart into four by their
averages; the count of each is the number of its parts. -/
theorem separated_counts : ∃ plan finer,
    Plan.ofQuery (.ofList [Sample.dataset]) (Sample.counted []) = .ok plan ∧
      Plan.ofQuery (.ofList [Sample.dataset]) Sample.separated = .ok finer ∧
      ∃ rows fineRows transformation groups shown fineTransformation fineGroups fineShown,
        answer (.ofList [Sample.dataset]) 3 (Sample.counted []) = .ok rows ∧
        answer (.ofList [Sample.dataset]) 4 Sample.separated = .ok fineRows ∧
        plan.Presents (Sample.counted []) transformation groups shown (.ok rows) ∧
        finer.Presents Sample.separated fineTransformation fineGroups fineShown (.ok fineRows) ∧
        groups.length = 3 ∧ fineGroups.length = 4 ∧
        ∀ group ∈ groups, (shown group).get? "averages" =
          some (.ofBinary64 (.ofInt (Plan.partsOf group fineGroups).length)) := by
  obtain ⟨plan, accepted, bound⟩ : ∃ plan,
      Plan.ofQuery (.ofList [Sample.dataset]) (Sample.counted []) = .ok plan ∧
        plan.dataset = Sample.dataset :=
    Checks.exists_ok_of_seen (by decide +kernel)
  obtain ⟨finer, fineAccepted, fineBound⟩ : ∃ finer,
      Plan.ofQuery (.ofList [Sample.dataset]) Sample.separated = .ok finer ∧
        finer.dataset = Sample.dataset :=
    Checks.exists_ok_of_seen (by decide +kernel)
  have refined : Query.Refines (Sample.counted []) Sample.separated ["courses_dept"]
      ⟨"averages", "COUNT", "courses_avg"⟩ := by
    refine ⟨rfl, rfl, rfl, ?_, rfl⟩
    decide +kernel
  have three : Query.size plan.dataset (Sample.counted []) = 3 := by
    rw [bound]
    decide +kernel
  have four : Query.size finer.dataset Sample.separated = 4 := by
    rw [fineBound]
    decide +kernel
  obtain ⟨transformation, groups, shown, fineTransformation, fineGroups, fineShown, presents,
    finePresents, each⟩ := answer_counts accepted fineAccepted refined three.le four.le
  have length := Plan.length_groups accepted presents.into
  have fineLength := Plan.length_groups fineAccepted finePresents.into
  have answered := answer_of_unordered accepted three.le rfl
  have fineAnswered := answer_of_unordered fineAccepted four.le rfl
  rw [answered] at presents
  rw [fineAnswered] at finePresents
  refine ⟨plan, finer, accepted, fineAccepted, _, _, transformation, groups, shown,
    fineTransformation, fineGroups, fineShown, answered, fineAnswered, presents, finePresents,
    length.trans three, fineLength.trans four, fun group member => ?_⟩
  exact (each group member).1.shown (by decide +kernel)

end CampusQuery
