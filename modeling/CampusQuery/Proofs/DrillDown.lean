import CampusQuery.Proofs.GroupRows
import CampusQuery.Proofs.Language

/-!
# From a row back to its records

A row of a grouped query says enough to find the records behind it: the condition of the
query, together with one comparison for each grouping name with what the row shows under
it, selects exactly the records of the row's group. Two ways of taking values for the same
meet in this. Grouping compares identities, while the comparison has only the text of a
number or a pattern to go by. The numeral that is shown of a finite number reads back to
its place, and a text without stars is a pattern that it alone fills.
-/

namespace CampusQuery

namespace Value

/-- A number, or a text without stars. -/
def IsStarless : Value → Prop
  | number _ => True
  | text written => Pattern.star ∉ written.toList

instance : DecidablePred IsStarless
  | number _ => isTrue trivial
  | text written => inferInstanceAs (Decidable (Pattern.star ∉ written.toList))

end Value

namespace Query

/-- No selected record has, under one of the names, a text with a star. -/
def StarlessUnder (dataset : Dataset) (raw : Json) (names : List String) : Prop :=
  ∀ record ∈ selected dataset raw, ∀ name ∈ names, ∀ value ∈ cell? dataset.id record name,
    value.IsStarless

instance (dataset : Dataset) (raw : Json) (names : List String) :
    Decidable (StarlessUnder dataset raw names) :=
  inferInstanceAs (Decidable (∀ record ∈ selected dataset raw, ∀ name ∈ names,
    ∀ value ∈ cell? dataset.id record name, value.IsStarless))

/-- A query selects records of a dataset: it is accepted, its plan has these records for
its rows, in the order of the dataset, and within the limit it gives one row for each of
them. -/
structure Selects (lookup : Lookup) (dataset : Dataset) (raw : Json) (records : List Record) :
    Prop where
  planned : ∃ plan, Plan.ofQuery lookup raw = .ok plan ∧ plan.dataset = dataset ∧
    plan.rows = .ok (records.map .single)
  inOrder : records.Sublist dataset.records.toList
  shown : ∀ limit, records.length ≤ limit → Gives dataset raw
    (fun rows => rows.Perm (records.map fun record =>
      rowOf (columns raw) (cell? dataset.id record))) (answer lookup limit raw)

/-- An accepted query without groups selects the records that satisfy its condition. -/
theorem selects_selected {lookup : Lookup} {raw : Json} {plan : Plan}
    (accepted : Plan.ofQuery lookup raw = .ok plan) (plain : grouping? raw = none) :
    Selects lookup plan.dataset raw (selected plan.dataset raw) := by
  have meant : rows plan.dataset raw = (selected plan.dataset raw).map fun record =>
      rowOf (columns raw) (cell? plan.dataset.id record) := by
    rw [rows, table, plain]
    exact List.map_map
  refine ⟨⟨plan, accepted, rfl, ?_⟩, List.filter_sublist, fun limit within => ?_⟩
  · have typed := Plan.wellTyped_of_ofQuery accepted
    obtain ⟨members, rfl, spelled⟩ := Plan.ofQuery_eq_ok_iff.mp accepted
    rw [spelled.grouping_eq, Option.map_eq_none_iff] at plain
    rw [Plan.rows, typed.select_eq_selected, Checks.ok_bind, plain, spelled.selected_eq]
    rfl
  · have size : Query.size plan.dataset raw ≤ limit := by
      rw [← length_rows, meant, List.length_map]
      exact within
    exact (answer_gives_perm accepted size).imp fun shown permuted => meant ▸ permuted

/-- The operator that compares the values under a name: of numbers or of texts. -/
def equality (dataset name : String) : String :=
  if (field? dataset name).map Field.holds = some .numeric then "EQ" else "IS"

/-- The condition to have under a name what a row shows there. -/
def restriction (dataset : String) (row : ResultRow) (name : String) : Json :=
  .object [(equality dataset name, .object [(name, (row.get? name).getD .null)])]

/-- The query for the records behind a row, with options of its own. -/
def drill (dataset : String) (raw : Json) (names : List String) (row : ResultRow)
    (options : Json) : Json :=
  .object [
    ("OPTIONS", options),
    ("WHERE", .object [("AND", .array (condition raw :: names.map (restriction dataset row)))])]

section

variable {dataset : Dataset} {raw : Json} {names : List String} {key : Key} {row : ResultRow}

/-- The operator is that of the type of the field. -/
theorem equality_eq (owned : dataset.scope.Owns key) :
    equality dataset.id key.display = if key.field.holds = .numeric then "EQ" else "IS" := by
  have named : key.display = (Key.mk dataset.id key.field).display := by
    rw [Key.display, Key.display, owned.dataset]
    rfl
  simp only [equality, field?_eq_some_iff.mpr named, Option.map_some, Option.some.injEq]

/-- Under a key of the dataset a row shows a value of the key's type, and the value can be
read off what is shown: it is no number beyond the finite ones and no text with a star. -/
structure ShowsUnder (dataset : Dataset) (row : ResultRow) (key : Key) (value : Value) : Prop where
  plain : IsId key.dataset
  owned : dataset.scope.Owns key
  type : value.type = key.field.holds
  finite : value.IsFinite
  starless : value.IsStarless
  shown : row.get? key.display = some value.toJson

/-- Under each of the keys a row shows what a record has there. -/
def ShowsRecord (dataset : Dataset) (row : ResultRow) (keys : List Key) (record : Record) : Prop :=
  ∀ key ∈ keys, ∃ value, cell? dataset.id record key.display = some value ∧
    ShowsUnder dataset row key value

/-- A restriction compares with a numeral that reads back to the number's place, or with
the text. -/
theorem restriction_eq {value : Value} (shows : ShowsUnder dataset row key value) :
    (∃ number numeral, value = .number number ∧
      numeral.toBinary64.identity = number.identity ∧
      restriction dataset.id row key.display =
        .object [("EQ", .object [(key.display, .number numeral)])]) ∨
    ∃ text, value = .text text ∧
      restriction dataset.id row key.display =
        .object [("IS", .object [(key.display, .text text)])] := by
  rw [restriction, equality_eq shows.owned, shows.shown, Option.getD_some, ← shows.type]
  cases value with
  | number number =>
    obtain ⟨numeral, written, back⟩ := Binary64.numeral_exists shows.finite
    exact .inl ⟨number, numeral, rfl, back, by rw [Value.toJson, written]; rfl⟩
  | text text => exact .inr ⟨text, rfl, rfl⟩

/-- A restriction is a condition. -/
theorem ShowsUnder.isCondition {value : Value} (shows : ShowsUnder dataset row key value) :
    IsCondition dataset.scope (restriction dataset.id row key.display) := by
  have named := names_display shows.plain shows.owned
  rcases restriction_eq shows with ⟨number, numeral, rfl, -, written⟩ | ⟨text, rfl, written⟩
  · rw [written]
    exact .compare (by decide) named shows.type.symm
  · rw [written]
    refine .like named shows.type.symm fun before after split => ?_
    have present : Pattern.star ∈ text.toList := by simp [split]
    exact absurd present shows.starless

/-- A restriction holds of the records that have the value that is shown, up to the sign
of a zero. -/
theorem ShowsUnder.holds_iff {value : Value} (shows : ShowsUnder dataset row key value)
    (record : Record) :
    holds dataset.id record (restriction dataset.id row key.display) = true ↔
      (cell? dataset.id record key.display).map Value.identity = some value.identity := by
  have sameType : ∀ other ∈ cell? dataset.id record key.display, other.type = value.type := by
    intro other found
    rw [cell?_of_owns shows.owned] at found
    exact (Record.value?_type found).trans shows.type.symm
  rcases restriction_eq shows with ⟨number, numeral, rfl, back, written⟩ | ⟨text, rfl, written⟩
  · obtain ⟨place, stands⟩ := Binary64.position?_of_isFinite shows.finite
    have literalStands : numeral.toBinary64.position? = some place := by
      rw [← Binary64.position?_identity, back, Binary64.position?_identity, stands]
    rw [written, holds, compares]
    cases found : cell? dataset.id record key.display with
    | none => simp
    | some other =>
      cases other with
      | text => cases sameType _ found
      | number other =>
        have equal : other.compare? numeral.toBinary64 = some .eq ↔
            other.identity = number.identity := by
          rw [← back]
          exact Binary64.compare?_eq_iff_identity literalStands
        simp only [beq_iff_eq, equal, Option.map_some, Option.some.injEq, Value.identity,
          Value.number.injEq]
  · rw [written, holds, fillsPattern]
    cases found : cell? dataset.id record key.display with
    | none => simp
    | some other =>
      cases other with
      | number => cases sameType _ found
      | text other =>
        have filled : Pattern.Fills text.toList other.toList ↔ other.toList = text.toList :=
          Pattern.fills_body_iff shows.starless
        simp only [decide_eq_true_iff, filled, String.toList_inj, Option.map_some,
          Option.some.injEq, Value.identity, Value.text.injEq]

variable {keys : List Key} {record : Record}

/-- The drill-down from a row that shows a record has a condition. -/
theorem isCondition_drill (shows : ShowsRecord dataset row keys record)
    (isCondition : IsCondition dataset.scope (condition raw)) (options : Json) :
    IsCondition dataset.scope
      (condition (drill dataset.id raw (keys.map Key.display) row options)) := by
  refine .and (List.cons_ne_nil _ _) (List.forall_mem_cons.mpr ⟨isCondition, ?_⟩)
  intro item inItems
  obtain ⟨name, listedName, rfl⟩ := List.mem_map.mp inItems
  obtain ⟨key, listed, rfl⟩ := List.mem_map.mp listedName
  obtain ⟨value, -, under⟩ := shows key listed
  exact under.isCondition

/-- With options that are valid without groups, it is a query of the language. -/
theorem isQuery_drill (shows : ShowsRecord dataset row keys record)
    (isCondition : IsCondition dataset.scope (condition raw)) {options : Json}
    (valid : IsOptions dataset.scope [] none options) :
    IsQuery dataset.scope (drill dataset.id raw (keys.map Key.display) row options) :=
  .ungrouped (by simp) rfl rfl rfl (isCondition_drill shows isCondition options) valid

/-- The drill-down from a row that shows a record selects the members of the record's
tuple. -/
theorem selected_drill (shows : ShowsRecord dataset row keys record) (options : Json) :
    selected dataset (drill dataset.id raw (keys.map Key.display) row options) =
      members dataset raw (keys.map Key.display)
        (tuple dataset (keys.map Key.display) record) := by
  have narrowed : condition (drill dataset.id raw (keys.map Key.display) row options) =
      .object [("AND", .array (condition raw ::
        (keys.map Key.display).map (restriction dataset.id row)))] := rfl
  rw [members, selected, selected, List.filter_filter, narrowed]
  refine List.filter_congr fun other _ => ?_
  -- The first child is the condition of the query, the others stand for the names one by one.
  rw [holds, holdsEach, holdsEach_eq_map, List.all_cons, List.map_map, Bool.and_comm]
  congr 1
  rw [Bool.eq_iff_iff, decide_eq_true_iff, tuple, tuple, List.map_inj_left, List.all_map,
    List.all_eq_true]
  refine forall₂_congr fun name listedName => ?_
  obtain ⟨key, listed, rfl⟩ := List.mem_map.mp listedName
  obtain ⟨value, found, under⟩ := shows key listed
  rw [found, Option.map_some]
  exact under.holds_iff other

end

end Query

namespace Plan

/-- A group of the plan forms a row: the records are placed into it, and the row is what
is shown of it. -/
def Forms (plan : Plan) (group : Group) (row : ResultRow) : Prop :=
  ∃ transformation groups, plan.GroupsInto transformation groups ∧ group ∈ groups ∧
    (do (← Row.ofGroup transformation.rules group).project plan.options.columns) = .ok row

variable {lookup : Lookup} {members : List (String × Json)} {plan : Plan}
  {transformation : Transformation} {groups : List Group}

/-- The groups that form a row are those whose row it is. -/
theorem Spells.forms_iff (spelled : Spells lookup members plan) (typed : plan.WellTyped)
    (into : plan.GroupsInto transformation groups) {group : Group} {row : ResultRow} :
    plan.Forms group row ↔
      group ∈ groups ∧ plan.rowOfGroup (.object members) transformation group = row := by
  have projects {group : Group} (member : group ∈ groups) :
      (do (← Row.ofGroup transformation.rules group).project plan.options.columns) =
        .ok (plan.rowOfGroup (.object members) transformation group) := by
    obtain ⟨formed, computed⟩ := typed.ofGroup_exists into.present fun record =>
      selected_of_gathers (typed.gathers into) member
    obtain ⟨results, each, rfl⟩ := Row.ofGroup_eq_ok_iff.mp computed
    rw [computed, Checks.ok_bind]
    exact spelled.project_member typed into member List.mem_cons_self each
  constructor
  · rintro ⟨other, others, otherInto, member, shown⟩
    obtain rfl : transformation = other :=
      Option.some.inj (into.present.symm.trans otherInto.present)
    obtain rfl : groups = others := Except.ok.inj (into.places.symm.trans otherInto.places)
    exact ⟨member, Except.ok.inj ((projects member).symm.trans shown)⟩
  · rintro ⟨member, rfl⟩
    exact ⟨transformation, groups, into, member, projects member⟩

/-- The row of a group shows the group's first record, where the grouping names are
columns with finite numbers and texts without stars under them. -/
theorem Spells.showsRecord (spelled : Spells lookup members plan) (typed : plan.WellTyped)
    (into : plan.GroupsInto transformation groups) {group : Group} (member : group ∈ groups)
    (covered : ∀ name ∈ transformation.group.map Key.display,
      name ∈ Query.columns (.object members))
    (finite : Query.FiniteUnder plan.dataset (.object members)
      (transformation.group.map Key.display))
    (starless : Query.StarlessUnder plan.dataset (.object members)
      (transformation.group.map Key.display)) :
    Query.ShowsRecord plan.dataset (plan.rowOfGroup (.object members) transformation group)
      transformation.group group.first := by
  intro key listed
  have gathered := typed.gathers into
  have chosen := selected_of_gathers gathered member (List.mem_cons_self (a := group.first))
  have display := List.mem_map_of_mem (f := Key.display) listed
  obtain ⟨given, -, transformationSpelled⟩ := spelled.transformation_spelled into.present
  obtain ⟨plain, owned⟩ := transformationSpelled.owned key listed
  obtain ⟨value, read, type⟩ := Record.value_exists (field_of_selected owned chosen)
  have found := (Query.cell?_of_owns owned group.first).trans (Record.value_eq_ok_iff.mp read)
  rw [← spelled.selected_eq] at gathered chosen
  have values := Query.values_of_gathers (spelled.group_owned into.present) gathered member
    List.mem_cons_self
  refine ⟨value, found, plain, owned, type, finite _ chosen _ display value found,
    starless _ chosen _ display value found, ?_⟩
  rw [rowOfGroup, values, Query.get?_of_tuple group.first display (covered _ display), found,
    Option.map_some]

/-- The drill-down from a row that shows the first record of a group selects the records
of the group. -/
theorem Spells.selected_drill (spelled : Spells lookup members plan) (typed : plan.WellTyped)
    (into : plan.GroupsInto transformation groups) {group : Group} (member : group ∈ groups)
    {row : ResultRow} (shows : Query.ShowsRecord plan.dataset row transformation.group group.first)
    (options : Json) :
    Query.selected plan.dataset (Query.drill plan.dataset.id (.object members)
      (transformation.group.map Key.display) row options) = group.records := by
  have owned := spelled.group_owned into.present
  have gathered := typed.gathers into
  rw [← spelled.selected_eq] at gathered
  rw [Query.selected_drill shows, ← Query.values_of_gathers owned gathered member
    List.mem_cons_self, Query.members_of_gathers owned gathered member]

end Plan

/-- Where the grouping names of an accepted query are columns, with finite numbers and
texts without stars under them, every row of the answer leads back to its records: some
group forms the row, and whichever group does, the drill-down from the row, with any
options that are valid without groups, selects exactly the records of the group. -/
theorem answer_drills {lookup : Lookup} {limit : Nat} {raw options : Json} {plan : Plan}
    {names : List String} {rows : List ResultRow} {row : ResultRow}
    (accepted : Plan.ofQuery lookup raw = .ok plan)
    (grouped : Query.grouping? raw = some names)
    (covered : ∀ name ∈ names, name ∈ Query.columns raw)
    (finite : Query.FiniteUnder plan.dataset raw names)
    (starless : Query.StarlessUnder plan.dataset raw names)
    (answered : answer lookup limit raw = .ok rows) (member : row ∈ rows)
    (valid : Query.IsOptions plan.dataset.scope [] none options) :
    (∃ group, plan.Forms group row) ∧ ∀ group, plan.Forms group row →
      Query.Selects lookup plan.dataset (Query.drill plan.dataset.id raw names row options)
        group.records := by
  have typed := Plan.wellTyped_of_ofQuery accepted
  have permuted := perm_of_answer accepted answered
  obtain ⟨members, rfl, spelled⟩ := Plan.ofQuery_eq_ok_iff.mp accepted
  rw [spelled.grouping_eq, Option.map_eq_some_iff] at grouped
  obtain ⟨transformation, present, rfl⟩ := grouped
  obtain ⟨groups, into, -⟩ := typed.groups_exist present
  rw [spelled.rows_eq typed into] at permuted
  obtain ⟨first, inGroups, same⟩ := List.mem_map.mp (permuted.mem_iff.mp member)
  refine ⟨⟨first, (spelled.forms_iff typed into).mpr ⟨inGroups, same⟩⟩, fun group forms => ?_⟩
  obtain ⟨groupMember, rfl⟩ := (spelled.forms_iff typed into).mp forms
  have shows := spelled.showsRecord typed into groupMember covered finite starless
  -- What the row shows makes the drill-down a query of the language, and so it has a plan.
  have isCondition := Query.isCondition_of_read spelled.condition_read
  have derived := Query.isQuery_drill shows isCondition valid
  obtain ⟨drilled, drilledAccepted, bound⟩ := derived.exists_plan_on spelled.found
  have selects := Query.selects_selected drilledAccepted rfl
  rwa [bound, spelled.selected_drill typed into groupMember shows] at selects

/-- The rows with the numbers of audits lead back to their sections; the row of a zero
leads to the section with a zero and to the one with a zero that has a sign. -/
theorem audits_drills : ∃ plan rows,
    Plan.ofQuery (.ofList [Sample.audited]) Sample.audits = .ok plan ∧
      answer (.ofList [Sample.audited]) 2 Sample.audits = .ok rows ∧ rows.length = 2 ∧
      ∀ row ∈ rows, ∃ group, plan.Forms group row ∧
        Query.Selects (.ofList [Sample.audited]) Sample.audited
          (Query.drill "courses" Sample.audits ["courses_audit"] row
            (.object [("COLUMNS", .array [.text "courses_dept"])])) group.records := by
  obtain ⟨plan, accepted, bound⟩ : ∃ plan,
      Plan.ofQuery (.ofList [Sample.audited]) Sample.audits = .ok plan ∧
        plan.dataset = Sample.audited :=
    Checks.exists_ok_of_seen (by decide +kernel)
  obtain ⟨rows, answered, two⟩ : ∃ rows,
      answer (.ofList [Sample.audited]) 2 Sample.audits = .ok rows ∧ rows.length = 2 :=
    Checks.exists_ok_of_seen (by decide +kernel)
  have grouped : Query.grouping? Sample.audits = some ["courses_audit"] := rfl
  have covered : ∀ name ∈ ["courses_audit"], name ∈ Query.columns Sample.audits := by
    decide +kernel
  have finite : Query.FiniteUnder plan.dataset Sample.audits ["courses_audit"] := by
    rw [bound]
    decide +kernel
  have starless : Query.StarlessUnder plan.dataset Sample.audits ["courses_audit"] := by
    rw [bound]
    decide +kernel
  have valid : Query.IsOptions plan.dataset.scope [] none
      (.object [("COLUMNS", .array [.text "courses_dept"])]) := by
    rw [bound]
    have plain : IsId "courses" := ⟨⟨'c', by decide, by decide⟩, by decide⟩
    have isKey : Query.IsKey Sample.audited.scope "courses_dept" :=
      ⟨.dept, plain, by decide, by decide⟩
    have unordered : [("COLUMNS", Json.array [.text "courses_dept"])].lookup "ORDER" = none := rfl
    exact @Query.IsOptions.mk _ _ _ _ ["courses_dept"] (by simp) rfl (by simp)
      (by simpa using isKey) (by simp [unordered])
  refine ⟨plan, rows, accepted, answered, two, fun row member => ?_⟩
  obtain ⟨⟨group, forms⟩, selects⟩ :=
    answer_drills accepted grouped covered finite starless answered member valid
  rw [bound] at selects
  exact ⟨group, forms, selects group forms⟩

end CampusQuery
