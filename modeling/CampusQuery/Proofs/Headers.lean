import CampusQuery.Proofs.Sessions

/-!
# Columns and their names on the way out

A row of a result keeps one value for each name, so columns that shared a name would lose a
value. They do not: a name is read as one column, and no rule is named like a key. So the columns
of a plan are told apart by their names, a row of the result has the names of the columns and the
value of each column under its own, and a header that lists the names once has a cell for each
value of the row and no cell without one.
-/

namespace CampusQuery

/-- Columns that are read are told apart by their labels: a label is read as one column. -/
theorem Column.eq_of_label {rules : List String} {left right : Column}
    (leftDeclared : left.Declared rules) (rightDeclared : right.Declared rules)
    (same : left.label = right.label) : left = right := by
  have leftRead := read_eq_ok_iff.mpr ⟨rfl, leftDeclared⟩
  have rightRead := read_eq_ok_iff.mpr ⟨rfl, rightDeclared⟩
  rw [same, rightRead] at leftRead
  exact (Except.ok.inj leftRead).symm

/-- A row of a result shows the columns of a row of the plan: it has a value under their names and
no others, and under the name of each column the value of that column. -/
structure Row.IsShown (columns : List Column) (row : Row) (shown : ResultRow) : Prop where
  names : ∀ name, name ∈ shown.names ↔ name ∈ columns.map Column.label
  values : ∀ column ∈ columns, ∃ value, row.value column = .ok value ∧
    shown.get? column.label = some value.toJson

/-- What is selected of a row shows the columns, where these are told apart by their labels. -/
theorem Row.isShown_of_project {columns : List Column}
    (distinct : ∀ left ∈ columns, ∀ right ∈ columns, left.label = right.label → left = right)
    {row : Row} {shown : ResultRow} (projected : row.project columns = .ok shown) :
    row.IsShown columns shown := by
  simp only [project, Checks.bind_eq_ok, Checks.pure_eq_ok, Checks.mapM_eq_ok_iff] at projected
  obtain ⟨pairs, each, rfl⟩ := projected
  have named : columns.map Column.label = pairs.map Prod.fst := by
    refine Checks.map_eq_map_of_forall₂ each ?_
    rintro column pair ⟨value, -, rfl⟩
    rfl
  constructor
  · intro name
    rw [NameMap.mem_names_iff, NameMap.get?_ofList_isSome_iff, named]
  · intro column selected
    obtain ⟨pair, member, value, read, rfl⟩ := Checks.exists_of_mem_left each selected
    refine ⟨value, read, NameMap.get?_ofList_of_mem member ?_⟩
    intro other again
    obtain ⟨same, alsoSelected, otherValue, otherRead, pair⟩ :=
      Checks.exists_of_mem_right each again
    obtain ⟨label, rfl⟩ := Prod.mk.inj pair
    obtain rfl := distinct same alsoSelected column selected label
    rw [read] at otherRead
    rw [Except.ok.inj otherRead]

/-- The columns of a plan are told apart by their labels. -/
theorem Plan.Spells.column_eq_of_label {lookup : Lookup} {members : List (String × Json)}
    {plan : Plan} (spelled : Plan.Spells lookup members plan) {left right : Column}
    (leftSelected : left ∈ plan.options.columns) (rightSelected : right ∈ plan.options.columns)
    (same : left.label = right.label) : left = right := by
  obtain ⟨given, -, optionsSpelled⟩ := spelled.options
  have leftDeclared := optionsSpelled.declared left leftSelected
  have rightDeclared := optionsSpelled.declared right rightSelected
  exact Column.eq_of_label leftDeclared rightDeclared same

/-- The names of a plan's rules are names that a rule can have. -/
theorem Plan.Spells.isName_of_mem {lookup : Lookup} {members : List (String × Json)}
    {plan : Plan} (spelled : Plan.Spells lookup members plan) {name : String}
    (declared : name ∈ plan.ruleNames) : Rule.IsName name := by
  obtain ⟨rule, member, rfl⟩ := List.mem_map.mp declared
  cases present : plan.transformation with
  | none => simp [Plan.rules, present] at member
  | some transformation =>
    obtain ⟨given, -, transformationSpelled⟩ := spelled.transformation_spelled present
    have inRules : rule ∈ transformation.rules := by simpa [Plan.rules, present] using member
    exact (transformationSpelled.fits rule inRules).name

/-- The header has the names of the columns. -/
theorem Options.mem_header_iff {options : Options} {name : String} :
    name ∈ options.header ↔ name ∈ options.columns.map Column.label :=
  List.mem_eraseDups

/-- A header has no column twice. -/
theorem Options.header_nodup (options : Options) : options.header.Nodup :=
  Group.nodup_eraseDups options.labels

namespace Row.IsShown

variable {options : Options} {row : Row} {shown : ResultRow}

/-- A row that shows the columns has the names of the header, each once. -/
theorem names_perm (isShown : row.IsShown options.columns shown) :
    shown.names.Perm options.header := by
  have once : shown.names.Nodup := shown.names_ordered.imp fun before => String.ne_of_lt before
  rw [List.perm_ext_iff_of_nodup once options.header_nodup]
  intro name
  rw [isShown.names, Options.mem_header_iff]

/-- Under the header stands every value of the row in a cell of its own, and no cell is missing. -/
theorem cells_perm (isShown : row.IsShown options.columns shown) :
    (options.header.map shown.get?).Perm (shown.values.map some) := by
  have listed : shown.names.map shown.get? = shown.values.map some :=
    Checks.map_eq_map_of_forall₂ shown.forall₂_names_values fun _ _ found => found
  rw [← listed]
  exact (isShown.names_perm.map shown.get?).symm

end Row.IsShown

/-- Rows that a plan is carried out to were arranged, and each is what is selected of one of
them. -/
theorem Plan.exists_arranged_of_execute {plan : Plan} (typed : plan.WellTyped) {limit : Nat}
    {shown : List ResultRow} (executed : plan.execute limit = .ok shown) :
    ∃ rows arranged, plan.rows = .ok rows ∧ plan.arrange rows = .ok arranged ∧
      List.Forall₂ (fun row result => row.project plan.options.columns = .ok result)
        arranged shown := by
  obtain ⟨rows, runs⟩ := typed.runs
  by_cases exceeded : limit < rows.length
  · rw [Plan.execute_eq_tooLarge runs.evaluated exceeded] at executed
    cases executed
  · have within := Nat.not_lt.mp exceeded
    rcases runs.arranged with ⟨arranged, inOrder, permuted⟩ | stopped
    · obtain ⟨results, projected⟩ := Checks.mapM_exists fun row member =>
        runs.shown row (permuted.mem_iff.mp member)
      rw [Plan.execute_eq_ok runs.evaluated within inOrder projected] at executed
      obtain rfl := Except.ok.inj executed
      exact ⟨rows, arranged, runs.evaluated, inOrder, Checks.mapM_eq_ok_iff.mp projected⟩
    · rw [Plan.execute_eq_defect runs.evaluated within stopped] at executed
      cases executed

/-- The columns of an accepted query are told apart by their names, and no rule is named like a
key. Every row of the answer has the names of the columns and the value of each column under its
own. The header of a report is without repetition, has the names of every row, and has every value
of a row in a cell of its own and no cell without a value. -/
theorem answer_labelled {lookup : Lookup} {raw : Json} {plan : Plan}
    (accepted : Plan.ofQuery lookup raw = .ok plan) :
    (∀ left ∈ plan.options.columns, ∀ right ∈ plan.options.columns,
      left.label = right.label ↔ left = right) ∧
    (∀ name ∈ plan.ruleNames, ∀ key : Key, name ≠ key.display) ∧
    plan.options.header.Nodup ∧
    (∀ limit shown, plan.execute limit = .ok shown → ∃ rows arranged,
      plan.rows = .ok rows ∧ plan.arrange rows = .ok arranged ∧
      List.Forall₂ (Row.IsShown plan.options.columns) arranged shown ∧
      ∀ row ∈ shown, row.names.Perm plan.options.header ∧
        (plan.options.header.map row.get?).Perm (row.values.map some)) ∧
    ∀ (invocation : CommandLine.Invocation) (catalog : Catalog) report,
      catalog.snapshot.lookup = lookup → invocation.report catalog raw = .ok report →
        ∃ shown, plan.execute invocation.limit = .ok shown ∧
          report = Report.render invocation.format plan.options.header shown := by
  have typed := Plan.wellTyped_of_ofQuery accepted
  obtain ⟨members, rfl, spelled⟩ := Plan.ofQuery_eq_ok_iff.mp accepted
  have distinct : ∀ left ∈ plan.options.columns, ∀ right ∈ plan.options.columns,
      left.label = right.label → left = right :=
    fun _ leftSelected _ rightSelected => spelled.column_eq_of_label leftSelected rightSelected
  refine ⟨?_, ?_, plan.options.header_nodup, ?_, ?_⟩
  · intro left leftSelected right rightSelected
    exact ⟨distinct left leftSelected right rightSelected, congrArg Column.label⟩
  · intro name declared key
    exact Plan.name_ne_display (spelled.isName_of_mem declared) key
  · intro limit shown executed
    obtain ⟨rows, arranged, evaluated, inOrder, each⟩ :=
      Plan.exists_arranged_of_execute typed executed
    have shows : List.Forall₂ (Row.IsShown plan.options.columns) arranged shown :=
      each.imp fun _ _ projected => Row.isShown_of_project distinct projected
    refine ⟨rows, arranged, evaluated, inOrder, shows, ?_⟩
    intro result member
    obtain ⟨row, -, isShown⟩ := Checks.exists_of_mem_right shows member
    exact ⟨isShown.names_perm, isShown.cells_perm⟩
  · rintro invocation catalog report rfl reported
    rw [CommandLine.Invocation.report_of_accepted accepted] at reported
    split at reported
    · rename_i shown executed
      exact ⟨shown, executed, (Except.ok.inj reported).symm⟩
    · cases reported
    · cases reported

/-- The departments with the number of their averages, which is selected twice. -/
def Sample.repeated : Json :=
  .object [
    ("OPTIONS", .object [
      ("COLUMNS", .array [.text "averages", .text "courses_dept", .text "averages"])]),
    ("TRANSFORMATIONS", .object [
      ("APPLY", .array [.object [("averages", .object [("COUNT", .text "courses_avg")])]]),
      ("GROUP", .array [.text "courses_dept"])]),
    ("WHERE", .object [])]

/-- A column that is selected twice is in the header once, and all three rows have two names. -/
theorem repeated_labelled : ∃ plan shown,
    Plan.ofQuery (.ofList [Sample.dataset]) Sample.repeated = .ok plan ∧
      plan.options.header = ["averages", "courses_dept"] ∧ plan.execute 3 = .ok shown ∧
      shown.length = 3 ∧ ∀ row ∈ shown, row.names.Perm ["averages", "courses_dept"] := by
  obtain ⟨plan, accepted, seen⟩ : ∃ plan,
      Plan.ofQuery (.ofList [Sample.dataset]) Sample.repeated = .ok plan ∧
        (plan.options.header, (plan.execute 3).toOption.map List.length) =
          (["averages", "courses_dept"], some 3) :=
    Checks.exists_ok_of_seen (by decide +kernel)
  obtain ⟨header, length⟩ := Prod.mk.inj seen
  obtain ⟨shown, executed, three⟩ := Checks.exists_ok_of_seen length
  obtain ⟨-, -, -, labelled, -⟩ := answer_labelled accepted
  obtain ⟨rows, arranged, -, -, -, each⟩ := labelled 3 shown executed
  refine ⟨plan, shown, accepted, header, executed, three, ?_⟩
  intro row member
  exact header ▸ (each row member).1

end CampusQuery
