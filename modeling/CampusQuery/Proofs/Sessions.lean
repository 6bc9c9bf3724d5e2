import CampusQuery.Proofs.Loading
import CampusQuery.Proofs.Lookups

/-!
# A run answers as the library does

The program takes another way to an answer than a caller of the library: it registers its
sources in a catalog one after the other, and it makes the plan and carries it out itself,
to have the header from the plan in between. Neither changes the answer. Where all stages
of a run succeed it prints the report on the rows with which the query is answered over the
list of its datasets; otherwise it prints nothing but the first trouble, sources coming
first, one by one, then the text of the query, its form, and the answer.
-/

namespace CampusQuery

/-- Datasets that can be registered one after the other. -/
structure Registrable (datasets : List Dataset) : Prop where
  valid : ∀ dataset ∈ datasets, IsId dataset.id
  inhabited : ∀ dataset ∈ datasets, dataset.records.toList ≠ []
  distinct : (datasets.map Dataset.id).Nodup

/-- Why a dataset cannot be registered after others, by the first rule that applies. -/
inductive Refused (earlier : List Dataset) (dataset : Dataset) : CatalogError → Prop where
  | invalid (invalid : ¬ IsId dataset.id) : Refused earlier dataset (.invalidId dataset.id)
  | vacant (valid : IsId dataset.id) (vacant : dataset.records.toList = []) :
    Refused earlier dataset (.noRecords dataset.id)
  | duplicate (valid : IsId dataset.id) (inhabited : dataset.records.toList ≠ [])
      (repeated : dataset.id ∈ earlier.map Dataset.id) :
    Refused earlier dataset (.duplicateId dataset.id)

/-- An empty list of datasets can be registered. -/
theorem registrable_nil : Registrable [] := ⟨by simp, by simp, .nil⟩

/-- One more dataset can be registered after others unless it is refused. -/
theorem Registrable.append_singleton {earlier : List Dataset} (registrable : Registrable earlier)
    (dataset : Dataset) :
    Registrable (earlier ++ [dataset]) ∨ ∃ cause, Refused earlier dataset cause := by
  by_cases valid : IsId dataset.id
  · by_cases vacant : dataset.records.toList = []
    · exact .inr ⟨_, .vacant valid vacant⟩
    · by_cases repeated : dataset.id ∈ earlier.map Dataset.id
      · exact .inr ⟨_, .duplicate valid vacant repeated⟩
      · refine .inl ⟨?_, ?_, ?_⟩
        · simpa [or_imp, forall_and] using ⟨registrable.valid, valid⟩
        · simpa [or_imp, forall_and] using ⟨registrable.inhabited, vacant⟩
        · rw [List.map_append, List.map_singleton, List.nodup_append]
          refine ⟨registrable.distinct, List.pairwise_singleton _ _, ?_⟩
          rintro id present _ only rfl
          exact repeated (List.mem_singleton.mp only ▸ present)
  · exact .inr ⟨_, .invalid valid⟩

/-- A catalog with the earlier datasets does not take a dataset that is refused. -/
theorem Catalog.add_of_refused {catalog : Catalog} {earlier : List Dataset}
    (finds : catalog.snapshot.lookup.Finds earlier) {dataset : Dataset} {cause : CatalogError}
    (refused : Refused earlier dataset cause) : catalog.add dataset = .error cause := by
  have rule := catalog.adds dataset
  generalize catalog.add dataset = outcome at rule
  cases refused with
  | invalid invalid =>
    cases rule with
    | invalid => rfl
    | vacant valid | duplicate valid | added valid => exact absurd valid invalid
  | vacant valid vacant =>
    cases rule with
    | vacant => rfl
    | invalid invalid => exact absurd valid invalid
    | duplicate _ inhabited | added _ inhabited => exact absurd vacant inhabited
  | duplicate valid inhabited repeated =>
    cases rule with
    | duplicate => rfl
    | invalid invalid => exact absurd valid invalid
    | vacant _ vacant => exact absurd vacant inhabited
    | added _ _ free =>
      obtain ⟨other, member, named⟩ := List.mem_map.mp repeated
      have found : catalog.datasets.get? dataset.id = some other :=
        (finds dataset.id other).mpr ⟨member, named⟩
      rw [free] at found
      cases found

namespace CommandLine

/-- The sources hold the datasets, in their order, and all of these can be registered. -/
structure Loads (files : Files) (sources : List Source) (datasets : List Dataset) : Prop where
  loaded : List.Forall₂ (fun source dataset => source.load files = .ok dataset) sources datasets
  registrable : Registrable datasets

/-- Datasets that are loaded are finite. -/
theorem Loads.isFinite {files : Files} {sources : List Source} {datasets : List Dataset}
    (loads : Loads files sources datasets) : ∀ dataset ∈ datasets, dataset.IsFinite := by
  obtain ⟨loaded, -⟩ := loads
  induction loaded with
  | nil => exact List.forall_mem_nil _
  | cons first _ inductionHypothesis =>
    exact List.forall_mem_cons.mpr ⟨Source.isFinite_of_load first, inductionHypothesis⟩

/-- What is wrong with a source that follows those of earlier datasets. -/
inductive Source.Fails (files : Files) (earlier : List Dataset) (source : Source) :
    Trouble → Prop where
  | loading {trouble : Trouble} (failed : source.load files = .error trouble) :
    Fails files earlier source trouble
  | registering {dataset : Dataset} {cause : CatalogError}
      (loaded : source.load files = .ok dataset) (refused : Refused earlier dataset cause) :
    Fails files earlier source (.unregistered source cause)

/-- The query that a run is given. -/
def Invocation.Asks (invocation : Invocation) (files : Files) (input : Option String)
    (query : Json) : Prop :=
  ∃ text, invocation.queryText files input = .ok text ∧ Json.read? text = some query

/-- A run that succeeds: its sources hold datasets that can be registered, it is given a
query, and the query is answered with rows over the list of the datasets. -/
structure Invocation.Succeeds (invocation : Invocation) (files : Files) (input : Option String)
    (query : Json) (rows : List ResultRow) : Prop where
  asks : invocation.Asks files input query
  answered : ∃ datasets, Loads files invocation.sources datasets ∧
    answer (.ofList datasets) invocation.limit query = .ok rows

/-- The first trouble of a run. All sources before a source that fails are loaded and
registered, and all sources are before there is trouble with the query. -/
inductive Invocation.Meets (invocation : Invocation) (files : Files) (input : Option String) :
    Trouble → Prop where
  | source {before after : List Source} {source : Source} {datasets : List Dataset}
      {trouble : Trouble} (sequence : invocation.sources = before ++ source :: after)
      (loads : Loads files before datasets) (fails : source.Fails files datasets trouble) :
    Meets invocation files input trouble
  | reading {datasets : List Dataset} {trouble : Trouble}
      (loads : Loads files invocation.sources datasets)
      (unread : invocation.queryText files input = .error trouble) :
    Meets invocation files input trouble
  | parsing {datasets : List Dataset} {text : String}
      (loads : Loads files invocation.sources datasets)
      (read : invocation.queryText files input = .ok text) (malformed : Json.read? text = none) :
    Meets invocation files input .queryNotJson
  | answering {datasets : List Dataset} {query : Json} {cause : QueryError}
      (loads : Loads files invocation.sources datasets)
      (asks : invocation.Asks files input query)
      (refused : answer (.ofList datasets) invocation.limit query = .error (.error cause)) :
    Meets invocation files input (.unanswered cause)

namespace Source

/-- Registering what sources hold is registering their datasets. -/
theorem foldlM_register {files : Files} {sources : List Source} {datasets : List Dataset}
    (loaded : List.Forall₂ (fun source dataset => source.load files = .ok dataset) sources datasets)
    {catalog final : Catalog} (added : datasets.foldlM Catalog.add catalog = .ok final) :
    sources.foldlM (register files) catalog = .ok final := by
  induction loaded generalizing catalog with
  | nil =>
    rw [List.foldlM_nil, Checks.pure_eq_ok] at added ⊢
    exact added
  | cons first _ inductionHypothesis =>
    rw [List.foldlM_cons, Checks.bind_eq_ok] at added
    obtain ⟨next, taken, others⟩ := added
    rw [List.foldlM_cons, register, first, Checks.ok_bind, taken]
    exact inductionHypothesis others

/-- Sources that load are all registered, and the catalog then finds their datasets. -/
theorem foldlM_of_loads {files : Files} {sources : List Source} {datasets : List Dataset}
    (loads : Loads files sources datasets) :
    ∃ catalog, sources.foldlM (register files) .empty = .ok catalog ∧
      catalog.snapshot.lookup.Finds datasets := by
  obtain ⟨valid, inhabited, distinct⟩ := loads.registrable
  obtain ⟨catalog, added, finds⟩ := Catalog.ofList_finds distinct valid inhabited
  exact ⟨catalog, foldlM_register loads.loaded added, finds⟩

/-- Loading stops at a source that fails after others that do not. -/
theorem foldlM_of_fails {files : Files} {before after : List Source} {source : Source}
    {datasets : List Dataset} (loads : Loads files before datasets) {trouble : Trouble}
    (fails : source.Fails files datasets trouble) :
    (before ++ source :: after).foldlM (register files) .empty = .error trouble := by
  obtain ⟨catalog, registered, finds⟩ := foldlM_of_loads loads
  have stops : source.register files catalog = .error trouble := by
    cases fails with
    | loading failed =>
      rw [register, failed]
      rfl
    | registering loaded refused =>
      rw [register, loaded, Checks.ok_bind, Catalog.add_of_refused finds refused]
      rfl
  rw [List.foldlM_append, registered, Checks.ok_bind, List.foldlM_cons, stops]
  rfl

/-- Either all sources load, or there is a first one that fails. -/
theorem loads_or_fails (files : Files) (sources : List Source) :
    (∃ datasets, Loads files sources datasets) ∨
      ∃ before source after datasets trouble, sources = before ++ source :: after ∧
        Loads files before datasets ∧ source.Fails files datasets trouble := by
  induction sources using List.reverseRecOn with
  | nil => exact .inl ⟨[], .nil, registrable_nil⟩
  | append_singleton sources source inductionHypothesis =>
    rcases inductionHypothesis with
      ⟨datasets, loads⟩ | ⟨before, first, after, datasets, trouble, rfl, loads, fails⟩
    · cases held : source.load files with
      | error trouble =>
        exact .inr ⟨sources, source, [], datasets, trouble, rfl, loads, .loading held⟩
      | ok dataset =>
        rcases loads.registrable.append_singleton dataset with registrable | ⟨cause, refused⟩
        · exact .inl ⟨datasets ++ [dataset],
            List.rel_append loads.loaded (.cons held .nil), registrable⟩
        · exact .inr ⟨sources, source, [], datasets, _, rfl, loads, .registering held refused⟩
    · refine .inr ⟨before, first, after ++ [source], datasets, trouble, ?_, loads, fails⟩
      rw [List.append_assoc, List.cons_append]

end Source

namespace Invocation

variable {invocation : Invocation} {files : Files} {input : Option String}

/-- The report on an accepted query is that on the rows of its plan, under the header of the
plan. -/
theorem report_of_accepted {catalog : Catalog} {query : Json} {plan : Plan}
    (accepted : Plan.ofQuery catalog.snapshot.lookup query = .ok plan) :
    invocation.report catalog query =
      match plan.execute invocation.limit with
      | .ok rows => .ok (Report.render invocation.format plan.options.header rows)
      | .error (.error cause) => .error (.unanswered cause)
      | .error (.defect cause) => .error (.defect cause) := by
  rw [report, accepted]
  dsimp only
  rw [pure_bind]
  cases plan.execute invocation.limit with
  | ok rows => rfl
  | error failure => cases failure <;> rfl

/-- The report on a query is that on its answer over the datasets that the catalog finds. -/
theorem report_eq {catalog : Catalog} {datasets : List Dataset}
    (finds : catalog.snapshot.lookup.Finds datasets) (registrable : Registrable datasets)
    (query : Json) :
    invocation.report catalog query =
      match answer (.ofList datasets) invocation.limit query with
      | .ok rows =>
        .ok (Report.render invocation.format (Query.columns query).eraseDups rows)
      | .error (.error cause) => .error (.unanswered cause)
      | .error (.defect cause) => .error (.defect cause) := by
  have sameLookup : catalog.snapshot.lookup = .ofList datasets :=
    finds.eq (Lookup.ofList_finds registrable.distinct) (.refl datasets)
  rw [answer, ← sameLookup]
  cases made : Plan.ofQuery catalog.snapshot.lookup query with
  | error fault =>
    rw [report, made]
    rfl
  | ok plan =>
    obtain ⟨members, rfl, spelled⟩ := Plan.ofQuery_eq_ok_iff.mp made
    rw [report_of_accepted made, spelled.columns_eq]
    rfl

/-- A run that succeeds prints the report on the rows of the answer. -/
theorem Succeeds.run_eq {query : Json} {rows : List ResultRow}
    (succeeds : invocation.Succeeds files input query rows) :
    invocation.run files input =
      .ok (Report.render invocation.format (Query.columns query).eraseDups rows) := by
  obtain ⟨⟨text, read, parsed⟩, datasets, loads, answered⟩ := succeeds
  obtain ⟨catalog, registered, finds⟩ := Source.foldlM_of_loads loads
  rw [run, load, registered, Checks.ok_bind, read, Checks.ok_bind, reportText, parsed]
  simp only [report_eq finds loads.registrable, answered]

/-- The first trouble of a run is what ends it. -/
theorem Meets.run_eq {trouble : Trouble} (meets : invocation.Meets files input trouble) :
    invocation.run files input = .error trouble := by
  cases meets with
  | source sequence loads fails =>
    rw [run, load, sequence, Source.foldlM_of_fails loads fails]
    rfl
  | reading loads unread =>
    obtain ⟨catalog, registered, -⟩ := Source.foldlM_of_loads loads
    rw [run, load, registered, Checks.ok_bind, unread]
    rfl
  | parsing loads read malformed =>
    obtain ⟨catalog, registered, -⟩ := Source.foldlM_of_loads loads
    rw [run, load, registered, Checks.ok_bind, read, Checks.ok_bind, reportText, malformed]
  | answering loads asks refused =>
    obtain ⟨text, read, parsed⟩ := asks
    obtain ⟨catalog, registered, finds⟩ := Source.foldlM_of_loads loads
    rw [run, load, registered, Checks.ok_bind, read, Checks.ok_bind, reportText, parsed]
    simp only [report_eq finds loads.registrable, refused]

/-- A run that does not come to read its input does not depend on it. -/
theorem run_eq_of_not_asksInput (unasked : invocation.asksInput files = false)
    (other : Option String) : invocation.run files input = invocation.run files other := by
  rw [run, run]
  cases loaded : invocation.load files with
  | error trouble => rfl
  | ok catalog =>
    cases given : invocation.query with
    | none => simp [asksInput, loaded, given, Except.toOption] at unasked
    | some path =>
      simp only [Checks.ok_bind, queryText, given]

/-- Every run succeeds or meets a first trouble. -/
theorem succeeds_or_meets (invocation : Invocation) (files : Files) (input : Option String) :
    (∃ query rows, invocation.Succeeds files input query rows) ∨
      ∃ trouble, invocation.Meets files input trouble := by
  rcases Source.loads_or_fails files invocation.sources with
    ⟨datasets, loads⟩ | ⟨before, source, after, datasets, trouble, sequence, loads, fails⟩
  · cases read : invocation.queryText files input with
    | error trouble => exact .inr ⟨trouble, .reading loads read⟩
    | ok text =>
      cases parsed : Json.read? text with
      | none => exact .inr ⟨.queryNotJson, .parsing loads read parsed⟩
      | some query =>
        rcases answer_or_refused loads.isFinite invocation.limit query with
          ⟨rows, answered⟩ | ⟨cause, refused⟩
        · exact .inl ⟨query, rows, ⟨text, read, parsed⟩, datasets, loads, answered⟩
        · exact .inr ⟨_, .answering loads ⟨text, read, parsed⟩ refused⟩
  · exact .inr ⟨trouble, .source sequence loads fails⟩

end Invocation

/-- With arguments that describe a run, the program exits with zero exactly if the run
succeeds: all sources are loaded and registered, the query can be read and is JSON, and it
is answered over the list of the datasets. It then prints the report on these rows, under
the columns of the query, each once. Otherwise it exits with one and prints nothing but the
first trouble. -/
theorem outcome_answers {arguments : List String} {invocation : Invocation}
    (described : request? arguments = some (.run invocation)) (files : Files)
    (input : Option String) :
    let result := outcome arguments files input
    (result.exit = 0 ↔ ∃ query rows, invocation.Succeeds files input query rows) ∧
    (∀ query rows, invocation.Succeeds files input query rows →
      result.stdout =
        Report.render invocation.format (Query.columns query).eraseDups rows ++ "\n") ∧
    (result.exit ≠ 0 → ∃ trouble, invocation.Meets files input trouble) ∧
    ∀ trouble, invocation.Meets files input trouble →
      result = ⟨1, "", "Error: " ++ trouble.message ++ "\n"⟩ := by
  have ran : outcome arguments files input = .ofRun (invocation.run files input) := by
    rw [outcome, described]
  have succeeded {query : Json} {rows : List ResultRow}
      (succeeds : invocation.Succeeds files input query rows) :
      outcome arguments files input =
        ⟨0, Report.render invocation.format (Query.columns query).eraseDups rows ++ "\n", ""⟩ := by
    rw [ran, succeeds.run_eq, Outcome.ofRun]
  have failed {trouble : Trouble} (meets : invocation.Meets files input trouble) :
      outcome arguments files input = ⟨1, "", "Error: " ++ trouble.message ++ "\n"⟩ := by
    rw [ran, meets.run_eq, Outcome.ofRun]
  intro result
  refine ⟨⟨fun exits => ?_, ?_⟩, ?_, fun exits => ?_, fun trouble => failed⟩
  · rcases invocation.succeeds_or_meets files input with succeeds | ⟨trouble, meets⟩
    · exact succeeds
    · have one : result.exit = 1 := congrArg Outcome.exit (failed meets)
      omega
  · rintro ⟨query, rows, succeeds⟩
    exact congrArg Outcome.exit (succeeded succeeds)
  · intro query rows succeeds
    exact congrArg Outcome.stdout (succeeded succeeds)
  · rcases invocation.succeeds_or_meets files input with ⟨query, rows, succeeds⟩ | meets
    · exact absurd (congrArg Outcome.exit (succeeded succeeds)) exits
    · exact meets

/-- A file with one room. -/
def sampleFiles : Files := fun path =>
  if path = "rooms.json" then some
    "[\x7b\"fullname\": \"dempster\", \"shortname\": \"DMP\", \"number\": \"110\",
      \"name\": \"DMP_110\", \"address\": \"main mall\", \"lat\": 49, \"lon\": -123,
      \"seats\": 120, \"type\": \"tiered\", \"furniture\": \"fixed\", \"href\": \"dmp\"\x7d]"
  else none

/-- The seats of all buildings, with one column given twice. -/
def sampleInput : String :=
  "\x7b\"WHERE\": \x7b\x7d, \"OPTIONS\": \x7b\"COLUMNS\":
    [\"ubc_seats\", \"ubc_shortname\", \"ubc_seats\"]\x7d\x7d"

/-- The arguments of a run with the rooms as a source, given a number of times. -/
def sampleArguments (times : Nat) : List String :=
  "--format=csv" :: List.replicate times "--dataset=ubc=rooms:rooms.json"

/-- The seats are printed as the library answers them, and rooms that are given twice
cannot be registered again. -/
theorem seats_printed :
    (∃ invocation query rows,
      request? (sampleArguments 1) = some (.run invocation) ∧
      invocation.Succeeds sampleFiles (some sampleInput) query rows ∧
      (outcome (sampleArguments 1) sampleFiles (some sampleInput)).stdout =
        Report.render invocation.format (Query.columns query).eraseDups rows ++ "\n") ∧
    ∃ invocation trouble,
      request? (sampleArguments 2) = some (.run invocation) ∧
      invocation.Meets sampleFiles (some sampleInput) trouble ∧
      outcome (sampleArguments 2) sampleFiles (some sampleInput) =
        ⟨1, "", "Error: " ++ trouble.message ++ "\n"⟩ := by
  have described (times : Nat) (given : times = 1 ∨ times = 2) :
      request? (sampleArguments times) = some (.run ⟨List.replicate times
        ⟨"ubc", .rooms, "rooms.json"⟩, none, .csv, 5000, false⟩) := by
    rcases given with rfl | rfl <;> decide +kernel
  constructor
  · have succeeded : (outcome (sampleArguments 1) sampleFiles (some sampleInput)).exit = 0 := by
      decide +kernel
    obtain ⟨exits, prints, -⟩ :=
      outcome_answers (described 1 (.inl rfl)) sampleFiles (some sampleInput)
    obtain ⟨query, rows, succeeds⟩ := exits.mp succeeded
    exact ⟨_, query, rows, described 1 (.inl rfl), succeeds, prints query rows succeeds⟩
  · have failed : (outcome (sampleArguments 2) sampleFiles (some sampleInput)).exit ≠ 0 := by
      decide +kernel
    obtain ⟨-, -, troubled, printed⟩ :=
      outcome_answers (described 2 (.inr rfl)) sampleFiles (some sampleInput)
    obtain ⟨trouble, meets⟩ := troubled failed
    exact ⟨_, trouble, described 2 (.inr rfl), meets, printed trouble meets⟩

end CommandLine

end CampusQuery
