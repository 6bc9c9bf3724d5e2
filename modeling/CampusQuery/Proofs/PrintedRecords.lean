import CampusQuery.Proofs.CsvReading
import CampusQuery.Proofs.Sessions

/-!
# The records of a printed report

A report in comma-separated values ends each of its records itself, and the program ends what it
prints with one more line feed. By the grammar the line between the two is a record of one empty
field. So what is printed is read as the header, a record for each row, and this record, which no
row of the answer stands for; without the last line feed it is read as the header and the rows
alone.
-/

namespace CampusQuery

namespace Report.Csv

/-- A text is read as a header with as many records below it as are counted, each with as many
fields as the header. -/
def Tallies (text : String) (header : List String) (count : Nat) : Prop :=
  ∃ records, readOpen? text = some (header :: records) ∧ records.length = count ∧
    ∀ record ∈ records, record.length = header.length

/-- A report tallies with its rows. -/
theorem tallies_csv {columns : List String} (nonempty : columns ≠ []) (rows : List (NameMap Json)) :
    Tallies (csv columns rows) columns rows.length := by
  refine ⟨rows.map fun row => columns.map (cellText row), ?_, List.length_map _, ?_⟩
  · exact readOpen?_of_read? (read?_csv nonempty rows)
  · intro record member
    obtain ⟨row, -, rfl⟩ := List.mem_map.mp member
    exact List.length_map _

/-- With one more line end it is read with one more record. -/
theorem readOpen?_csv_lineEnd {columns : List String} (nonempty : columns ≠ [])
    (rows : List (NameMap Json)) :
    readOpen? (csv columns rows ++ "\n") = some (texts columns rows ++ [[""]]) := by
  have writes := (writesDocument_records nonempty rows).append writesDocument_lineEnd
  have read := readOpen?_of_read? (read?_of_writes writes)
  rw [List.map_append, records_texts, String.ofList_append] at read
  exact read

/-- It then tallies with no number of rows but one more than it has. -/
theorem Tallies.eq_succ {columns : List String} (nonempty : columns ≠ [])
    {rows : List (NameMap Json)} {count : Nat}
    (tallies : Tallies (csv columns rows ++ "\n") columns count) : count = rows.length + 1 := by
  obtain ⟨records, read, rfl, -⟩ := tallies
  rw [readOpen?_csv_lineEnd nonempty, texts, List.cons_append] at read
  obtain rfl := (List.cons.inj (Option.some.inj read)).2
  simp

end Report.Csv

/-- A query that is answered has a column. -/
theorem columns_ne_nil_of_answer {lookup : Lookup} {limit : Nat} {raw : Json}
    {rows : List ResultRow} (answered : answer lookup limit raw = .ok rows) :
    (Query.columns raw).eraseDups ≠ [] := by
  unfold answer at answered
  cases made : Plan.ofQuery lookup raw with
  | error fault => simp [made] at answered
  | ok plan =>
    obtain ⟨members, rfl, spelled⟩ := Plan.ofQuery_eq_ok_iff.mp made
    obtain ⟨given, -, optionsSpelled⟩ := spelled.options
    obtain ⟨column, others, columns⟩ := List.exists_cons_of_ne_nil optionsSpelled.selected
    rw [spelled.columns_eq, Options.labels, columns]
    simp [List.eraseDups_cons]

namespace CommandLine

/-- A run that exits with zero succeeds, and what it prints is the report with a line end. -/
theorem exists_succeeds {arguments : List String} {invocation : Invocation}
    (described : request? arguments = some (.run invocation)) {files : Files}
    {input : Option String} (exits : (outcome arguments files input).exit = 0) :
    ∃ query rows, invocation.Succeeds files input query rows ∧
      (outcome arguments files input).stdout =
        Report.render invocation.format (Query.columns query).eraseDups rows ++ "\n" := by
  have ran : outcome arguments files input = .ofRun (invocation.run files input) := by
    rw [outcome, described]
  rw [ran] at exits ⊢
  rcases invocation.succeeds_or_meets files input with ⟨query, rows, succeeds⟩ | ⟨trouble, meets⟩
  · exact ⟨query, rows, succeeds, by rw [succeeds.run_eq, Outcome.ofRun]⟩
  · rw [meets.run_eq, Outcome.ofRun] at exits
    cases exits

/-- What a run with comma-separated values prints never tallies with its rows: it is read as the
header, a record for each row, and a record of one empty field. Without its last line end it
tallies. -/
theorem outcome_tallies {arguments : List String} {invocation : Invocation}
    (described : request? arguments = some (.run invocation))
    (separated : invocation.format = .csv) {files : Files} {input : Option String}
    (exits : (outcome arguments files input).exit = 0) :
    ∃ query rows, invocation.Succeeds files input query rows ∧
      let header := (Query.columns query).eraseDups
      ¬ Report.Csv.Tallies (outcome arguments files input).stdout header rows.length ∧
      Report.Csv.readOpen? (outcome arguments files input).stdout =
        some (Report.Csv.texts header rows ++ [[""]]) ∧
      ∃ report, (outcome arguments files input).stdout = report ++ "\n" ∧
        Report.Csv.Tallies report header rows.length := by
  obtain ⟨query, rows, succeeds, printed⟩ := exists_succeeds described exits
  obtain ⟨datasets, -, answered⟩ := succeeds.answered
  have someColumn := columns_ne_nil_of_answer answered
  rw [separated, Report.render] at printed
  rw [printed]
  refine ⟨query, rows, succeeds, ?_, Report.Csv.readOpen?_csv_lineEnd someColumn rows, _, rfl,
    Report.Csv.tallies_csv someColumn rows⟩
  intro tallies
  have more := tallies.eq_succ someColumn
  omega

/-- The sample arguments describe a run with comma-separated values. -/
theorem sample_described : ∃ invocation,
    request? (sampleArguments 1) = some (.run invocation) ∧ invocation.format = .csv :=
  ⟨⟨[⟨"ubc", .rooms, "rooms.json"⟩], none, .csv, 5000, false⟩, by decide +kernel, rfl⟩

/-- The seats of the sample are printed with an empty line below them. -/
theorem sample_printed : outcome (sampleArguments 1) sampleFiles (some sampleInput) =
    ⟨0, "ubc_seats,ubc_shortname\n120,DMP\n\n", ""⟩ := by
  decide +kernel

/-- The report on one room is read with two records below its header, the second of them with one
field instead of two. -/
theorem empty_record_printed : ∃ invocation query rows,
    request? (sampleArguments 1) = some (.run invocation) ∧ invocation.format = .csv ∧
      (outcome (sampleArguments 1) sampleFiles (some sampleInput)).exit = 0 ∧
      invocation.Succeeds sampleFiles (some sampleInput) query rows ∧
      ¬ Report.Csv.Tallies (outcome (sampleArguments 1) sampleFiles (some sampleInput)).stdout
        (Query.columns query).eraseDups rows.length ∧
      Report.Csv.readOpen? (outcome (sampleArguments 1) sampleFiles (some sampleInput)).stdout =
        some [["ubc_seats", "ubc_shortname"], ["120", "DMP"], [""]] := by
  obtain ⟨invocation, described, separated⟩ := sample_described
  have exits : (outcome (sampleArguments 1) sampleFiles (some sampleInput)).exit = 0 := by
    rw [sample_printed]
  obtain ⟨query, rows, succeeds, printed⟩ := exists_succeeds described exits
  obtain ⟨datasets, -, answered⟩ := succeeds.answered
  refine ⟨invocation, query, rows, described, separated, exits, succeeds, ?_, ?_⟩
  · rw [printed, separated, Report.render]
    intro tallies
    have more := tallies.eq_succ (columns_ne_nil_of_answer answered)
    omega
  · rw [sample_printed]
    decide +kernel

/-- The report on the room tallies without the last line end of what is printed. -/
theorem sample_tallies : ∃ invocation query rows,
    request? (sampleArguments 1) = some (.run invocation) ∧
      invocation.Succeeds sampleFiles (some sampleInput) query rows ∧
      Report.Csv.Tallies "ubc_seats,ubc_shortname\n120,DMP\n" (Query.columns query).eraseDups
        rows.length := by
  obtain ⟨invocation, described, separated⟩ := sample_described
  have exits : (outcome (sampleArguments 1) sampleFiles (some sampleInput)).exit = 0 := by
    rw [sample_printed]
  obtain ⟨query, rows, succeeds, -, -, report, printed, tallies⟩ :=
    outcome_tallies described separated exits
  rw [sample_printed] at printed
  have same : report = "ubc_seats,ubc_shortname\n120,DMP\n" :=
    (String.append_left_inj "\n").mp printed.symm
  exact ⟨invocation, query, rows, described, succeeds, same ▸ tallies⟩

end CommandLine

end CampusQuery
