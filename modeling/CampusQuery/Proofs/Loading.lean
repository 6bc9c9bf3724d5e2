import CampusQuery.CommandLine.Session
import CampusQuery.Proofs.Sortable

/-!
# What is loaded is finite

A document has no spelling for an infinity or for what is not a number, and a number beyond
the finite values is not read at all. So every number of a dataset that a file holds is
finite, and a query over such datasets is answered with rows or refused with an error.
-/

namespace CampusQuery

/-- A number that is in range denotes a finite value. -/
theorem WrittenNumber.isFinite_of_numeral? {number : WrittenNumber} {numeral : Numeral}
    (read : number.numeral? = some numeral) : numeral.toBinary64.isFinite = true := by
  unfold numeral? at read
  dsimp only at read
  generalize (if number.negative = true then _ else _ : Int) = value at read
  split at read
  · rename_i whole
    obtain rfl := Option.some.inj read
    simp only [Bool.and_eq_true] at whole
    obtain ⟨⟨-, within⟩, -⟩ := whole
    rw [Numeral.holds, Bool.and_eq_true, decide_eq_true_eq, decide_eq_true_eq] at within
    rw [Numeral.toBinary64]
    apply Binary64.isFinite_ofInt
    have low : Nat.pow 2 63 ≤ 2 ^ 128 := by decide
    have high : Nat.pow 2 64 ≤ 2 ^ 128 := by decide
    omega
  · split at read
    · rename_i finite
      obtain rfl := Option.some.inj read
      rw [Numeral.toBinary64]
      exact finite
    · cases read

/-- So whatever number is read from a document is finite. -/
theorem Written.isFinite_of_real? {document : Written} {value : Binary64}
    (read : document.real? = some value) : (Value.number value).IsFinite := by
  unfold real? at read
  split at read
  · obtain ⟨numeral, held, rfl⟩ := Option.map_eq_some_iff.mp read
    exact WrittenNumber.isFinite_of_numeral? held
  · cases read

/-- A section that is read from a document has finite numbers in its fields. -/
theorem Section.isFinite_of_ofWritten? {document : Written} {values : Section}
    (read : ofWritten? document = some values) {field : Field} {value : Value}
    (held : values.value? field = some value) : value.IsFinite := by
  simp only [ofWritten?, Option.bind_eq_bind, Option.bind_eq_some_iff] at read
  obtain ⟨documents, -, read⟩ := read
  split at read
  · simp only [Option.pure_def, Option.bind_eq_some_iff, Option.some.injEq] at read
    obtain ⟨uuid, -, id, -, title, -, instructor, -, dept, -, year, yearRead, avg, avgRead,
      pass, passRead, fail, failRead, audit, auditRead, rfl⟩ := read
    cases field
    case year => exact Option.some.inj held ▸ Written.isFinite_of_real? yearRead
    case avg => exact Option.some.inj held ▸ Written.isFinite_of_real? avgRead
    case pass => exact Option.some.inj held ▸ Written.isFinite_of_real? passRead
    case fail => exact Option.some.inj held ▸ Written.isFinite_of_real? failRead
    case audit => exact Option.some.inj held ▸ Written.isFinite_of_real? auditRead
    -- The other fields hold texts, or are not those of sections.
    all_goals cases held <;> trivial
  · cases read

/-- And so does a room. -/
theorem Room.isFinite_of_ofWritten? {document : Written} {values : Room}
    (read : ofWritten? document = some values) {field : Field} {value : Value}
    (held : values.value? field = some value) : value.IsFinite := by
  simp only [ofWritten?, Option.bind_eq_bind, Option.bind_eq_some_iff] at read
  obtain ⟨documents, -, read⟩ := read
  split at read
  · simp only [Option.pure_def, Option.bind_eq_some_iff, Option.some.injEq] at read
    obtain ⟨fullname, -, shortname, -, number, -, name, -, address, -, lat, latRead, lon, lonRead,
      seats, seatsRead, type, -, furniture, -, href, -, rfl⟩ := read
    cases field
    case lat => exact Option.some.inj held ▸ Written.isFinite_of_real? latRead
    case lon => exact Option.some.inj held ▸ Written.isFinite_of_real? lonRead
    case seats => exact Option.some.inj held ▸ Written.isFinite_of_real? seatsRead
    all_goals cases held <;> trivial
  · cases read

/-- Each item of a list is read from some document. -/
theorem Written.exists_of_list? {α : Type} {item? : Written → Option α} {document : Written}
    {items : List α} (read : document.list? item? = some items) {item : α} (member : item ∈ items) :
    ∃ part, item? part = some item := by
  unfold list? at read
  split at read
  · obtain ⟨-, rfl⟩ := Checks.mapM_eq_some_iff.mp read
    obtain ⟨part, -, held⟩ := List.mem_filterMap.mp member
    exact ⟨part, held⟩
  · cases read

/-- Records that are read from a document have finite numbers in their fields. -/
theorem Records.isFinite_of_ofKind? {kind : Kind} {document : Written} {records : Records}
    (read : ofKind? kind document = some records) {record : Record}
    (member : record ∈ records.toList) {field : Field} {value : Value}
    (held : record.value? field = some value) : value.IsFinite := by
  cases kind with
  | sections =>
    obtain ⟨rows, listed, rfl⟩ := Option.map_eq_some_iff.mp read
    obtain ⟨values, inRows, rfl⟩ := List.mem_map.mp member
    obtain ⟨part, found⟩ := Written.exists_of_list? listed inRows
    exact Section.isFinite_of_ofWritten? found held
  | rooms =>
    obtain ⟨rows, listed, rfl⟩ := Option.map_eq_some_iff.mp read
    obtain ⟨values, inRows, rfl⟩ := List.mem_map.mp member
    obtain ⟨part, found⟩ := Written.exists_of_list? listed inRows
    exact Room.isFinite_of_ofWritten? found held

/-- The dataset that a source holds is finite. -/
theorem CommandLine.Source.isFinite_of_load {files : Files} {source : Source} {dataset : Dataset}
    (loaded : source.load files = .ok dataset) : dataset.IsFinite := by
  unfold load at loaded
  split at loaded
  · cases loaded
  · split at loaded
    · cases loaded
    · rename_i records decoded
      cases loaded
      simp only [decodeRecords?, Option.bind_eq_bind, Option.bind_eq_some_iff] at decoded
      obtain ⟨document, -, read⟩ := decoded
      intro record member field _ value held
      exact Records.isFinite_of_ofKind? read member held

/-- Over finite datasets every query is answered with rows or refused with an error. -/
theorem answer_or_refused {datasets : List Dataset}
    (finite : ∀ dataset ∈ datasets, dataset.IsFinite) (limit : Nat) (raw : Json) :
    (∃ rows, answer (.ofList datasets) limit raw = .ok rows) ∨
      ∃ cause, answer (.ofList datasets) limit raw = .error (.error cause) := by
  cases made : Plan.ofQuery (.ofList datasets) raw with
  | error fault => exact .inr ⟨.refused fault, by rw [answer, made]⟩
  | ok plan =>
    rcases answer_outcome made limit with answered | ⟨-, refused⟩ | ⟨unsortable, -⟩
    · exact .inl answered
    · exact .inr ⟨_, refused⟩
    · obtain ⟨members, -, spelled⟩ := Plan.ofQuery_eq_ok_iff.mp made
      have listed := List.mem_of_find?_eq_some spelled.found
      have numbers : Query.NumbersOnly plan.dataset raw :=
        Query.numbersOnly_of_isFinite (finite plan.dataset listed)
      exact absurd numbers unsortable.unplaced

end CampusQuery
