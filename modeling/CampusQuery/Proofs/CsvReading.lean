import CampusQuery.Report.Csv

/-!
# Reading comma-separated values

The written form of comma-separated values is given here as a grammar, apart from the functions
that write a report: fields between commas, each as it is or in quotes with every quote in it
doubled, and records that each end with a line feed. A line that holds nothing is a record of one
empty field. The reader takes a text character by character and knows no more of it than the
place in the field where it stands. It reads the texts of the grammar and no others, and a report
is such a text whatever its cells hold, so the cells can be read back.
-/

namespace CampusQuery.Report

namespace Csv

/-- A field as it may be written: as it is if no character of it is special, or in quotes. -/
inductive WritesField : List Char → List Char → Prop where
  | plain {text : List Char} (plain : ∀ character ∈ text, isSpecial character = false) :
    WritesField text text
  | quoted (text : List Char) :
    WritesField ('"' :: (text.flatMap quotedCharacter ++ ['"'])) text

/-- A record as it may be written: one field at least, and commas between fields. -/
inductive WritesRecord : List Char → List (List Char) → Prop where
  | last {written field : List Char} (last : WritesField written field) :
    WritesRecord written [field]
  | cons {written field others : List Char} {fields : List (List Char)}
      (first : WritesField written field) (rest : WritesRecord others fields) :
    WritesRecord (written ++ ',' :: others) (field :: fields)

/-- Records as they may be written, each with its line end. -/
inductive WritesDocument : List Char → List (List (List Char)) → Prop where
  | nil : WritesDocument [] []
  | cons {written others : List Char} {fields : List (List Char)}
      {records : List (List (List Char))} (first : WritesRecord written fields)
      (rest : WritesDocument others records) :
    WritesDocument (written ++ '\n' :: others) (fields :: records)

/-- Where a reader stands in a field. -/
inductive Place where
  /-- Before its first character. -/
  | start
  /-- Behind a character of a field without quotes. -/
  | bare
  /-- Inside the quotes. -/
  | quoted
  /-- Behind a quote inside the quotes: the closing one, or the first of two. -/
  | closing
deriving DecidableEq

/-- What a reader has read of a text: the records that have ended, the fields that have ended
since, and the text of the field in which it stands. -/
structure Reading where
  records : List (List String)
  fields : List String
  text : List Char
  place : Place
deriving DecidableEq

namespace Reading

/-- Nothing is read yet. -/
def start : Reading := ⟨[], [], [], .start⟩

/-- The field ends. -/
def endField (reading : Reading) : Reading :=
  ⟨reading.records, reading.fields ++ [String.ofList reading.text], [], .start⟩

/-- The field and its record end. -/
def endRecord (reading : Reading) : Reading :=
  ⟨reading.records ++ [reading.endField.fields], [], [], .start⟩

/-- A character is added to the field. -/
def add (reading : Reading) (character : Char) (place : Place) : Reading :=
  { reading with text := reading.text ++ [character], place }

/-- Reads a character. Quotes open only at the start of a field, a carriage return stands only
inside them, and behind the closing quote the field ends. -/
def step (reading : Reading) (character : Char) : Option Reading :=
  if reading.place = .quoted then
    if character = '"' then some { reading with place := .closing }
    else some (reading.add character .quoted)
  else if character = ',' then some reading.endField
  else if character = '\n' then some reading.endRecord
  else if character = '"' then
    match reading.place with
    | .start => some { reading with place := .quoted }
    | .closing => some (reading.add '"' .quoted)
    | _ => none
  else if character = '\r' ∨ reading.place = .closing then none
  else some (reading.add character .bare)

/-- Reads characters one after the other. -/
def run (reading : Reading) (text : List Char) : Option Reading := text.foldlM step reading

end Reading

/-- The records of a text in which each record ends with a line feed. -/
def read? (text : String) : Option (List (List String)) := do
  let reading ← Reading.start.run text.toList
  if reading.place = .start ∧ reading.fields = [] then some reading.records else none

/-- The records of a text in which the last line feed may be missing. -/
def readOpen? (text : String) : Option (List (List String)) := do
  let reading ← Reading.start.run text.toList
  if reading.place = .start ∧ reading.fields = [] then some reading.records
  else if reading.place = .quoted then none
  else some reading.endRecord.records

namespace Reading

/-- Reading a text and then another is reading both. -/
theorem run_append (reading : Reading) (left right : List Char) :
    reading.run (left ++ right) = (reading.run left).bind (run · right) :=
  List.foldlM_append

/-- Reading begins with the first character. -/
theorem run_cons (reading : Reading) (character : Char) (rest : List Char) :
    reading.run (character :: rest) = (reading.step character).bind (run · rest) :=
  List.foldlM_cons

/-- Outside quotes a comma ends the field. -/
theorem step_comma {reading : Reading} (outside : reading.place ≠ .quoted) :
    reading.step ',' = some reading.endField := by
  rw [step, if_neg outside, if_pos rfl]

/-- Outside quotes a line feed ends the record. -/
theorem step_lineEnd {reading : Reading} (outside : reading.place ≠ .quoted) :
    reading.step '\n' = some reading.endRecord := by
  rw [step, if_neg outside, if_neg (by decide), if_pos rfl]

variable (records : List (List String)) (fields : List String)

/-- Inside quotes a text with its quotes doubled is read as that text. -/
theorem run_quoted (before text : List Char) :
    run ⟨records, fields, before, .quoted⟩ (text.flatMap quotedCharacter) =
      some ⟨records, fields, before ++ text, .quoted⟩ := by
  induction text generalizing before with
  | nil => simp [run]
  | cons character rest inductionHypothesis =>
    have single : run ⟨records, fields, before, .quoted⟩ (quotedCharacter character) =
        some ⟨records, fields, before ++ [character], .quoted⟩ := by
      by_cases quote : character = '"'
      · subst quote
        rfl
      · simp [quotedCharacter, quote, run, step, add]
    rw [List.flatMap_cons, run_append, single, Option.bind_some, inductionHypothesis,
      List.append_assoc, List.singleton_append]

/-- Characters that are not special are read as they are, without quotes. -/
theorem run_plain {text : List Char} (plain : ∀ character ∈ text, isSpecial character = false)
    (before : List Char) {place : Place} (unquoted : place = .start ∨ place = .bare) :
    ∃ after, (after = .start ∨ after = .bare) ∧
      run ⟨records, fields, before, place⟩ text =
        some ⟨records, fields, before ++ text, after⟩ := by
  induction text generalizing before place with
  | nil => exact ⟨place, unquoted, by simp [run]⟩
  | cons character rest inductionHypothesis =>
    obtain ⟨ordinary, others⟩ := List.forall_mem_cons.mp plain
    simp only [isSpecial, Bool.or_eq_false_iff, decide_eq_false_iff_not] at ordinary
    obtain ⟨⟨⟨comma, quote⟩, lineEnd⟩, carriageReturn⟩ := ordinary
    have single : step ⟨records, fields, before, place⟩ character =
        some ⟨records, fields, before ++ [character], .bare⟩ := by
      rcases unquoted with rfl | rfl <;>
        simp [step, add, comma, quote, lineEnd, carriageReturn]
    obtain ⟨after, unquotedAfter, read⟩ :=
      inductionHypothesis others (before ++ [character]) (.inr rfl)
    refine ⟨after, unquotedAfter, ?_⟩
    rw [run_cons, single, Option.bind_some, read, List.append_assoc, List.singleton_append]

/-- A written field is read as its text, and the reader is then outside quotes. -/
theorem run_field {written field : List Char} (writes : WritesField written field) :
    ∃ place, place ≠ .quoted ∧
      run ⟨records, fields, [], .start⟩ written = some ⟨records, fields, field, place⟩ := by
  cases writes with
  | plain plain =>
    obtain ⟨place, unquoted, read⟩ := run_plain records fields plain [] (.inl rfl)
    refine ⟨place, ?_, read⟩
    rcases unquoted with rfl | rfl <;> decide
  | quoted =>
    refine ⟨.closing, by decide, ?_⟩
    have opened : step ⟨records, fields, [], .start⟩ '"' =
        some ⟨records, fields, [], .quoted⟩ := rfl
    rw [run_cons, opened, Option.bind_some, run_append, run_quoted, Option.bind_some]
    rfl

/-- A written record with its line end is read as its fields. -/
theorem run_record {written : List Char} {others : List (List Char)}
    (writes : WritesRecord written others) :
    run ⟨records, fields, [], .start⟩ (written ++ ['\n']) =
      some ⟨records ++ [fields ++ others.map String.ofList], [], [], .start⟩ := by
  induction writes generalizing fields with
  | last last =>
    obtain ⟨place, outside, read⟩ := run_field records fields last
    rw [run_append, read, Option.bind_some, run_cons, step_lineEnd outside]
    rfl
  | cons first _ inductionHypothesis =>
    obtain ⟨place, outside, read⟩ := run_field records fields first
    rw [List.append_assoc, List.cons_append, run_append, read, Option.bind_some, run_cons,
      step_comma outside, Option.bind_some, endField, inductionHypothesis]
    simp

/-- A written document is read as its records. -/
theorem run_document {written : List Char} {others : List (List (List Char))}
    (writes : WritesDocument written others) :
    run ⟨records, [], [], .start⟩ written =
      some ⟨records ++ others.map (List.map String.ofList), [], [], .start⟩ := by
  induction writes generalizing records with
  | nil => simp [run]
  | cons first _ inductionHypothesis =>
    rw [← List.singleton_append, ← List.append_assoc, run_append, run_record records [] first,
      Option.bind_some, inductionHypothesis]
    simp

end Reading

/-- A reader that asks for the last line end is satisfied with less where it may be missing. -/
theorem readOpen?_of_read? {text : String} {records : List (List String)}
    (read : read? text = some records) : readOpen? text = some records := by
  simp only [read?, readOpen?, Option.bind_eq_bind, Option.bind_eq_some_iff] at read ⊢
  obtain ⟨reading, ran, ended⟩ := read
  refine ⟨reading, ran, ?_⟩
  split at ended
  · rename_i finished
    rw [if_pos finished, ended]
  · cases ended

/-- Every text of the grammar is read as the records that it writes. -/
theorem read?_of_writes {written : List Char} {records : List (List (List Char))}
    (writes : WritesDocument written records) :
    read? (String.ofList written) = some (records.map (List.map String.ofList)) := by
  rw [read?, String.toList_ofList, Reading.start, Reading.run_document [] writes]
  rfl

/-- What is written behind a document is written by the grammar if it is a document. -/
theorem WritesDocument.append {written others : List Char}
    {records otherRecords : List (List (List Char))} (writes : WritesDocument written records)
    (writesOthers : WritesDocument others otherRecords) :
    WritesDocument (written ++ others) (records ++ otherRecords) := by
  induction writes with
  | nil => exact writesOthers
  | cons first _ inductionHypothesis =>
    rw [List.append_assoc, List.cons_append, List.cons_append]
    exact .cons first inductionHypothesis

/-- A line that holds nothing is a record of one empty field. -/
theorem writesDocument_lineEnd : WritesDocument ['\n'] [[[]]] := by
  have blank : WritesField [] [] := .plain (by simp)
  have writes : WritesDocument ([] ++ ['\n']) [[[]]] := .cons (.last blank) .nil
  exact writes

/-- Fields that each have a comma behind them. -/
inductive WritesFront : List Char → List (List Char) → Prop where
  | nil : WritesFront [] []
  | append {front written field : List Char} {fields : List (List Char)}
      (before : WritesFront front fields) (writes : WritesField written field) :
    WritesFront (front ++ (written ++ [','])) (fields ++ [field])

/-- Without fields there is no text of them. -/
theorem WritesFront.eq_nil {front : List Char} {fields : List (List Char)}
    (before : WritesFront front fields) (none : fields = []) : front = [] := by
  cases before with
  | nil => rfl
  | append => simp at none

/-- A record behind such fields is one record with them. -/
theorem WritesFront.append_record {front written : List Char} {fields others : List (List Char)}
    (before : WritesFront front fields) (writes : WritesRecord written others) :
    WritesRecord (front ++ written) (fields ++ others) := by
  induction before generalizing written others with
  | nil => exact writes
  | append _ field inductionHypothesis =>
    rw [List.append_assoc, List.append_assoc, List.append_assoc, List.singleton_append]
    exact inductionHypothesis (.cons field writes)

/-- The part of a written field that is read at a place, with the text of the part. -/
inductive WritesPart : Place → List Char → List Char → Prop where
  | start : WritesPart .start [] []
  | bare {text : List Char} (plain : ∀ character ∈ text, isSpecial character = false) :
    WritesPart .bare text text
  | quoted (text : List Char) : WritesPart .quoted ('"' :: text.flatMap quotedCharacter) text
  | closing (text : List Char) :
    WritesPart .closing ('"' :: (text.flatMap quotedCharacter ++ ['"'])) text

/-- Outside quotes a part is a field. -/
theorem WritesPart.writesField {place : Place} {part text : List Char}
    (writes : WritesPart place part text) (outside : place ≠ .quoted) : WritesField part text := by
  cases writes with
  | start => exact .plain (by simp)
  | bare plain => exact .plain plain
  | quoted => exact absurd rfl outside
  | closing => exact .quoted text

/-- A quote opens a field that has not begun. -/
theorem WritesPart.open_quotes {part text : List Char} (writes : WritesPart .start part text) :
    WritesPart .quoted (part ++ ['"']) text := by
  cases writes
  exact .quoted []

/-- A quote inside the quotes closes them. -/
theorem WritesPart.close_quotes {part text : List Char} (writes : WritesPart .quoted part text) :
    WritesPart .closing (part ++ ['"']) text := by
  cases writes
  exact .closing text

/-- Any other character there is one of the field. -/
theorem WritesPart.append_quoted {part text : List Char} (writes : WritesPart .quoted part text)
    {character : Char} (noQuote : character ≠ '"') :
    WritesPart .quoted (part ++ [character]) (text ++ [character]) := by
  cases writes
  have same : '"' :: (text ++ [character]).flatMap quotedCharacter =
      '"' :: text.flatMap quotedCharacter ++ [character] := by
    simp [quotedCharacter, noQuote]
  rw [← same]
  exact .quoted (text ++ [character])

/-- A second quote behind the closing one makes both of them a quote of the field. -/
theorem WritesPart.double_quote {part text : List Char} (writes : WritesPart .closing part text) :
    WritesPart .quoted (part ++ ['"']) (text ++ ['"']) := by
  cases writes
  have same : '"' :: (text ++ ['"']).flatMap quotedCharacter =
      '"' :: (text.flatMap quotedCharacter ++ ['"']) ++ ['"'] := by
    simp [quotedCharacter]
  rw [← same]
  exact .quoted (text ++ ['"'])

/-- A character that is no special one may go on with a field that has no quotes. -/
theorem WritesPart.append_plain {place : Place} {part text : List Char}
    (writes : WritesPart place part text) (unquoted : place = .start ∨ place = .bare)
    {character : Char} (plain : isSpecial character = false) :
    WritesPart .bare (part ++ [character]) (text ++ [character]) := by
  have last : ∀ other ∈ [character], isSpecial other = false := by simpa using plain
  cases writes with
  | start => exact .bare last
  | bare before =>
    refine .bare fun other member => ?_
    rcases List.mem_append.mp member with earlier | new
    · exact before other earlier
    · exact last other new
  | quoted | closing => simp at unquoted

/-- What a reader has read: records, fields of another record, and a part of another field. -/
def Reading.Covers (reading : Reading) (read : List Char) : Prop :=
  ∃ document front part records fields, read = document ++ (front ++ part) ∧
    WritesDocument document records ∧ reading.records = records.map (List.map String.ofList) ∧
    WritesFront front fields ∧ reading.fields = fields.map String.ofList ∧
    WritesPart reading.place part reading.text

/-- At a comma the fields that were read are one more. -/
theorem Reading.Covers.endField {reading : Reading} {read : List Char}
    (covers : reading.Covers read) (outside : reading.place ≠ .quoted) :
    reading.endField.Covers (read ++ [',']) := by
  obtain ⟨document, front, part, records, fields, rfl, wholeRecords, sameRecords, wholeFields,
    sameFields, writes⟩ := covers
  refine ⟨document, front ++ (part ++ [',']), [], records, fields ++ [reading.text], ?_,
    wholeRecords, sameRecords, .append wholeFields (writes.writesField outside), ?_, .start⟩
  · simp
  · simp [Reading.endField, sameFields]

/-- At a line feed the records that were read are one more. -/
theorem Reading.Covers.endRecord {reading : Reading} {read : List Char}
    (covers : reading.Covers read) (outside : reading.place ≠ .quoted) :
    reading.endRecord.Covers (read ++ ['\n']) := by
  obtain ⟨document, front, part, records, fields, rfl, wholeRecords, sameRecords, wholeFields,
    sameFields, writes⟩ := covers
  have record := wholeFields.append_record (.last (writes.writesField outside))
  refine ⟨document ++ ((front ++ part) ++ '\n' :: []), [], [],
    records ++ [fields ++ [reading.text]], [], ?_,
    wholeRecords.append (.cons record .nil), ?_, .nil, rfl, .start⟩
  · simp
  · simp [Reading.endRecord, Reading.endField, sameRecords, sameFields]

/-- The next character of a text goes on with what has been read of it. -/
theorem Reading.Covers.step {reading next : Reading} {read : List Char} {character : Char}
    (covers : reading.Covers read) (stepped : reading.step character = some next) :
    next.Covers (read ++ [character]) := by
  obtain ⟨readRecords, readFields, text, place⟩ := reading
  have parts := covers
  obtain ⟨document, front, part, records, fields, sameRead, wholeRecords, sameRecords, wholeFields,
    sameFields, writes⟩ := parts
  have goesOn {after : Place} {grown : List Char}
      (extended : WritesPart after (part ++ [character]) grown) :
      Reading.Covers ⟨readRecords, readFields, grown, after⟩ (read ++ [character]) := by
    refine ⟨document, front, part ++ [character], records, fields, ?_, wholeRecords, sameRecords,
      wholeFields, sameFields, extended⟩
    rw [sameRead, List.append_assoc, List.append_assoc]
  dsimp only at writes
  unfold Reading.step at stepped
  dsimp only at stepped
  split at stepped
  · rename_i inside
    subst inside
    split at stepped
    · rename_i quote
      subst quote
      exact Option.some.inj stepped ▸ goesOn writes.close_quotes
    · rename_i noQuote
      exact Option.some.inj stepped ▸ goesOn (writes.append_quoted noQuote)
  · rename_i outside
    split at stepped
    · rename_i comma
      subst comma
      exact Option.some.inj stepped ▸ covers.endField outside
    split at stepped
    · rename_i lineEnd
      subst lineEnd
      exact Option.some.inj stepped ▸ covers.endRecord outside
    split at stepped
    · rename_i quote
      subst quote
      split at stepped
      · exact Option.some.inj stepped ▸ goesOn writes.open_quotes
      · exact Option.some.inj stepped ▸ goesOn writes.double_quote
      · cases stepped
    · rename_i comma lineEnd quote
      split at stepped
      · cases stepped
      · rename_i others
        obtain ⟨carriageReturn, notClosing⟩ := not_or.mp others
        have plain : isSpecial character = false := by
          simp [isSpecial, comma, lineEnd, quote, carriageReturn]
        have unquoted : place = .start ∨ place = .bare := by
          cases place <;> simp at outside notClosing ⊢
        exact Option.some.inj stepped ▸ goesOn (writes.append_plain unquoted plain)

/-- So does the whole rest of a text. -/
theorem Reading.Covers.run {reading final : Reading} {read text : List Char}
    (covers : reading.Covers read) (ran : reading.run text = some final) :
    final.Covers (read ++ text) := by
  induction text generalizing reading read with
  | nil =>
    obtain rfl := Option.some.inj ran
    rw [List.append_nil]
    exact covers
  | cons character rest inductionHypothesis =>
    rw [run_cons, Option.bind_eq_some_iff] at ran
    obtain ⟨next, stepped, restRan⟩ := ran
    have covered := inductionHypothesis (covers.step stepped) restRan
    rw [List.append_assoc, List.singleton_append] at covered
    exact covered

/-- At the start nothing has been read. -/
theorem Reading.covers_start : start.Covers [] :=
  ⟨[], [], [], [], [], rfl, .nil, rfl, .nil, rfl, .start⟩

/-- A text is read exactly if it is one of the grammar, and as the records that it writes. -/
theorem read?_eq_some_iff {text : String} {records : List (List String)} :
    read? text = some records ↔
      ∃ fields, WritesDocument text.toList fields ∧
        records = fields.map (List.map String.ofList) := by
  constructor
  · intro read
    simp only [read?, Option.bind_eq_bind, Option.bind_eq_some_iff] at read
    obtain ⟨⟨readRecords, readFields, rest, place⟩, ran, ended⟩ := read
    obtain ⟨document, front, part, whole, fields, covered, wholeRecords, sameRecords, wholeFields,
      sameFields, writes⟩ := Reading.covers_start.run ran
    dsimp only at ended sameRecords sameFields writes
    split at ended
    · rename_i finished
      obtain ⟨rfl, rfl⟩ := finished
      obtain rfl := Option.some.inj ended
      cases writes
      have nothing := wholeFields.eq_nil (List.map_eq_nil_iff.mp sameFields.symm)
      rw [nothing, List.append_nil, List.append_nil, List.nil_append] at covered
      exact ⟨whole, covered ▸ wholeRecords, sameRecords⟩
    · cases ended
  · rintro ⟨fields, writes, rfl⟩
    have read := read?_of_writes writes
    rw [String.ofList_toList] at read
    exact read

/-- A quote inside a field without quotes and a field whose quotes are not closed are not read. -/
example : read? "a\"b\n" = none ∧ readOpen? "\"a\n" = none := by decide +kernel

/-- A field is written by the grammar. -/
theorem writesField_field (text : List Char) : WritesField (field text) text := by
  unfold field
  split
  · exact .quoted text
  · rename_i plain
    refine .plain fun character member => ?_
    rw [Bool.eq_false_iff]
    exact fun special => plain (List.any_eq_true.mpr ⟨character, member, special⟩)

/-- So is a record that has a field. -/
theorem writesRecord_record {fields : List (List Char)} (nonempty : fields ≠ []) :
    WritesRecord (record fields) fields := by
  induction fields with
  | nil => exact absurd rfl nonempty
  | cons first rest inductionHypothesis =>
    cases rest with
    | nil => exact .last (by simpa [record] using writesField_field first)
    | cons second others =>
      have tail := inductionHypothesis (List.cons_ne_nil second others)
      have split : record (first :: second :: others) =
          field first ++ ',' :: record (second :: others) := by
        simp [record, List.intercalate]
      rw [split]
      exact .cons (writesField_field first) tail

/-- So are records that each have a field. -/
theorem writesDocument_document {records : List (List (List Char))}
    (each : ∀ fields ∈ records, fields ≠ []) : WritesDocument (document records) records := by
  induction records with
  | nil => exact .nil
  | cons fields rest inductionHypothesis =>
    obtain ⟨first, others⟩ := List.forall_mem_cons.mp each
    have split : document (fields :: rest) = record fields ++ '\n' :: document rest := by
      simp [document]
    rw [split]
    exact .cons (writesRecord_record first) (inductionHypothesis others)

/-- The text that a row has under a column: none where it has no value or null there, a text
itself, and JSON without white space for anything else. -/
def cellText (row : NameMap Json) (column : String) : String :=
  match row.get? column with
  | none => ""
  | some .null => ""
  | some (.text value) => value
  | some other => other.toText

/-- The names of the columns and then, row by row, the texts of the cells under them. -/
def texts (columns : List String) (rows : List (NameMap Json)) : List (List String) :=
  columns :: rows.map fun row => columns.map (cellText row)

/-- A cell is written with its text. -/
theorem ofList_cell (row : NameMap Json) (column : String) :
    String.ofList (cell ((row.get? column).getD .null)) = cellText row column := by
  unfold cellText
  cases row.get? column with
  | none => rfl
  | some value =>
    cases value with
    | text value => exact String.ofList_toList
    | _ => rfl

/-- The records of a report have the texts of its cells. -/
theorem records_texts (columns : List String) (rows : List (NameMap Json)) :
    (records columns rows).map (List.map String.ofList) = texts columns rows := by
  have header : (columns.map String.toList).map String.ofList = columns := by
    rw [List.map_map]
    exact List.map_id'' (fun _ => String.ofList_toList) columns
  rw [records, List.map_cons, header, texts, List.map_map]
  refine congrArg (columns :: ·) (List.map_congr_left fun row _ => ?_)
  rw [Function.comp_apply, List.map_map]
  exact List.map_congr_left fun column _ => ofList_cell row column

/-- A report with a column is written by the grammar, record by record. -/
theorem writesDocument_records {columns : List String} (nonempty : columns ≠ [])
    (rows : List (NameMap Json)) :
    WritesDocument (document (records columns rows)) (records columns rows) := by
  apply writesDocument_document
  intro fields member
  rcases List.mem_cons.mp member with rfl | inRows
  · simpa using nonempty
  · obtain ⟨row, -, rfl⟩ := List.mem_map.mp inRows
    simpa using nonempty

end Csv

variable {columns : List String}

/-- A report with a column is read back as its header and the texts of its cells. -/
theorem read?_csv (nonempty : columns ≠ []) (rows : List (NameMap Json)) :
    Csv.read? (csv columns rows) = some (Csv.texts columns rows) := by
  rw [csv, Csv.read?_of_writes (Csv.writesDocument_records nonempty rows), Csv.records_texts]

/-- A report with a column is read back as the record of the columns and a record for each row, in
their order, with the text of the row under each column. So two reports are written alike only if
they have the same columns and the same texts in their cells. -/
theorem csv_readable (nonempty : columns ≠ []) (rows : List (NameMap Json)) :
    Csv.read? (csv columns rows) =
      some (columns :: rows.map fun row => columns.map (Csv.cellText row)) ∧
    ∀ others otherRows, others ≠ [] → csv columns rows = csv others otherRows →
      columns = others ∧
        (rows.map fun row => columns.map (Csv.cellText row)) =
          otherRows.map fun row => others.map (Csv.cellText row) := by
  refine ⟨read?_csv nonempty rows, ?_⟩
  intro others otherRows otherNonempty same
  have read := read?_csv nonempty rows
  rw [same, read?_csv otherNonempty otherRows] at read
  exact List.cons.inj (Option.some.inj read.symm)

/-- A name with a comma, an empty name, a cell with quotes and line ends, and cells that are null
or missing. -/
theorem quotes_readable :
    Csv.read? (csv ["name, given", ""] [
      .ofList [("", .null), ("name, given", .text "say \"hi\"\r\n")],
      .ofList [("name, given", .number (.integer 120))]]) =
        some [["name, given", ""], ["say \"hi\"\r\n", ""], ["120", ""]] := by
  rw [(csv_readable (by decide) _).1]
  decide +kernel

end CampusQuery.Report
