import CampusQuery.CommandLine.Session
import CampusQuery.Proofs.Forms
import CampusQuery.Proofs.Overflow
import CampusQuery.Proofs.Records
import CampusQuery.Proofs.Sources

/-!
# Reading datasets that were written

A section or a room of finite values is read back from every form of its document, and so is a
list of them, in a file or in a dataset. The one thing that can stand in the way is what nobody
looks at: where the list stands before its kind, it is kept as a value in the meantime, and a member
that was added to one of the records may be no value that a reader holds. Then nothing is read;
another dataset never is.
-/

namespace CampusQuery

/-- The names of the parts of records of a kind. -/
def Kind.parts : Kind → List String
  | .sections => Section.parts
  | .rooms => Room.parts

/-- No two parts of a record have one name. -/
theorem Kind.parts_nodup (kind : Kind) : kind.parts.Nodup := by
  cases kind <;> decide

namespace Record

/-- No field of a record holds a number that is not finite. -/
def IsFinite (record : Record) : Prop :=
  ∀ field ∈ Field.all, ∀ value ∈ record.value? field, value.IsFinite

/-- A record as a document of its kind. -/
def toJson : Record → Json
  | ofSection values => values.toJson
  | ofRoom values => values.toJson

/-- The parts of a record. -/
def cells : Record → List Json
  | ofSection values => [.text values.uuid, .text values.id, .text values.title,
      .text values.instructor, .text values.dept, .ofReal values.year, .ofReal values.avg,
      .ofReal values.pass, .ofReal values.fail, .ofReal values.audit]
  | ofRoom values => [.text values.fullname, .text values.shortname, .text values.number,
      .text values.name, .text values.address, .ofReal values.lat, .ofReal values.lon,
      .ofReal values.seats, .text values.type, .text values.furniture, .text values.href]

/-- This is the object of its parts under their names. -/
theorem toJson_eq (record : Record) :
    record.toJson = .ofMembers (record.kind.parts.zip record.cells) := by
  cases record <;> rfl

/-- There are as many parts as names. -/
theorem length_cells (record : Record) : record.kind.parts.length = record.cells.length := by
  cases record <;> rfl

/-- The parts of a record of finite values can be written. -/
theorem isPlain_cells {record : Record} (finite : record.IsFinite) :
    ∀ cell ∈ record.cells, cell.IsPlain := by
  cases record with
  | ofSection values =>
    have year := Json.isPlain_ofReal (finite .year (by decide) _ rfl)
    have avg := Json.isPlain_ofReal (finite .avg (by decide) _ rfl)
    have pass := Json.isPlain_ofReal (finite .pass (by decide) _ rfl)
    have fail := Json.isPlain_ofReal (finite .fail (by decide) _ rfl)
    have audit := Json.isPlain_ofReal (finite .audit (by decide) _ rfl)
    simp only [cells, List.forall_mem_cons]
    exact ⟨trivial, trivial, trivial, trivial, trivial, year, avg, pass, fail, audit,
      List.forall_mem_nil _⟩
  | ofRoom values =>
    have lat := Json.isPlain_ofReal (finite .lat (by decide) _ rfl)
    have lon := Json.isPlain_ofReal (finite .lon (by decide) _ rfl)
    have seats := Json.isPlain_ofReal (finite .seats (by decide) _ rfl)
    simp only [cells, List.forall_mem_cons]
    exact ⟨trivial, trivial, trivial, trivial, trivial, lat, lon, seats, trivial, trivial, trivial,
      List.forall_mem_nil _⟩

/-- The parts of a record of finite values make a row. -/
theorem isRow {record : Record} (finite : record.IsFinite) :
    IsRow record.kind.parts record.cells where
  sameLength := record.length_cells
  distinct := record.kind.parts_nodup
  plain := isPlain_cells finite

/-- The parts of a record are read from every form of it. -/
theorem parts?_document {record : Record} (finite : record.IsFinite) {form : Json}
    (extended : form.Extends record.toJson) :
    form.document.parts? record.kind.parts = some (record.cells.map Json.document) :=
  (isRow finite).parts?_document (record.toJson_eq ▸ extended)

end Record

/-- A section of finite values is read back from every form of it. -/
theorem Section.ofWritten?_document {values : Section} (finite : (Record.ofSection values).IsFinite)
    {form : Json} (extended : form.Extends values.toJson) :
    ofWritten? form.document = some values := by
  have year := Written.real?_document (finite .year (by decide) _ rfl)
  have avg := Written.real?_document (finite .avg (by decide) _ rfl)
  have pass := Written.real?_document (finite .pass (by decide) _ rfl)
  have fail := Written.real?_document (finite .fail (by decide) _ rfl)
  have audit := Written.real?_document (finite .audit (by decide) _ rfl)
  have read : form.document.parts? parts = _ := Record.parts?_document finite extended
  rw [ofWritten?, read]
  simp only [Record.cells, List.map_cons, List.map_nil, Option.bind_eq_bind, Option.bind_some,
    Option.pure_def, Written.text?_document, year, avg, pass, fail, audit]

/-- A room of finite values is read back from every form of it. -/
theorem Room.ofWritten?_document {values : Room} (finite : (Record.ofRoom values).IsFinite)
    {form : Json} (extended : form.Extends values.toJson) :
    ofWritten? form.document = some values := by
  have lat := Written.real?_document (finite .lat (by decide) _ rfl)
  have lon := Written.real?_document (finite .lon (by decide) _ rfl)
  have seats := Written.real?_document (finite .seats (by decide) _ rfl)
  have read : form.document.parts? parts = _ := Record.parts?_document finite extended
  rw [ofWritten?, read]
  simp only [Record.cells, List.map_cons, List.map_nil, Option.bind_eq_bind, Option.bind_some,
    Option.pure_def, Written.text?_document, lat, lon, seats]

/-- A kind is read back from its label. -/
theorem Kind.ofWritten?_document (kind : Kind) : ofWritten? kind.toJson.document = some kind := by
  have label : kind.toJson.document.label? = some kind.label := Written.value?_pieces kind.label
  rw [ofWritten?, label]
  exact ofLabel?_eq_some_iff.mpr rfl

namespace Records

/-- The array of the records. -/
def listing (records : Records) : Json := .array (records.toList.map Record.toJson)

/-- Records are written as their kind and the array of their documents. -/
theorem toJson_eq (records : Records) :
    records.toJson = .ofMembers [("kind", records.kind.toJson), ("records", records.listing)] := by
  cases records with
  | sections rows => simp [toJson, listing, toList, Record.toJson, Function.comp_def]
  | rooms rows => simp [toJson, listing, toList, Record.toJson, Function.comp_def]

/-- The kind is written before the records. -/
theorem toJson_eq_object (records : Records) :
    records.toJson = .object [("kind", records.kind.toJson), ("records", records.listing)] := by
  have ordered : "kind" < "records" := by decide
  rw [toJson_eq, Json.ofMembers, Json.ofMap,
    NameMap.entries_ofList (List.pairwise_pair.mpr ordered)]

/-- Records wait for their kind if they come first among the two. -/
theorem waitForKind_cons (name : String) (document : Written) (rest : List (String × Written)) :
    waitForKind ((name, document) :: rest) = true ↔
      name = "records" ∨ name ≠ "kind" ∧ waitForKind rest = true := by
  rw [waitForKind]
  simp

/-- The records wait for their kind exactly when it is not among the members before them. -/
theorem waitForKind_iff {members : List (String × Json)} :
    waitForKind (members.map fun member => (member.1, member.2.document)) = true ↔
      ∃ front list back, members = front ++ ("records", list) :: back ∧
        "kind" ∉ front.map Prod.fst := by
  induction members with
  | nil => simp [waitForKind]
  | cons first rest inductionHypothesis =>
    obtain ⟨name, item⟩ := first
    rw [List.map_cons, waitForKind_cons, inductionHypothesis]
    constructor
    · rintro (rfl | ⟨other, front, list, back, rfl, noKind⟩)
      · exact ⟨[], item, rest, rfl, List.not_mem_nil⟩
      · exact ⟨(name, item) :: front, list, back, rfl, by simpa [Ne.symm other] using noKind⟩
    · rintro ⟨front, list, back, split, noKind⟩
      cases front with
      | nil => exact .inl (Prod.ext_iff.mp (List.cons.inj split).1).1
      | cons before front =>
        obtain ⟨rfl, rfl⟩ := List.cons.inj split
        rw [List.map_cons, List.mem_cons, not_or] at noKind
        exact .inr ⟨Ne.symm noKind.1, front, list, back, rfl, noKind.2⟩

/-- A member of one of the records, which stand in a list before their kind. -/
def Waits (form : Json) (name : String) (value : Json) : Prop :=
  ∃ front items back members, form = .object (front ++ ("records", .array items) :: back) ∧
    "kind" ∉ front.map Prod.fst ∧ .object members ∈ items ∧ (name, value) ∈ members

section

variable {records : Records} (finite : ∀ record ∈ records.toList, record.IsFinite)
include finite

/-- A form of their array has forms of the records. -/
theorem exists_forms {list : Json} (extended : list.Extends records.listing) :
    ∃ forms, list = .array forms ∧ List.Forall₂ (fun form record =>
      form.Extends (Record.toJson record) ∧ record.IsFinite) forms records.toList := by
  obtain ⟨forms, rfl, each⟩ := extended.exists_items
  rw [List.forall₂_map_right_iff] at each
  exact ⟨forms, rfl, Checks.forall₂_and_right each finite⟩

/-- The records are read from every form of their array. -/
theorem ofKind?_document {list : Json} (extended : list.Extends records.listing) :
    ofKind? records.kind list.document = some records := by
  obtain ⟨forms, rfl, each⟩ := exists_forms finite extended
  cases records with
  | sections rows =>
    rw [toList, List.forall₂_map_right_iff] at each
    have read := Written.list?_document (each.imp fun _ _ ⟨extended, finite⟩ =>
      Section.ofWritten?_document finite extended)
    rw [kind, ofKind?, read, Option.map_some]
  | rooms rows =>
    rw [toList, List.forall₂_map_right_iff] at each
    have read := Written.list?_document (each.imp fun _ _ ⟨extended, finite⟩ =>
      Room.ofWritten?_document finite extended)
    rw [kind, ofKind?, read, Option.map_some]

/-- A reader holds a form of the array exactly when it holds what is added to the records. -/
theorem fits_iff {list : Json} (extended : list.Extends records.listing) {room : Nat} :
    list.Fits (room + 2) ↔ ∀ items, list = .array items → ∀ members, .object members ∈ items →
      ∀ member ∈ members, member.1 ∉ records.kind.parts → member.2.Fits room := by
  obtain ⟨forms, rfl, each⟩ := exists_forms finite extended
  have held : ∀ form ∈ forms, form.Fits (room + 1) ↔ ∀ members, form = .object members →
      ∀ member ∈ members, member.1 ∉ records.kind.parts → member.2.Fits room := by
    intro form listed
    obtain ⟨record, inRecords, extended, finite⟩ := Checks.exists_of_mem_left each listed
    rw [← Records.kind_of_mem inRecords]
    exact (Record.isRow finite).fits_iff (record.toJson_eq ▸ extended)
  rw [Json.fits_array_iff]
  constructor
  · rintro fits _ ⟨⟩ members listed
    exact (held _ listed).mp (fits _ listed) members rfl
  · intro added form listed
    rw [held form listed]
    rintro members rfl
    exact added forms rfl members listed

/-- Records are read from a form of them, unless they wait for their kind and something is added to
them that no reader holds. -/
theorem ofWritten?_document {form : Json} (extended : form.Extends records.toJson)
    {other : Records} :
    ofWritten? form.document = some other ↔ other = records ∧ ∀ name value,
      Waits form name value → name ∉ records.kind.parts → value.Fits (Json.deepest - 4) := by
  rw [toJson_eq] at extended
  obtain ⟨members, rfl, stands⟩ := extended.exists_members (by simp)
  obtain ⟨kind, kindFound, kindExtended⟩ := stands "kind" _ List.mem_cons_self
  obtain ⟨list, listFound, listExtended⟩ :=
    stands "records" _ (List.mem_cons_of_mem _ List.mem_cons_self)
  have plain : records.kind.toJson.IsPlain := trivial
  obtain rfl := plain.eq_of_extends kindExtended
  have only : ∀ front other back, members = front ++ ("records", other) :: back →
      other = list := by
    rintro front other back rfl
    exact Json.eq_of_filter listFound (List.mem_append_right front List.mem_cons_self)
  have read : ofWritten? (Json.object members).document =
      if waitForKind (members.map fun member => (member.1, member.2.document)) &&
        (list.document.value? waitingRoom).isNone then none else some records := by
    rw [Json.document_object, ofWritten?, Written.named?_document]
    simp only [Option.bind_eq_bind, Option.bind_some, Written.only?_document kindFound,
      Written.only?_document listFound, Kind.ofWritten?_document,
      ofKind?_document finite listExtended]
  have fits : (list.document.value? waitingRoom).isSome = true ↔ _ :=
    Json.value?_document_isSome_iff.trans (fits_iff finite listExtended)
  have verdict (waits : Bool) (held : Option Json) :
      (if waits && held.isNone then none else some records) = some other ↔
        other = records ∧ (waits = true → held.isSome = true) := by
    cases waits <;> cases held <;> simp [eq_comm]
  rw [read, verdict, waitForKind_iff, fits]
  refine and_congr_right fun _ => ?_
  constructor
  · rintro held name value ⟨front, items, back, record, split, noKind, listed, member⟩ unknown
    obtain split := Json.object.inj split
    obtain rfl := only front _ back split
    exact held ⟨front, _, back, split, noKind⟩ items rfl record listed _ member unknown
  · rintro each ⟨front, other, back, split, noKind⟩ items rfl record listed member inRecord unknown
    obtain rfl := only front other back split
    exact each _ _ ⟨front, items, back, record, congrArg _ split, noKind, listed, inRecord⟩ unknown

end

end Records

namespace Json

/-- Arrays in one another, with as many levels below the first. -/
def nested : Nat → Json
  | 0 => .array []
  | levels + 1 => .array [nested levels]

/-- Nested arrays fit if there is room for all levels. -/
theorem fits_nested_iff {levels room : Nat} : (nested levels).Fits room ↔ levels < room := by
  induction levels generalizing room with
  | zero =>
    cases room with
    | zero => exact iff_of_false nofun (Nat.lt_irrefl 0)
    | succ room => exact iff_of_true (.array (List.forall_mem_nil _)) (Nat.succ_pos room)
  | succ levels inductionHypothesis =>
    cases room with
    | zero => exact iff_of_false nofun (Nat.not_lt_zero _)
    | succ room =>
      rw [nested, fits_array_iff, List.forall_mem_singleton, inductionHypothesis,
        Nat.succ_lt_succ_iff]

end Json

namespace Dataset

/-- A member of one of the records of a dataset, which stand in a list before their kind. -/
def Waits (form : Json) (name : String) (value : Json) : Prop :=
  ∃ members records, form = .object members ∧ ("records", records) ∈ members ∧
    Records.Waits records name value

/-- A dataset is read from a form of it, unless its records wait for their kind and something is
added to them that no reader holds. -/
theorem ofWritten?_document {dataset : Dataset} (finite : dataset.IsFinite) {form : Json}
    (extended : form.Extends dataset.toJson) {other : Dataset} :
    ofWritten? form.document = some other ↔ other = dataset ∧ ∀ name value,
      Waits form name value → name ∉ dataset.kind.parts → value.Fits (Json.deepest - 4) := by
  obtain ⟨members, rfl, stands⟩ := extended.exists_members (by simp)
  obtain ⟨id, idFound, idExtended⟩ := stands "id" _ List.mem_cons_self
  obtain ⟨records, recordsFound, recordsExtended⟩ :=
    stands "records" _ (List.mem_cons_of_mem _ List.mem_cons_self)
  have plain : (Json.text dataset.id).IsPlain := trivial
  obtain rfl := plain.eq_of_extends idExtended
  have parts : (Json.object members).document.parts? ["id", "records"] =
      some [(Json.text dataset.id).document, records.document] := by
    rw [Json.document_object, Written.parts?, Written.named?_document]
    simp [Written.only?_document idFound, Written.only?_document recordsFound]
  have read : ofWritten? (Json.object members).document =
      (Records.ofWritten? records.document).map (⟨dataset.id, ·⟩) := by
    rw [ofWritten?, parts]
    simp [Written.text?_document, Option.map_eq_bind]
  have same : (⟨dataset.id, dataset.records⟩ : Dataset) = other ↔ other = dataset := eq_comm
  rw [read, Option.map_eq_some_iff]
  simp only [Records.ofWritten?_document finite recordsExtended, and_assoc, exists_eq_left, same]
  rw [and_comm]
  refine and_congr_right fun _ => ?_
  constructor
  · rintro held name value ⟨others, inner, same, listed, waits⟩ unknown
    obtain rfl := Json.object.inj same
    obtain rfl := Json.eq_of_filter recordsFound listed
    exact held name value waits unknown
  · intro held name value waits unknown
    have listed : ("records", records) ∈ members :=
      List.mem_of_mem_filter (recordsFound ▸ List.mem_singleton_self _)
    exact held name value ⟨members, records, rfl, listed, waits⟩ unknown

/-- A dataset is written with its identifier before its records. -/
theorem toJson_eq_object (dataset : Dataset) :
    dataset.toJson = .object [("id", .text dataset.id), ("records", dataset.records.toJson)] := by
  have ordered : "id" < "records" := by decide
  rw [toJson, Json.ofMembers, Json.ofMap, NameMap.entries_ofList (List.pairwise_pair.mpr ordered)]

/-- The records of a dataset do not wait where it is written by itself. -/
theorem not_waits_toJson (dataset : Dataset) {name : String} {value : Json} :
    ¬Waits dataset.toJson name value := by
  rintro ⟨members, records, same, listed, front, items, back, record, split, noKind, -⟩
  rw [toJson_eq_object] at same
  obtain rfl := Json.object.inj same
  have written : records = dataset.records.toJson := by simpa using listed
  rw [written, Records.toJson_eq_object] at split
  cases front with
  | nil => simp at split
  | cons first others =>
    obtain ⟨kindFirst, -⟩ := List.cons.inj (Json.object.inj split)
    simp [← kindFirst] at noKind

/-- The dataset that a text is read as. -/
def read? (text : String) : Option Dataset := (Written.read? text.toList).bind ofWritten?

variable {dataset : Dataset} {name : String} {value : Json}

/-- Either text of a form is read as the dataset, or else as nothing. -/
theorem read?_eq_some_iff (finite : dataset.IsFinite) {form : Json}
    (extended : form.Extends dataset.toJson) {text : String}
    (written : text ∈ [form.toText, form.toLines]) {other : Dataset} :
    read? text = some other ↔ other = dataset ∧ ∀ name value,
      Waits form name value → name ∉ dataset.kind.parts → value.Fits (Json.deepest - 4) := by
  rw [read?, Json.read?_document written, Option.bind_some]
  exact ofWritten?_document finite extended

/-- The members of a record with one more in front. -/
def annotatedRecord (name : String) (value : Json) (record : Record) : List (String × Json) :=
  (name, value) :: (NameMap.ofList (record.kind.parts.zip record.cells)).entries

/-- The form of a dataset in which a member is added to each of the records, and the list of them
stands before their kind. -/
def annotated (dataset : Dataset) (name : String) (value : Json) : Json :=
  .object [
    ("records", .object [
      ("records", .array (dataset.records.toList.map (.object ∘ annotatedRecord name value))),
      ("kind", dataset.kind.toJson)]),
    ("id", .text dataset.id)]

/-- All of its records wait. -/
theorem waits_annotated_iff {other : String} {inner : Json} :
    Waits (dataset.annotated name value) other inner ↔
      ∃ record ∈ dataset.records.toList, (other, inner) ∈ annotatedRecord name value record := by
  constructor
  · rintro ⟨members, records, same, listed, front, items, back, record, split, noKind, inItems,
      member⟩
    obtain rfl := Json.object.inj same
    obtain rfl := Json.eq_of_filter rfl listed
    have inside : ("records", Json.array items) ∈ front ++ ("records", .array items) :: back :=
      List.mem_append_right front List.mem_cons_self
    rw [← Json.object.inj split] at inside
    obtain rfl := Json.array.inj (Json.eq_of_filter rfl inside)
    obtain ⟨origin, inRecords, same⟩ := List.mem_map.mp inItems
    exact ⟨origin, inRecords, Json.object.inj same ▸ member⟩
  · rintro ⟨record, listed, member⟩
    exact ⟨_, _, rfl, List.mem_cons_self, [], _, _, _, rfl, List.not_mem_nil,
      List.mem_map_of_mem listed, member⟩

/-- The names in a record are the parts of its kind. -/
theorem names_ofList_cells {record : Record} (member : record ∈ dataset.records.toList)
    {name : String} : name ∈ (NameMap.ofList (record.kind.parts.zip record.cells)).names ↔
      name ∈ dataset.kind.parts := by
  rw [NameMap.mem_names_iff, NameMap.get?_ofList_isSome_iff,
    List.map_fst_zip record.length_cells.le, Records.kind_of_mem member]
  rfl

/-- A dataset with a further member in its records extends the dataset. -/
theorem extends_annotated (fresh : name ∉ dataset.kind.parts) (value : Json) :
    (dataset.annotated name value).Extends dataset.toJson := by
  have listed : Json.Extends
      (.array (dataset.records.toList.map (.object ∘ annotatedRecord name value)))
      dataset.records.listing := by
    refine .array ?_
    rw [List.forall₂_map_left_iff, List.forall₂_map_right_iff, List.forall₂_same]
    intro record member
    rw [record.toJson_eq]
    exact .cons value fun present => fresh ((names_ofList_cells member).mp present)
  rw [toJson_eq_object, Records.toJson_eq_object]
  exact .swap (.text dataset.id) (.swap (.text _) listed)

/-- A reader holds what is added to them exactly when it holds the value, or there is no record. -/
theorem annotated_held_iff (fresh : name ∉ dataset.kind.parts) {room : Nat} :
    (∀ other inner, Waits (dataset.annotated name value) other inner →
      other ∉ dataset.kind.parts → inner.Fits room) ↔
        (dataset.records.toList ≠ [] → value.Fits room) := by
  constructor
  · rintro held nonempty
    obtain ⟨record, listed⟩ := List.exists_mem_of_ne_nil _ nonempty
    exact held name value (waits_annotated_iff.mpr ⟨record, listed, List.mem_cons_self⟩) fresh
  · rintro fits other inner waits unknown
    obtain ⟨record, listed, member⟩ := waits_annotated_iff.mp waits
    rcases List.mem_cons.mp member with same | entry
    · obtain ⟨-, rfl⟩ := Prod.mk.inj same
      exact fits (List.ne_nil_of_mem listed)
    · exact absurd ((names_ofList_cells listed).mp (List.mem_map_of_mem entry)) unknown

/-- A dataset with one room. -/
def oneRoom : Dataset :=
  ⟨"ubc", .rooms [⟨"dempster", "DMP", "110", "DMP_110", "main mall", .ofInt 49, .ofInt (-123),
    .ofInt 120, "tiered", "fixed", "rooms/110"⟩]⟩

open CommandLine in
/-- A dataset of finite values is read back from every form of its document: the members of all its
objects may stand in any order, with others among them. Nothing is read only if the list of records
stands before their kind and no reader holds what is added to one of them, four levels of nesting
being around it. The document as it is written is always read back, and so is every form of the
array of the records in the file that a source points to. An identifier without an equals sign and a
path that is not empty can be written as that source. -/
theorem forms_read_back (finite : dataset.IsFinite) :
    (∀ form : Json, form.Extends dataset.toJson → ∀ text ∈ [form.toText, form.toLines], ∀ other,
      read? text = some other ↔ other = dataset ∧ ∀ name value,
        Waits form name value → name ∉ dataset.kind.parts → value.Fits (Json.deepest - 4)) ∧
    (∀ text ∈ [dataset.toJson.toText, dataset.toJson.toLines], read? text = some dataset) ∧
    ∀ list : Json, list.Extends dataset.records.listing →
      ∀ text ∈ [list.toText, list.toLines], ∀ (files : Files) (path : String),
        files path = some text →
          Source.load files ⟨dataset.id, dataset.kind, path⟩ = .ok dataset ∧
          ('=' ∉ dataset.id.toList → path ≠ "" →
            Source.read (dataset.id ++ "=" ++ dataset.kind.label ++ ":" ++ path) =
              .ok ⟨dataset.id, dataset.kind, path⟩) := by
  refine ⟨fun form extended text written other => read?_eq_some_iff finite extended written,
    fun text written => ?_, fun list extended text written files path stored => ⟨?_, ?_⟩⟩
  · rw [read?_eq_some_iff finite (Json.Extends.refl dataset.toJson) written]
    exact ⟨rfl, fun name value waits => absurd waits (not_waits_toJson dataset)⟩
  · have decoded : decodeRecords? dataset.kind text = some dataset.records := by
      rw [decodeRecords?, Json.read?_document written]
      exact Records.ofKind?_document finite extended
    rw [Source.load, stored]
    dsimp only
    rw [decoded]
  · exact fun plainId nonempty => Source.read_eq_ok_iff.mpr
      ⟨⟨dataset.kind.label, rfl, dataset.kind.toLower_label⟩, plainId, nonempty⟩

/-- With a note in each record before the kind the dataset is read back, and so it is from the file
that a source points to. -/
theorem oneRoom_read_back :
    oneRoom.IsFinite ∧ read? (oneRoom.annotated "note" (.array [.null])).toText = some oneRoom ∧
      CommandLine.Source.load (fun _ => some oneRoom.records.listing.toText)
        ⟨"ubc", .rooms, "rooms.json"⟩ = .ok oneRoom := by
  have finite : oneRoom.IsFinite := by decide +kernel
  obtain ⟨forms, -, files⟩ := forms_read_back finite
  have fresh : "note" ∉ oneRoom.kind.parts := by decide
  have extended := extends_annotated fresh (.array [.null])
  refine ⟨finite, (forms _ extended _ List.mem_cons_self _).mpr ⟨rfl, ?_⟩, ?_⟩
  · rw [annotated_held_iff fresh]
    exact fun _ => .array (List.forall_mem_singleton.mpr .null)
  · exact (files _ (Json.Extends.refl _) _ List.mem_cons_self (fun _ => some _) _ rfl).1

/-- A note that nobody looks at keeps the dataset from being read where it has to wait for the kind
and is nested too deep. And an identifier with an equals sign is cut in two. -/
theorem oneRoom_not_read_back :
    oneRoom.IsFinite ∧
      (oneRoom.annotated "note" (.nested 127)).Extends oneRoom.toJson ∧
      read? (oneRoom.annotated "note" (.nested 127)).toText = none ∧
      CommandLine.Source.read "a=b=rooms:rooms.json" = .error (.kind ⟨"b=rooms"⟩) := by
  have finite : oneRoom.IsFinite := by decide +kernel
  have fresh : "note" ∉ oneRoom.kind.parts := by decide
  have extended := extends_annotated fresh (.nested 127)
  refine ⟨finite, extended, Option.eq_none_iff_forall_ne_some.mpr fun other read => ?_,
    by decide +kernel⟩
  obtain ⟨-, held⟩ := (read?_eq_some_iff finite extended List.mem_cons_self).mp read
  have fits := (annotated_held_iff fresh).mp held (List.cons_ne_nil _ _)
  exact absurd (Json.fits_nested_iff.mp fits) (by decide)

end Dataset

end CampusQuery
