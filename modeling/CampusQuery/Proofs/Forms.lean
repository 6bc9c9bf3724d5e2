import Mathlib.Data.List.Nodup
import CampusQuery.Document.Fields
import CampusQuery.Proofs.JsonReading

/-!
# Forms of a document

Who reads the parts of an object looks each of them up by its name. So the members may stand in
any order, and others may stand among them, as long as no name of a part is repeated: in every such
form the parts are the same. What stands among them is held to the grammar alone, unless the form
has to be kept as a value. Then it must be one: nested no deeper than a reader goes, and with its
whole numbers in range.
-/

namespace CampusQuery

namespace Json

/-- A form of a value: in each of its objects the members stand in any order, with any members
under fresh names among them. -/
inductive Extends : Json → Json → Prop where
  | null : Extends .null .null
  | bool (value : Bool) : Extends (.bool value) (.bool value)
  | number (numeral : Numeral) : Extends (.number numeral) (.number numeral)
  | text (value : String) : Extends (.text value) (.text value)
  | array {forms items : List Json} (each : List.Forall₂ Extends forms items) :
    Extends (.array forms) (.array items)
  | object {others kept added members : List (String × Json)}
    (names : kept.map Prod.fst = members.map Prod.fst)
    (each : List.Forall₂ Extends (kept.map Prod.snd) (members.map Prod.snd))
    (fresh : ∀ member ∈ added, member.1 ∉ members.map Prod.fst)
    (permuted : others.Perm (kept ++ added)) : Extends (.object others) (.object members)

/-- Every value is a form of itself. -/
theorem Extends.refl (value : Json) : value.Extends value := by
  induction value using Json.induction with
  | null => exact .null
  | bool value => exact .bool value
  | number numeral => exact .number numeral
  | text value => exact .text value
  | array items inductionHypothesis =>
    exact .array (List.forall₂_same.mpr inductionHypothesis)
  | object members inductionHypothesis =>
    have each : List.Forall₂ Extends (members.map Prod.snd) (members.map Prod.snd) := by
      rw [List.forall₂_map_left_iff, List.forall₂_map_right_iff, List.forall₂_same]
      exact inductionHypothesis
    have permuted : members.Perm (members ++ []) := by rw [List.append_nil]
    exact .object rfl each (List.forall_mem_nil _) permuted

/-- A member under a fresh name may be added in front. -/
theorem Extends.cons {members : List (String × Json)} {name : String} (value : Json)
    (fresh : name ∉ members.map Prod.fst) :
    (Json.object ((name, value) :: members)).Extends (.object members) := by
  have each : List.Forall₂ Extends (members.map Prod.snd) (members.map Prod.snd) :=
    List.forall₂_same.mpr fun item _ => .refl item
  have added : ∀ member ∈ [(name, value)], member.1 ∉ members.map Prod.fst :=
    List.forall_mem_singleton.mpr fresh
  exact .object rfl each added (List.perm_append_singleton _ _).symm

/-- Two members may change places. -/
theorem Extends.swap {first second : String} {firstForm firstItem secondForm secondItem : Json}
    (firstExtended : firstForm.Extends firstItem) (secondExtended : secondForm.Extends secondItem) :
    (Json.object [(second, secondForm), (first, firstForm)]).Extends
      (.object [(first, firstItem), (second, secondItem)]) := by
  have names : [(first, firstForm), (second, secondForm)].map Prod.fst =
      [(first, firstItem), (second, secondItem)].map Prod.fst := rfl
  have each : List.Forall₂ Extends ([(first, firstForm), (second, secondForm)].map Prod.snd)
      ([(first, firstItem), (second, secondItem)].map Prod.snd) :=
    .cons firstExtended (.cons secondExtended .nil)
  exact .object names each (List.forall_mem_nil _) (.swap ..)

/-- A form of an array has forms of its items. -/
theorem Extends.exists_items {form : Json} {items : List Json}
    (extended : form.Extends (.array items)) :
    ∃ forms, form = .array forms ∧ List.Forall₂ Extends forms items := by
  cases extended with
  | array each => exact ⟨_, rfl, each⟩

/-- A value that holds no others has one form. -/
theorem IsPlain.eq_of_extends {value form : Json} (plain : value.IsPlain)
    (extended : form.Extends value) : form = value := by
  cases extended with
  | null => rfl
  | bool => rfl
  | number => rfl
  | text => rfl
  | array => exact plain.elim
  | object => exact plain.elim

/-- A finite number is plain. -/
theorem isPlain_ofReal {value : Binary64} (finite : value.isFinite = true) :
    (ofReal value).IsPlain := by
  rw [ofReal, if_pos finite]
  exact finite

/-- A name that is not there has no member. -/
theorem filter_of_absent {members : List (String × Json)} {name : String}
    (absent : name ∉ members.map Prod.fst) : members.filter (·.1 = name) = [] := by
  rw [List.filter_eq_nil_iff]
  intro other listed same
  exact absent (of_decide_eq_true same ▸ List.mem_map_of_mem listed)

/-- Of a name that stands once there is one member. -/
theorem eq_of_filter {members : List (String × Json)} {name : String} {inner other : Json}
    (found : members.filter (·.1 = name) = [(name, inner)]) (listed : (name, other) ∈ members) :
    other = inner := by
  have member : (name, other) ∈ members.filter (·.1 = name) := by simp [listed]
  rw [found] at member
  exact (Prod.ext_iff.mp (List.mem_singleton.mp member)).2

/-- Where no name is given twice, none stands twice, and each stands with a form of its value. -/
theorem exists_kept {kept members : List (String × Json)}
    (names : kept.map Prod.fst = members.map Prod.fst)
    (each : List.Forall₂ Extends (kept.map Prod.snd) (members.map Prod.snd))
    (distinct : (members.map Prod.fst).Nodup) {name : String} {item : Json}
    (member : (name, item) ∈ members) :
    ∃ inner, kept.filter (·.1 = name) = [(name, inner)] ∧ inner.Extends item := by
  induction members generalizing kept with
  | nil => cases member
  | cons first others inductionHypothesis =>
    cases kept with
    | nil => cases names
    | cons keptFirst keptOthers =>
      obtain ⟨sameName, otherNames⟩ := List.cons.inj names
      obtain ⟨extended, each⟩ := List.forall₂_cons.mp each
      obtain ⟨new, distinct⟩ := List.nodup_cons.mp distinct
      rcases List.mem_cons.mp member with rfl | later
      · have absent : keptOthers.filter (·.1 = name) = [] := filter_of_absent (otherNames ▸ new)
        refine ⟨keptFirst.2, ?_, extended⟩
        rw [List.filter_cons, if_pos (decide_eq_true sameName), absent]
        exact congrArg (fun pair => [pair]) (Prod.ext sameName rfl)
      · have listed : name ∈ others.map Prod.fst := List.mem_map.mpr ⟨_, later, rfl⟩
        have different : keptFirst.1 ≠ name := fun same => new (sameName ▸ same ▸ listed)
        rw [List.filter_cons, if_neg (by simpa using different)]
        exact inductionHypothesis otherNames each distinct later

/-- In a form of an object with distinct names every one of the members stands once, in a form of
its value. -/
theorem Extends.exists_members {form : Json} {pairs : List (String × Json)}
    (extended : form.Extends (.ofMembers pairs)) (distinct : (pairs.map Prod.fst).Nodup) :
    ∃ members, form = .object members ∧ ∀ name item, (name, item) ∈ pairs →
      ∃ inner, members.filter (·.1 = name) = [(name, inner)] ∧ inner.Extends item := by
  generalize same : ofMembers pairs = value at extended
  cases extended with
  | null => cases same
  | bool => cases same
  | number => cases same
  | text => cases same
  | array => cases same
  | @object others kept added members names each fresh permuted =>
    obtain rfl := Json.object.inj same
    refine ⟨others, rfl, fun name item member => ?_⟩
    have unique : ∀ other, (name, other) ∈ pairs → other = item := fun other again =>
      (Prod.ext_iff.mp (List.inj_on_of_nodup_map distinct again member rfl)).2
    have entry : (name, item) ∈ (NameMap.ofList pairs).entries :=
      NameMap.mem_entries_iff.mpr (NameMap.get?_ofList_of_mem member unique)
    obtain ⟨inner, found, extended⟩ := exists_kept names each (NameMap.names_nodup _) entry
    refine ⟨inner, ?_, extended⟩
    have listed : name ∈ (NameMap.ofList pairs).entries.map Prod.fst :=
      List.mem_map.mpr ⟨_, entry, rfl⟩
    have notAdded : name ∉ added.map Prod.fst := by
      rintro addedName
      obtain ⟨other, inAdded, rfl⟩ := List.mem_map.mp addedName
      exact fresh other inAdded listed
    have filtered := permuted.filter (·.1 = name)
    rw [List.filter_append, found, filter_of_absent notAdded, List.append_nil] at filtered
    exact List.perm_singleton.mp filtered

end Json

namespace Written

open Json

/-- The names of an object are read from its document. -/
theorem named?_document (members : List (String × Json)) :
    named? (members.map fun member =>
        (member.1.toList.map WrittenText.pieceOf, member.2.document)) =
      some (members.map fun member => (member.1, member.2.document)) := by
  rw [named?, List.mapM_map]
  apply Checks.mapM_eq_some_map
  intro member _
  simp [value?_pieces]

/-- A member that stands once is found, whatever stands beside it. -/
theorem only?_document {members : List (String × Json)} {name : String} {inner : Json}
    (found : members.filter (·.1 = name) = [(name, inner)]) :
    only? (members.map fun member => (member.1, member.2.document)) name =
      some inner.document := by
  have filtered : (members.map fun member => (member.1, member.2.document)).filter (·.1 = name) =
      (members.filter (·.1 = name)).map fun member => (member.1, member.2.document) :=
    List.filter_map
  rw [only?, filtered, found]
  rfl

/-- A text is read back from its document. -/
theorem text?_document (value : String) : (Json.text value).document.text? = some value := by
  rw [document, text?, value?_pieces]

/-- A list is read back from the documents of its items. -/
theorem list?_document {α : Type} {read : Written → Option α} {forms : List Json} {rows : List α}
    (each : List.Forall₂ (fun form row => read form.document = some row) forms rows) :
    (Json.array forms).document.list? read = some rows := by
  rw [document_array, list?, List.mapM_map]
  exact Checks.mapM_eq_some_of_forall₂ each

/-- A finite value is read back from its document. -/
theorem real?_document {value : Binary64} (finite : value.isFinite = true) :
    (Json.ofReal value).document.real? = some value := by
  rw [ofReal, if_pos finite, document]
  rcases (Numeral.real value).exists_written with
    ⟨-, illegible, -⟩ | ⟨number, spelled, wellFormed, read, -⟩
  · exact absurd finite illegible
  · rw [Numeral.document_of_spell spelled wellFormed, real?, read finite]
    rfl

end Written

/-- Distinct names, each with a value that holds no others. -/
structure IsRow (names : List String) (cells : List Json) : Prop where
  sameLength : names.length = cells.length
  distinct : names.Nodup
  plain : ∀ cell ∈ cells, cell.IsPlain

namespace IsRow

variable {form : Json} {names : List String} {cells : List Json}

/-- The parts of a row are under its names. -/
theorem names_zip (row : IsRow names cells) : (names.zip cells).map Prod.fst = names :=
  List.map_fst_zip row.sameLength.le

/-- In a form of an object with the names each of them stands once, with its value. -/
theorem exists_members (row : IsRow names cells)
    (extended : form.Extends (.ofMembers (names.zip cells))) :
    ∃ members, form = .object members ∧ ∀ name cell, (name, cell) ∈ names.zip cells →
      members.filter (·.1 = name) = [(name, cell)] := by
  obtain ⟨members, rfl, stands⟩ := extended.exists_members (row.names_zip.symm ▸ row.distinct)
  refine ⟨members, rfl, fun name cell listed => ?_⟩
  obtain ⟨inner, found, innerExtended⟩ := stands name cell listed
  obtain rfl := (row.plain cell (List.of_mem_zip listed).2).eq_of_extends innerExtended
  exact found

/-- So the values are its parts. -/
theorem parts?_document (row : IsRow names cells)
    (extended : form.Extends (.ofMembers (names.zip cells))) :
    form.document.parts? names = some (cells.map Json.document) := by
  obtain ⟨members, rfl, stands⟩ := row.exists_members extended
  rw [Json.document_object, Written.parts?, Written.named?_document, Option.bind_eq_bind,
    Option.bind_some]
  apply Checks.mapM_eq_some_of_forall₂
  rw [List.forall₂_map_right_iff, List.forall₂_iff_zip]
  exact ⟨row.sameLength, fun listed => Written.only?_document (stands _ _ listed)⟩

/-- A reader holds it exactly when it holds what is added. -/
theorem fits_iff (row : IsRow names cells)
    (extended : form.Extends (.ofMembers (names.zip cells))) {room : Nat} :
    form.Fits (room + 1) ↔ ∀ members, form = .object members → ∀ member ∈ members,
      member.1 ∉ names → member.2.Fits room := by
  obtain ⟨members, rfl, stands⟩ := row.exists_members extended
  rw [Json.fits_object_iff]
  constructor
  · rintro each _ ⟨⟩ member listed -
    exact each member listed
  · rintro each member listed
    by_cases known : member.1 ∈ names
    · rw [← row.names_zip] at known
      obtain ⟨⟨name, cell⟩, inZip, named⟩ := List.mem_map.mp known
      obtain ⟨_, value⟩ := member
      obtain rfl : name = _ := named
      obtain rfl : value = cell := Json.eq_of_filter (stands name cell inZip) listed
      exact (row.plain value (List.of_mem_zip inZip).2).fits room
    · exact each members rfl member listed known

end IsRow

end CampusQuery
