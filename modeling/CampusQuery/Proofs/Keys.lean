import CampusQuery.Scope
import CampusQuery.Proofs.Checks

/-!
# What reading a key accepts

A key has one written form, its display, and reading accepts exactly the displays of
keys whose identifier can stand in one: not blank, and without an underscore of its
own. The name of a field determines the field, and the only underscore of a display
separates the two parts, so no text is the display of two keys.
-/

namespace CampusQuery

namespace Text

/-- A text without separators is its own only part. -/
theorem split_of_not_mem {separator : Char} {text : List Char} (absent : separator ∉ text) :
    split separator text = [text] := by
  induction text with
  | nil => rfl
  | cons character rest inductionHypothesis =>
    rw [List.mem_cons, not_or] at absent
    obtain ⟨different, restAbsent⟩ := absent
    simp [split, Ne.symm different, inductionHypothesis restAbsent]

/-- What stands before the first separator is the first part; the others are the
parts of what stands after it. -/
theorem split_append_cons {separator : Char} {before : List Char} (after : List Char)
    (absent : separator ∉ before) :
    split separator (before ++ separator :: after) = before :: split separator after := by
  induction before with
  | nil => simp [split]
  | cons character rest inductionHypothesis =>
    rw [List.mem_cons, not_or] at absent
    obtain ⟨different, restAbsent⟩ := absent
    simp [split, Ne.symm different, inductionHypothesis restAbsent]

/-- Every text has a first part. -/
theorem split_ne_nil (separator : Char) (text : List Char) : split separator text ≠ [] := by
  cases text with
  | nil => simp [split]
  | cons character rest =>
    unfold split
    split
    · simp
    · split <;> simp

/-- There is one part exactly when no separator occurs. -/
theorem split_eq_singleton_iff {separator : Char} {text part : List Char} :
    split separator text = [part] ↔ text = part ∧ separator ∉ part := by
  constructor
  · intro parts
    by_cases present : separator ∈ text
    · obtain ⟨before, after, rfl, absent⟩ := List.eq_append_cons_of_mem present
      rw [split_append_cons after absent, List.cons.injEq] at parts
      exact absurd parts.2 (split_ne_nil separator after)
    · rw [split_of_not_mem present, List.cons.injEq] at parts
      exact ⟨parts.1, parts.1 ▸ present⟩
  · rintro ⟨rfl, absent⟩
    exact split_of_not_mem absent

/-- There are two parts exactly when one separator occurs, and they are the two
sides of it. -/
theorem split_eq_pair_iff {separator : Char} {text left right : List Char} :
    split separator text = [left, right] ↔
      text = left ++ separator :: right ∧ separator ∉ left ∧ separator ∉ right := by
  constructor
  · intro parts
    by_cases present : separator ∈ text
    · obtain ⟨before, after, rfl, absent⟩ := List.eq_append_cons_of_mem present
      rw [split_append_cons after absent, List.cons.injEq, split_eq_singleton_iff] at parts
      obtain ⟨rfl, rfl, afterAbsent⟩ := parts
      exact ⟨rfl, absent, afterAbsent⟩
    · rw [split_of_not_mem present] at parts
      simp at parts
  · rintro ⟨rfl, leftAbsent, rightAbsent⟩
    rw [split_append_cons right leftAbsent, split_of_not_mem rightAbsent]

end Text

namespace Field

/-- Every field is listed. -/
theorem mem_all (field : Field) : field ∈ all := by
  cases field <;> decide

/-- A name is that of at most one field, and the field is found by it. -/
theorem ofLabel?_eq_some_iff {text : String} {field : Field} :
    ofLabel? text = some field ↔ text = field.label := by
  apply Checks.find?_label_eq_some_iff
  intro field
  cases field <;> decide

/-- No name of a field has an underscore. -/
theorem separator_not_mem_label (field : Field) : Key.separator ∉ field.label.toList := by
  cases field <;> decide

/-- A field belongs to exactly one kind. -/
theorem mem_ofKind_iff {kind : Kind} {field : Field} : field ∈ ofKind kind ↔ field.kind = kind := by
  cases kind <;> cases field <;> decide

end Field

/-- An identifier that can stand in a key: not blank, and without an underscore. -/
def IsId (id : String) : Prop :=
  (∃ character ∈ id.toList, Text.isBlank character = false) ∧ Key.separator ∉ id.toList

/-- A text is not blank if some character of it is not. -/
theorem allBlank_eq_false_iff {text : String} :
    Text.allBlank text = false ↔ ∃ character ∈ text.toList, Text.isBlank character = false := by
  simp [Text.allBlank]

namespace Key

/-- A key is written as its dataset, a separator and its field. -/
theorem display_toList (key : Key) :
    key.display.toList = key.dataset.toList ++ separator :: key.field.label.toList := by
  simp [display, separator]

/-- Reading accepts exactly the displays of keys with an identifier that can stand in
a key, and gives the key displayed. -/
theorem read_eq_ok_iff {raw : String} {key : Key} :
    read raw = .ok key ↔ raw = key.display ∧ IsId key.dataset := by
  constructor
  · intro accepted
    unfold read at accepted
    split at accepted
    · rename_i dataset field parts
      obtain ⟨written, datasetPlain, -⟩ := Text.split_eq_pair_iff.mp parts
      dsimp only at accepted
      split at accepted
      · simp at accepted
      · rename_i notBlank
        split at accepted
        · rename_i known found
          obtain rfl := Except.ok.inj accepted
          have named := Field.ofLabel?_eq_some_iff.mp found
          have someLetter := allBlank_eq_false_iff.mp (by simpa using notBlank)
          refine ⟨?_, someLetter, by simpa using datasetPlain⟩
          apply String.toList_injective
          rw [display_toList, ← named]
          simpa using written
        · simp at accepted
    · simp at accepted
  · rintro ⟨rfl, notBlank, plain⟩
    have parts := Text.split_eq_pair_iff.mpr
      ⟨display_toList key, plain, Field.separator_not_mem_label key.field⟩
    have found := Field.ofLabel?_eq_some_iff.mpr (rfl : key.field.label = key.field.label)
    simp [read, parts, allBlank_eq_false_iff.mpr notBlank, found]

/-- A text displays at most one key whose identifier can stand in a key. -/
theorem display_injective {left right : Key} (leftId : IsId left.dataset)
    (rightId : IsId right.dataset) (same : left.display = right.display) : left = right := by
  have leftRead : read left.display = .ok left := read_eq_ok_iff.mpr ⟨rfl, leftId⟩
  have rightRead : read left.display = .ok right := read_eq_ok_iff.mpr ⟨same, rightId⟩
  exact Except.ok.inj (leftRead.symm.trans rightRead)

end Key

namespace Scope

/-- The key names a field of the dataset, under the dataset's own identifier. -/
structure Owns (scope : Scope) (key : Key) : Prop where
  dataset : key.dataset = scope.dataset
  kind : key.field.kind = scope.kind

/-- The check of a key passes if the dataset owns it. -/
theorem check_eq_ok_iff {scope : Scope} {key : Key} :
    scope.check key = .ok () ↔ scope.Owns key := by
  unfold check
  constructor
  · intro passed
    split at passed
    · simp at passed
    · split at passed
      · simp at passed
      · rename_i dataset kind
        exact ⟨Decidable.not_not.mp dataset, Decidable.not_not.mp kind⟩
  · rintro ⟨dataset, kind⟩
    simp [dataset, kind]

/-- Within a dataset, reading accepts exactly the displays of its keys, provided that
its identifier can stand in one. -/
theorem resolve_eq_ok_iff {scope : Scope} {raw : String} {key : Key} :
    scope.resolve raw = .ok key ↔ raw = key.display ∧ IsId key.dataset ∧ scope.Owns key := by
  simp only [resolve, Key.readOf, Checks.bind_eq_ok, Checks.pure_eq_ok, Key.read_eq_ok_iff]
  constructor
  · rintro ⟨found, ⟨read, ⟨written, plain⟩, kept⟩, ⟨⟩, checked, rfl⟩
    split at kept
    · obtain rfl := Checks.pure_eq_ok.mp kept
      exact ⟨written, plain, check_eq_ok_iff.mp checked⟩
    · exact absurd kept Checks.throw_ne_ok
  · rintro ⟨rfl, plain, owned⟩
    exact ⟨key, ⟨key, ⟨rfl, plain⟩, by simp [owned.kind]⟩, ⟨⟩, check_eq_ok_iff.mpr owned, rfl⟩

/-- A key that is read first and checked afterwards passes exactly when it is resolved. -/
theorem read_check_eq_ok_iff {scope : Scope} {raw : String} {key : Key} :
    (do let found ← Key.read raw; scope.check found; return found) = .ok key ↔
      scope.resolve raw = .ok key := by
  simp only [Checks.bind_eq_ok, Checks.pure_eq_ok, Key.read_eq_ok_iff, resolve_eq_ok_iff]
  constructor
  · rintro ⟨found, ⟨written, plain⟩, ⟨⟩, checked, rfl⟩
    exact ⟨written, plain, check_eq_ok_iff.mp checked⟩
  · rintro ⟨written, plain, owned⟩
    exact ⟨key, ⟨written, plain⟩, ⟨⟩, check_eq_ok_iff.mpr owned, rfl⟩

end Scope

/-- Reading and writing a key undo each other on exactly the keys whose identifier can stand in
one. The identifier is read as it stands before the underscore, character for character, and no two
texts are read as one key. Within a dataset exactly its own keys are resolved, and a key that is
read first and checked afterwards passes under the same text and no other. -/
theorem keys_read_as_written (raw : String) (key : Key) :
    (Key.read raw = .ok key ↔ raw = key.display ∧ IsId key.dataset) ∧
      (Key.read raw = .ok key →
        raw.toList.takeWhile (· ≠ Key.separator) = key.dataset.toList ∧
          ∀ other, Key.read other = .ok key → other = raw) ∧
      ∀ scope : Scope,
        (scope.resolve raw = .ok key ↔
          raw = key.display ∧ IsId key.dataset ∧ key.dataset = scope.dataset ∧
            key.field ∈ Field.ofKind scope.kind) ∧
        ((do let found ← Key.read raw; scope.check found; return found) = .ok key ↔
          scope.resolve raw = .ok key) := by
  refine ⟨Key.read_eq_ok_iff, ?_, fun scope => ⟨?_, Scope.read_check_eq_ok_iff⟩⟩
  · intro accepted
    obtain ⟨rfl, -, plain⟩ := Key.read_eq_ok_iff.mp accepted
    constructor
    · have kept : ∀ character ∈ key.dataset.toList, decide (character ≠ Key.separator) = true :=
        fun character member => decide_eq_true fun same => plain (same ▸ member)
      rw [Key.display_toList, List.takeWhile_append_of_pos kept,
        List.takeWhile_cons_of_neg (by simp), List.append_nil]
    · intro other again
      exact (Key.read_eq_ok_iff.mp again).1
  · rw [Scope.resolve_eq_ok_iff, Field.mem_ofKind_iff]
    constructor
    · rintro ⟨written, identifier, owned⟩
      exact ⟨written, identifier, owned.dataset, owned.kind⟩
    · rintro ⟨written, identifier, dataset, kind⟩
      exact ⟨written, identifier, dataset, kind⟩

end CampusQuery
