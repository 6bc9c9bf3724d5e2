import CampusQuery.CommandLine.Source
import CampusQuery.Proofs.Checks

/-!
# What reading a source accepts

A source is cut at its first equals sign and then at the first colon behind it. So an identifier
holds no equals sign, but may hold colons, and a path may hold both. The kind between the two is
compared in lower case. Apart from the letters A to Z only the Kelvin sign has a lower case among
the ASCII characters, which is the letter k, and the names of the kinds do without it: a text names
a kind exactly when it differs from the kind's label in the case of such letters alone.
-/

namespace CampusQuery

namespace Text

/-- A text is cut at the first separator in it. -/
theorem cut?_eq_some_iff {separator : Char} {text before after : List Char} :
    cut? separator text = some (before, after) ↔
      text = before ++ separator :: after ∧ separator ∉ before := by
  induction text generalizing before after with
  | nil => simp [cut?]
  | cons character rest inductionHypothesis =>
    unfold cut?
    split
    · rename_i same
      subst same
      cases before with
      | nil => simp
      | cons first others => simp +contextual
    · rename_i different
      rw [Option.map_eq_some_iff]
      constructor
      · rintro ⟨⟨others, behind⟩, found, shown⟩
        obtain ⟨rfl, rfl⟩ := Prod.mk.inj shown
        obtain ⟨rfl, absent⟩ := inductionHypothesis.mp found
        exact ⟨rfl, fun member => (List.mem_cons.mp member).elim (different ·.symm) absent⟩
      · rintro ⟨written, absent⟩
        cases before with
        | nil => exact absurd (List.cons.inj written).1 different
        | cons first others =>
          obtain ⟨rfl, rest⟩ := List.cons.inj written
          have othersAbsent : separator ∉ others :=
            fun member => absent (List.mem_cons_of_mem _ member)
          exact ⟨(others, after), inductionHypothesis.mpr ⟨rest, othersAbsent⟩, rfl⟩

/-- The lower case of an ASCII character changes the letters A to Z alone. -/
theorem lowerCharacter_of_ascii {character : Char} (ascii : character.toNat < 128) :
    lowerCharacter character = [character.toLower] := by
  have each : ∀ code < 128, lowerCharacter (Char.ofNat code) = [(Char.ofNat code).toLower] := by
    decide +kernel
  have lowered := each character.toNat ascii
  rwa [Char.ofNat_toNat] at lowered

/-- Letters beyond ASCII have their lower case beyond ASCII too, the Kelvin sign excepted. The lower
case of a run stays on one side of the code points that are no characters. -/
theorem lowercaseRuns_beyond_ascii :
    ∀ run ∈ lowercaseRuns, run.last < 128 ∨
      (run.first = 0x212A ∧ run.last = 0x212A ∧ run.shift = -8383) ∨
      (128 ≤ run.first + run.shift ∧
        (run.last + run.shift < 0xD800 ∨
          0xE000 ≤ run.first + run.shift ∧ run.last + run.shift < 0x110000)) := by
  decide +kernel

/-- What a character beyond ASCII becomes in lower case holds such a character, or is the letter
k. -/
theorem exists_lowered {character : Char} (foreign : 128 ≤ character.toNat) :
    ∃ lowered ∈ lowerCharacter character, 128 ≤ lowered.toNat ∨ lowered = 'k' := by
  unfold lowerCharacter
  split
  · exact ⟨'\u0307', by simp, .inl (by decide)⟩
  · split
    · rename_i run found
      have listed := List.mem_of_find?_eq_some found
      have inside := List.find?_some found
      simp only [LowercaseRun.has, Bool.and_eq_true, decide_eq_true_eq] at inside
      refine ⟨_, List.mem_singleton_self _, ?_⟩
      rcases lowercaseRuns_beyond_ascii run listed with below | ⟨first, last, shift⟩ | beyond
      · omega
      · have kelvin : character.toNat = 0x212A := by omega
        rw [kelvin, shift]
        exact .inr rfl
      · have valid : (character.toNat + run.shift).toNat.isValidChar := by
          unfold Nat.isValidChar
          omega
        have shifted : (Char.ofNat (character.toNat + run.shift).toNat).toNat =
            (character.toNat + run.shift).toNat := by
          rw [Char.ofNat, dif_pos valid]
          rfl
        exact .inl (by omega)
    · exact ⟨character, List.mem_singleton_self _, .inl foreign⟩

/-- A character beyond ASCII is no letter from A to Z. -/
theorem toLower_of_foreign {character : Char} (foreign : 128 ≤ character.toNat) :
    character.toLower = character := by
  unfold Char.toLower
  rw [dif_neg]
  rintro ⟨-, atMost⟩
  have bound : character.toNat ≤ 90 := atMost
  omega

/-- In lower case a character stands for itself or, beyond ASCII, for what no ASCII text without
the letter k holds, wherever it stands. -/
theorem lowerAfter_cons (before : List Char) (character : Char) (rest : List Char) :
    ∃ lowered, lowerAfter before (character :: rest) =
        lowered ++ lowerAfter (character :: before) rest ∧
      (character.toNat < 128 → lowered = [character.toLower]) ∧
      (128 ≤ character.toNat → ∃ letter ∈ lowered, 128 ≤ letter.toNat ∨ letter = 'k') := by
  refine ⟨_, rfl, fun ascii => ?_, fun foreign => ?_⟩
  · rw [if_neg]
    · exact lowerCharacter_of_ascii ascii
    · rintro rfl
      revert ascii
      decide
  · split
    · split
      · exact ⟨'ς', List.mem_singleton_self _, .inl (by decide)⟩
      · exact ⟨'σ', List.mem_singleton_self _, .inl (by decide)⟩
    · exact exists_lowered foreign

/-- An ASCII word without the letter k is the lower case of a text exactly when the text differs
from it in the case of the letters A to Z alone. -/
theorem lowerAfter_eq_iff {before text word : List Char}
    (plain : ∀ character ∈ word, character.toNat < 128 ∧ character ≠ 'k') :
    lowerAfter before text = word ↔ text.map Char.toLower = word := by
  induction text generalizing before word with
  | nil => rfl
  | cons character rest inductionHypothesis =>
    obtain ⟨lowered, written, ofAscii, ofForeign⟩ := lowerAfter_cons before character rest
    rw [written, List.map_cons]
    rcases Nat.lt_or_ge character.toNat 128 with ascii | foreign
    · rw [ofAscii ascii, List.singleton_append]
      cases word with
      | nil => simp
      | cons first others =>
        have othersPlain := (List.forall_mem_cons.mp plain).2
        rw [List.cons.injEq, List.cons.injEq, inductionHypothesis othersPlain]
    · constructor
      · rintro rfl
        obtain ⟨letter, member, beyond⟩ := ofForeign foreign
        obtain ⟨ascii, noK⟩ := plain letter (List.mem_append_left _ member)
        rcases beyond with beyond | rfl
        · omega
        · exact absurd rfl noK
      · rintro rfl
        have ascii := (plain _ List.mem_cons_self).1
        rw [toLower_of_foreign foreign] at ascii
        omega

/-- A text is lowered character by character. -/
theorem toList_toLower (text : String) : text.toLower.toList = text.toList.map Char.toLower :=
  String.toList_map

/-- Of a plain word without k the two ways of lowering a text find the same spellings. -/
theorem lowercase_eq_iff {text word : String}
    (plain : ∀ character ∈ word.toList, character.toNat < 128 ∧ character ≠ 'k') :
    lowercase text = word ↔ text.toLower = word := by
  rw [← String.toList_inj, ← String.toList_inj, lowercase, String.toList_ofList, toList_toLower]
  exact lowerAfter_eq_iff plain

end Text

namespace Kind

/-- A kind is found by its label alone. -/
theorem ofLabel?_eq_some_iff {text : String} {kind : Kind} :
    ofLabel? text = some kind ↔ text = kind.label := by
  apply Checks.find?_label_eq_some_iff
  intro kind
  cases kind <;> decide

/-- A text names the kind whose label it is but for the case of its letters. -/
theorem ofText_eq_ok_iff {text : String} {kind : Kind} :
    ofText text = .ok kind ↔ text.toLower = kind.label := by
  have plain : ∀ character ∈ kind.label.toList, character.toNat < 128 ∧ character ≠ 'k' := by
    cases kind <;> simp [label]
  rw [← Text.lowercase_eq_iff plain, ← ofLabel?_eq_some_iff, ofText]
  cases ofLabel? (Text.lowercase text) <;> simp

/-- A text that names a kind holds no colon. -/
theorem colon_not_mem {text : String} {kind : Kind} (named : text.toLower = kind.label) :
    ':' ∉ text.toList := by
  intro member
  have kept : ':' ∈ text.toLower.toList := by
    rw [Text.toList_toLower]
    exact List.mem_map.mpr ⟨':', member, rfl⟩
  rw [named] at kept
  revert kept
  cases kind <;> decide

/-- A label is in lower case. -/
theorem toLower_label (kind : Kind) : kind.label.toLower = kind.label := by
  rw [← String.toList_inj, Text.toList_toLower]
  cases kind <;> decide

end Kind

namespace CommandLine.Source

/-- Exactly the texts are read that write the source, with the kind in any letter case; the
identifier has no equals sign, and there is a path. -/
theorem read_eq_ok_iff {text : String} {source : Source} :
    read text = .ok source ↔
      (∃ kind : String, text = source.id ++ "=" ++ kind ++ ":" ++ source.path ∧
        kind.toLower = source.kind.label) ∧ '=' ∉ source.id.toList ∧ source.path ≠ "" := by
  constructor
  · intro accepted
    unfold read at accepted
    split at accepted
    · cases accepted
    · rename_i id rest cutAtEquals
      obtain ⟨written, plainId⟩ := Text.cut?_eq_some_iff.mp cutAtEquals
      split at accepted
      · cases accepted
      · cases accepted
      · rename_i kind path nonempty cutAtColon
        obtain ⟨rfl, -⟩ := Text.cut?_eq_some_iff.mp cutAtColon
        split at accepted
        · cases accepted
        · rename_i known named
          obtain rfl := Except.ok.inj accepted
          refine ⟨⟨String.ofList kind, ?_, Kind.ofText_eq_ok_iff.mp named⟩, ?_, ?_⟩
          · apply String.toList_injective
            simpa using written
          · simpa using plainId
          · intro empty
            exact nonempty (by simpa using empty)
  · rintro ⟨⟨kind, rfl, named⟩, plainId, nonempty⟩
    have text : (source.id ++ "=" ++ kind ++ ":" ++ source.path).toList =
        source.id.toList ++ '=' :: (kind.toList ++ ':' :: source.path.toList) := by
      simp
    have atEquals := Text.cut?_eq_some_iff.mpr ⟨text, plainId⟩
    have atColon := Text.cut?_eq_some_iff.mpr
      ⟨(rfl : kind.toList ++ ':' :: source.path.toList = _), Kind.colon_not_mem named⟩
    have known : Kind.ofText (String.ofList kind.toList) = .ok source.kind := by
      rw [String.ofList_toList]
      exact Kind.ofText_eq_ok_iff.mpr named
    obtain ⟨first, others, path⟩ : ∃ first others, source.path.toList = first :: others :=
      List.exists_cons_of_ne_nil (by simpa using nonempty)
    rw [path] at atEquals atColon
    unfold read
    simp only [atEquals, atColon, known]
    rw [← path, String.ofList_toList, String.ofList_toList]

/-- A source is read back from the text that writes it. -/
theorem read_display {source : Source} (plainId : '=' ∉ source.id.toList)
    (nonempty : source.path ≠ "") : read source.display = .ok source :=
  read_eq_ok_iff.mpr ⟨⟨source.kind.label, rfl, Kind.toLower_label source.kind⟩, plainId, nonempty⟩

/-- Whatever is read as a source is the source written out, but for the letter case of the kind. Its
identifier has no equals sign and its path is not empty, and it is read back when it is written out.
So is every source with such an identifier and such a path: the first equals sign ends the
identifier and the first colon behind it the kind; all others belong to the parts around them. -/
theorem sources_read_as_written (text : String) (source : Source) :
    (read text = .ok source →
      read source.display = .ok source ∧
        (∃ kind : String, text = source.id ++ "=" ++ kind ++ ":" ++ source.path ∧
          source.display = source.id ++ "=" ++ kind.toLower ++ ":" ++ source.path) ∧
        '=' ∉ source.id.toList ∧ source.path ≠ "") ∧
      ('=' ∉ source.id.toList → source.path ≠ "" → read source.display = .ok source) := by
  refine ⟨fun accepted => ?_, read_display⟩
  obtain ⟨⟨kind, written, named⟩, plainId, nonempty⟩ := read_eq_ok_iff.mp accepted
  refine ⟨read_display plainId nonempty, ⟨kind, written, ?_⟩, plainId, nonempty⟩
  rw [display, named]

/-- Both marks may stand in the path, and a colon in the identifier. -/
example : read "a:b=Rooms:c:d=e" = .ok ⟨"a:b", .rooms, "c:d=e"⟩ := by decide +kernel

end CommandLine.Source

end CampusQuery
