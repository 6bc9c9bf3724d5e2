import Mathlib.Data.List.DropRight
import CampusQuery.Proofs.Checks
import CampusQuery.Proofs.NameMaps
import CampusQuery.Proofs.NumberTexts
import CampusQuery.Report.Render

/-!
# Reading JSON that was written

Whatever is written is read, on one line or laid out over several, and whatever stands behind it:
white space is passed over, a text is read up to the quote that closes it because every quote in it
is escaped, and a number ends where no digit follows. Items and members are read one after the other
up to their closing bracket. Both texts of a value are read as one document. If the value can be
written at all, the document has that value, with its whole numbers whole and its members under
their names; so the rows of a report are read back as the rows. The document of any value has some
value if the numbers are in range and it is not nested too deep.
-/

namespace CampusQuery

namespace WrittenText

/-- The piece as which a character stands in a written text: its number as a unit if it is a
control character without an escape of its own, and otherwise the character. -/
def pieceOf (character : Char) : TextPiece :=
  if character < ' ' ∧ character ∉ ['\x08', '\x0c', '\n', '\r', '\t'] then
    .unit character.toNat
  else .character character

/-- A control character is one of the first thirty-two. -/
theorem toNat_lt_of_control {character : Char} (control : character < ' ') :
    character.toNat < 32 := control

/-- The pieces of a text spell it. -/
theorem characters?_pieces (text : List Char) : characters? (text.map pieceOf) = some text := by
  induction text with
  | nil => rfl
  | cons character rest inductionHypothesis =>
    rw [List.map_cons, pieceOf]
    split
    · rename_i control
      have small := toNat_lt_of_control control.1
      have notHigh : isHigh character.toNat = false := by
        simp only [isHigh, Bool.and_eq_false_iff, decide_eq_false_iff_not]
        omega
      have notLow : isLow character.toNat = false := by
        simp only [isLow, Bool.and_eq_false_iff, decide_eq_false_iff_not]
        omega
      rw [characters?.eq_def]
      simp [notHigh, notLow, inductionHypothesis]
    · rw [characters?, inductionHypothesis, Option.map_some]

end WrittenText

namespace Written

open WrittenText

/-- The digits that spell a control character are read as its number. -/
theorem unit?_control : ∀ code < 32,
    unit? '0' '0' (code / 16).digitChar (code % 16).digitChar = some (.unit code) := by
  decide

/-- A character that stands for itself is read as it stands. -/
theorem readText_plain {character : Char} (quote : character ≠ '"') (backslash : character ≠ '\\')
    (printable : ¬character < ' ') (rest : List Char) :
    readText (character :: rest) =
      (readText rest).map fun (pieces, rest) => (.character character :: pieces, rest) := by
  rw [readText]
  · rw [if_neg (by simp [printable, backslash])]
    cases readText rest <;> rfl
  · exact fun same => quote same
  · intro _ _ _ _ _ same
    exact absurd same backslash
  · intro _ _ same
    exact absurd same backslash

/-- A letter behind a backslash is read as the character for which it stands. -/
theorem readText_escaped {letter character : Char} (named : letter ≠ 'u')
    (stands : escaped? letter = some character) (rest : List Char) :
    readText ('\\' :: letter :: rest) =
      (readText rest).map fun (pieces, rest) => (.character character :: pieces, rest) := by
  rw [readText]
  · rw [stands]
    cases readText rest <;> rfl
  · intro _ _ _ _ _ same
    exact absurd same named

/-- A control character is read from its number. -/
theorem readText_control {character : Char} (control : character < ' ') (rest : List Char) :
    readText ('\\' :: 'u' :: '0' :: '0' :: (character.toNat / 16).digitChar ::
        (character.toNat % 16).digitChar :: rest) =
      (readText rest).map fun (pieces, rest) => (.unit character.toNat :: pieces, rest) := by
  rw [readText, unit?_control character.toNat (toNat_lt_of_control control)]
  cases readText rest <;> rfl

/-- The characters that have an escape of their own. -/
theorem exists_escape {character : Char}
    (short : character ∈ ['"', '\\', '\x08', '\x0c', '\n', '\r', '\t']) :
    ∃ letter, letter ≠ 'u' ∧ escaped? letter = some character ∧
      Json.spellCharacter character = ['\\', letter] ∧
      pieceOf character = .character character := by
  simp only [List.mem_cons, List.not_mem_nil, or_false] at short
  rcases short with rfl | rfl | rfl | rfl | rfl | rfl | rfl
  · exact ⟨'"', by decide, rfl, rfl, rfl⟩
  · exact ⟨'\\', by decide, rfl, rfl, rfl⟩
  · exact ⟨'b', by decide, rfl, rfl, rfl⟩
  · exact ⟨'f', by decide, rfl, rfl, rfl⟩
  · exact ⟨'n', by decide, rfl, rfl, rfl⟩
  · exact ⟨'r', by decide, rfl, rfl, rfl⟩
  · exact ⟨'t', by decide, rfl, rfl, rfl⟩

/-- A character is read as its piece, with the escape that it has. -/
theorem readText_spellCharacter (character : Char) (rest : List Char) :
    readText (Json.spellCharacter character ++ rest) =
      (readText rest).map fun (pieces, rest) => (pieceOf character :: pieces, rest) := by
  by_cases short : character ∈ ['"', '\\', '\x08', '\x0c', '\n', '\r', '\t']
  · obtain ⟨letter, named, stands, spelled, piece⟩ := exists_escape short
    rw [spelled, piece]
    exact readText_escaped named stands rest
  · simp only [List.mem_cons, List.not_mem_nil, or_false, not_or] at short
    obtain ⟨quote, backslash, backspace, formFeed, lineFeed, carriageReturn, tab⟩ := short
    by_cases control : character < ' '
    · have piece : pieceOf character = .unit character.toNat := by
        simp [pieceOf, control, backspace, formFeed, lineFeed, carriageReturn, tab]
      rw [piece, ← readText_control control]
      simp [Json.spellCharacter, quote, backslash, backspace, formFeed, lineFeed, carriageReturn,
        tab, control]
    · have piece : pieceOf character = .character character := by simp [pieceOf, control]
      rw [piece, ← readText_plain quote backslash control]
      simp [Json.spellCharacter, quote, backslash, backspace, formFeed, lineFeed, carriageReturn,
        tab, control]

/-- A quoted text is read up to its closing quote. -/
theorem readText_spell (text rest : List Char) :
    readText (text.flatMap Json.spellCharacter ++ '"' :: rest) = some (text.map pieceOf, rest) := by
  induction text with
  | nil => rfl
  | cons character others inductionHypothesis =>
    rw [List.flatMap_cons, List.append_assoc, readText_spellCharacter, inductionHypothesis]
    rfl

/-- White space. -/
def IsGap (gap : List Char) : Prop := ∀ character ∈ gap, isSpace character = true

/-- The empty text is a gap. -/
theorem isGap_nil : IsGap [] := List.forall_mem_nil _

/-- One space is a gap. -/
theorem isGap_space : IsGap [' '] := List.forall_mem_singleton.mpr rfl

/-- A new line with its indentation is white space. -/
theorem isGap_newLine (level : Nat) : IsGap (Json.newLine level) := by
  intro character member
  rcases List.mem_cons.mp member with rfl | indentation
  · rfl
  · rw [List.eq_of_mem_replicate indentation]
    rfl

/-- A gap is skipped as a whole. -/
theorem IsGap.skipSpace {gap : List Char} (space : IsGap gap) (input : List Char) :
    skipSpace (gap ++ input) = Written.skipSpace input :=
  List.dropWhile_append_of_pos space

/-- After space is skipped, none is left to skip. -/
theorem skipSpace_skipSpace (input : List Char) : skipSpace (skipSpace input) = skipSpace input :=
  List.dropWhile_idempotent isSpace input

/-- White space before a value is passed over. -/
theorem readValue_skipSpace (steps : Nat) (input : List Char) :
    readValue steps (skipSpace input) = readValue steps input := by
  cases steps with
  | zero => rfl
  | succ steps => rw [readValue, readValue, skipSpace_skipSpace]

/-- A value behind a gap is read as it is without the gap. -/
theorem IsGap.readValue {gap : List Char} (space : IsGap gap) (steps : Nat) (input : List Char) :
    readValue steps (gap ++ input) = Written.readValue steps input := by
  rw [← readValue_skipSpace, space.skipSpace, readValue_skipSpace]

/-- So is white space before items and before members. -/
theorem readItems_skipSpace (steps : Nat) (input : List Char) :
    readItems steps (skipSpace input) = readItems steps input := by
  cases steps with
  | zero => rfl
  | succ steps => rw [readItems, readItems, readValue_skipSpace]

/-- White space before the members of an object is passed over. -/
theorem readMembers_skipSpace (steps : Nat) (input : List Char) :
    readMembers steps (skipSpace input) = readMembers steps input := by
  cases steps with
  | zero => rfl
  | succ steps => rw [readMembers, readMembers, skipSpace_skipSpace]

/-- The members of an object behind a gap are read as they are without the gap. -/
theorem IsGap.readMembers {gap : List Char} (space : IsGap gap) (steps : Nat) (input : List Char) :
    readMembers steps (gap ++ input) = Written.readMembers steps input := by
  rw [← readMembers_skipSpace, space.skipSpace, readMembers_skipSpace]

/-- No items start with a closing bracket, and no members with a closing brace. -/
theorem readItems_bracket (steps : Nat) (rest : List Char) :
    readItems steps (']' :: rest) = none := by
  cases steps with
  | zero => rfl
  | succ steps => cases steps <;> rfl

/-- No member begins with the brace that closes an object. -/
theorem readMembers_brace (steps : Nat) (rest : List Char) :
    readMembers steps ('\x7d' :: rest) = none := by
  cases steps <;> rfl

variable {steps : Nat} {input rest next after : List Char}

/-- What begins with a quotation mark is read as a text. -/
theorem readValue_quote (steps : Nat) (input : List Char) :
    readValue (steps + 1) ('"' :: input) =
      (readText input).map fun (pieces, rest) => (.text pieces, rest) := rfl

/-- Items that are read up to their bracket are read as an array. -/
theorem readValue_array {items : List Written} (read : readItems steps input = some (items, rest)) :
    readValue (steps + 1) ('[' :: input) = some (.array items, rest) := by
  have passed : skipSpace ('[' :: input) = '[' :: input := rfl
  rw [← readItems_skipSpace] at read
  rw [readValue, passed]
  simp only
  split
  · rename_i closed
    rw [closed, readItems_bracket] at read
    cases read
  · rw [read, Option.map_some]

/-- Members that are read up to their brace are read as an object. -/
theorem readValue_object {members : List (WrittenText × Written)}
    (read : readMembers steps input = some (members, rest)) :
    readValue (steps + 1) ('\x7b' :: input) = some (.object members, rest) := by
  have passed : skipSpace ('\x7b' :: input) = '\x7b' :: input := rfl
  rw [← readMembers_skipSpace] at read
  rw [readValue, passed]
  simp only
  split
  · rename_i closed
    rw [closed, readMembers_brace] at read
    cases read
  · rw [read, Option.map_some]

/-- The last item stands before the bracket. -/
theorem readItems_last {item : Written} (read : readValue steps input = some (item, rest))
    (closed : skipSpace rest = ']' :: after) :
    readItems (steps + 1) input = some ([item], after) := by
  rw [readItems, read]
  simp [closed]

/-- Any other item stands before a comma. -/
theorem readItems_next {item : Written} {items : List Written}
    (read : readValue steps input = some (item, rest)) (comma : skipSpace rest = ',' :: next)
    (others : readItems steps next = some (items, after)) :
    readItems (steps + 1) input = some (item :: items, after) := by
  rw [readItems, read]
  simp [comma, others]

/-- A member is read from the quote of its name on; its value is behind the colon. -/
theorem readMembers_last {name : WrittenText} {item : Written} {afterName : List Char}
    (named : readText next = some (name, ':' :: afterName))
    (read : readValue steps afterName = some (item, rest))
    (closed : skipSpace rest = '\x7d' :: after) :
    readMembers (steps + 1) ('"' :: next) = some ([(name, item)], after) := by
  have quote : skipSpace ('"' :: next) = '"' :: next := rfl
  have colon : skipSpace (':' :: afterName) = ':' :: afterName := rfl
  rw [readMembers, quote]
  simp [named, colon, read, closed]

/-- A member with a comma after it is followed by the other members. -/
theorem readMembers_next {name : WrittenText} {item : Written} {afterName others : List Char}
    {members : List (WrittenText × Written)}
    (named : readText next = some (name, ':' :: afterName))
    (read : readValue steps afterName = some (item, rest)) (comma : skipSpace rest = ',' :: others)
    (othersRead : readMembers steps others = some (members, after)) :
    readMembers (steps + 1) ('"' :: next) = some ((name, item) :: members, after) := by
  have quote : skipSpace ('"' :: next) = '"' :: next := rfl
  have colon : skipSpace (':' :: afterName) = ':' :: afterName := rfl
  rw [readMembers, quote]
  simp [named, colon, read, comma, othersRead]

/-- A text from which a document is read wherever it stands, if there are two steps for each of
its characters and what stands behind it does not go on with a number. -/
def ReadsAs (text : List Char) (document : Written) : Prop :=
  ∀ steps rest, 2 * text.length ≤ steps + 1 → Stops rest →
    readValue steps (text ++ rest) = some (document, rest)

/-- In particular it is read as a whole text. -/
theorem ReadsAs.read? {text : List Char} {document : Written} (reads : ReadsAs text document) :
    Written.read? text = some document := by
  have ended : Stops [] := fun _ front => by cases front
  have read := reads (2 * text.length + 1) [] (by omega) ended
  rw [List.append_nil] at read
  rw [Written.read?, read]
  rfl

/-- A text that is not empty leaves a step for the value itself. -/
theorem readsAs_of_succ {text : List Char} {document : Written} (nonempty : text ≠ [])
    (reads : ∀ steps rest, 2 * text.length ≤ steps + 2 → Stops rest →
      readValue (steps + 1) (text ++ rest) = some (document, rest)) : ReadsAs text document := by
  intro steps rest enough stops
  have positive := List.length_pos_of_ne_nil nonempty
  obtain ⟨fewer, rfl⟩ := Nat.exists_eq_add_one_of_ne_zero (show steps ≠ 0 by omega)
  exact reads fewer rest enough stops

/-- The word for null is read as such. -/
theorem readsAs_null : ReadsAs ['n', 'u', 'l', 'l'] .null :=
  readsAs_of_succ (by decide) fun _ _ _ _ => rfl

/-- The word for true is read as such. -/
theorem readsAs_true : ReadsAs ['t', 'r', 'u', 'e'] (.bool true) :=
  readsAs_of_succ (by decide) fun _ _ _ _ => rfl

/-- The word for false is read as such. -/
theorem readsAs_false : ReadsAs ['f', 'a', 'l', 's', 'e'] (.bool false) :=
  readsAs_of_succ (by decide) fun _ _ _ _ => rfl

/-- A number starts with its sign or a digit. -/
theorem exists_front {number : WrittenNumber} (wellFormed : number.WellFormed) :
    ∃ first others, number.spell = first :: others ∧ (first = '-' ∨ first.isDigit = true) := by
  obtain ⟨first, others, digits, isDigit⟩ := wellFormed.whole.exists_cons
  cases sign : number.negative with
  | true => exact ⟨_, _, by rw [WrittenNumber.spell, sign]; rfl, .inl rfl⟩
  | false => exact ⟨first, _, by rw [WrittenNumber.spell, sign, digits]; rfl, .inr isDigit⟩

/-- A number is read as it is written. -/
theorem readsAs_number {number : WrittenNumber} (wellFormed : number.WellFormed) :
    ReadsAs number.spell (.number number) := by
  obtain ⟨first, others, text, front⟩ := exists_front wellFormed
  refine readsAs_of_succ (text ▸ List.cons_ne_nil first others) fun steps rest _ stops => ?_
  have read := readNumber_spell wellFormed stops
  -- No white space and no value of another form starts like a number.
  have different : ∀ other ∈ [' ', '\n', '\t', '\r', 'n', 't', 'f', '"', '[', '\x7b'],
      first ≠ other := by
    have unfit : [' ', '\n', '\t', '\r', 'n', 't', 'f', '"', '[', '\x7b'].all
        (fun other => other ≠ '-' && !other.isDigit) = true := by decide
    rintro other listed rfl
    have neither := List.all_eq_true.mp unfit first listed
    rcases front with rfl | isDigit
    · cases neither
    · simp [isDigit] at neither
  have passed : skipSpace (first :: (others ++ rest)) = first :: (others ++ rest) := by
    have unspaced : isSpace first = false := by simp [isSpace, different]
    rw [skipSpace, List.dropWhile_cons, unspaced, if_neg Bool.false_ne_true]
  rw [text, List.cons_append] at read ⊢
  rw [readValue, passed]
  split
  iterate 6
    rename_i same
    exact absurd (List.cons.inj same).1 (different _ (by decide))
  rw [read, Option.map_some]

/-- A quoted text is read as its pieces. -/
theorem readsAs_text (value : String) :
    ReadsAs (Json.spellText value) (.text (value.toList.map pieceOf)) := by
  refine readsAs_of_succ (by simp [Json.spellText]) fun steps rest _ _ => ?_
  have text : Json.spellText value ++ rest =
      '"' :: (value.toList.flatMap Json.spellCharacter ++ '"' :: rest) := by
    simp [Json.spellText]
  rw [text, readValue_quote, readText_spell, Option.map_some]

/-- White space does not go on with a number, and neither does what stands between values. -/
theorem IsGap.stops {gap rest : List Char} (space : IsGap gap) (stops : Stops rest) :
    Stops (gap ++ rest) := by
  cases gap with
  | nil => exact stops
  | cons first others =>
    have isSpace := space first List.mem_cons_self
    simp only [Written.isSpace, Bool.or_eq_true, decide_eq_true_eq] at isSpace
    intro character front
    obtain rfl := Option.some.inj front
    rcases isSpace with ((rfl | rfl) | rfl) | rfl <;> decide

/-- A number ends before a comma. -/
theorem stops_comma (rest : List Char) : Stops (',' :: rest) := by
  intro character front
  obtain rfl := Option.some.inj front
  decide

/-- A number ends before the bracket that closes an array. -/
theorem stops_bracket (rest : List Char) : Stops (']' :: rest) := by
  intro character front
  obtain rfl := Option.some.inj front
  decide

/-- A number ends before the brace that closes an object. -/
theorem stops_brace (rest : List Char) : Stops ('\x7d' :: rest) := by
  intro character front
  obtain rfl := Option.some.inj front
  decide

/-- A text from which a document is read is not empty. -/
theorem ReadsAs.ne_nil {text : List Char} {document : Written} (reads : ReadsAs text document) :
    text ≠ [] := by
  rintro rfl
  cases reads 0 [] (Nat.zero_le 1) fun _ front => by cases front

/-- White space before a document is passed over. -/
theorem ReadsAs.behind {gap text : List Char} {document : Written} (reads : ReadsAs text document)
    (space : IsGap gap) : ReadsAs (gap ++ text) document := by
  intro steps rest enough stops
  rw [List.length_append] at enough
  rw [List.append_assoc, space.readValue]
  exact reads steps rest (by omega) stops

/-- Items with commas between them are read in turn, up to the bracket. -/
theorem readItems_intercalate {texts : List (List Char)} {documents : List Written}
    (each : List.Forall₂ ReadsAs texts documents) (nonempty : texts ≠ []) {gap : List Char}
    (space : IsGap gap) (rest : List Char)
    (enough : 2 * ([','].intercalate texts).length ≤ steps) :
    readItems steps ([','].intercalate texts ++ (gap ++ ']' :: rest)) = some (documents, rest) := by
  induction each generalizing steps with
  | nil => exact absurd rfl nonempty
  | @cons text document others otherDocuments first restEach inductionHypothesis =>
    have positive := List.length_pos_of_ne_nil first.ne_nil
    cases others with
    | nil =>
      cases restEach
      rw [List.intercalate_singleton] at enough ⊢
      obtain ⟨fewer, rfl⟩ := Nat.exists_eq_add_one_of_ne_zero (show steps ≠ 0 by omega)
      have read := first fewer _ (by omega) (space.stops (stops_bracket rest))
      exact readItems_last read (space.skipSpace _)
    | cons second remaining =>
      rw [List.intercalate_cons_cons] at enough ⊢
      simp only [List.length_append, List.length_singleton] at enough
      obtain ⟨fewer, rfl⟩ := Nat.exists_eq_add_one_of_ne_zero (show steps ≠ 0 by omega)
      have remainingRead : readItems fewer _ = _ :=
        inductionHypothesis (List.cons_ne_nil second remaining) (by omega)
      have read := first fewer _ (by omega) (stops_comma
        ([','].intercalate (second :: remaining) ++ (gap ++ ']' :: rest)))
      rw [List.append_assoc, List.append_assoc, List.singleton_append]
      exact readItems_next read rfl remainingRead

/-- A text from which a member is read: its name is quoted and spelled by the pieces, and its
document is read from what stands behind the colon. -/
def MemberReads (text : List Char) (member : WrittenText × Written) : Prop :=
  ∃ (gap : List Char) (name : String) (behind : List Char), IsGap gap ∧
    text = gap ++ (Json.spellText name ++ ':' :: behind) ∧
    member.1 = name.toList.map pieceOf ∧ ReadsAs behind member.2

/-- Members with commas between them are read in turn, up to the brace. -/
theorem readMembers_intercalate {texts : List (List Char)} {members : List (WrittenText × Written)}
    (each : List.Forall₂ MemberReads texts members) (nonempty : texts ≠ []) {gap : List Char}
    (space : IsGap gap) (rest : List Char)
    (enough : 2 * ([','].intercalate texts).length ≤ steps) :
    readMembers steps ([','].intercalate texts ++ (gap ++ '\x7d' :: rest)) =
      some (members, rest) := by
  induction each generalizing steps with
  | nil => exact absurd rfl nonempty
  | @cons text member others otherMembers first restEach inductionHypothesis =>
    obtain ⟨pieces, document⟩ := member
    obtain ⟨before, name, behind, beforeSpace, rfl, rfl, reads⟩ := first
    change ReadsAs behind document at reads
    have named (after : List Char) := readText_spell name.toList (':' :: after)
    cases others with
    | nil =>
      cases restEach
      rw [List.intercalate_singleton] at enough ⊢
      simp only [List.length_append, List.length_cons] at enough
      obtain ⟨fewer, rfl⟩ := Nat.exists_eq_add_one_of_ne_zero (show steps ≠ 0 by omega)
      have read := reads fewer _ (by omega) (space.stops (stops_brace rest))
      simp only [List.append_assoc, Json.spellText, List.cons_append, List.nil_append]
      rw [beforeSpace.readMembers]
      exact readMembers_last (named _) read (space.skipSpace _)
    | cons second remaining =>
      rw [List.intercalate_cons_cons] at enough ⊢
      simp only [List.length_append, List.length_cons] at enough
      obtain ⟨fewer, rfl⟩ := Nat.exists_eq_add_one_of_ne_zero (show steps ≠ 0 by omega)
      have remainingRead : readMembers fewer _ = _ :=
        inductionHypothesis (List.cons_ne_nil second remaining) (by omega)
      have read := reads fewer _ (by omega) (stops_comma
        ([','].intercalate (second :: remaining) ++ (gap ++ '\x7d' :: rest)))
      simp only [List.append_assoc, Json.spellText, List.cons_append, List.nil_append]
      rw [beforeSpace.readMembers]
      exact readMembers_next (named _) read rfl remainingRead

/-- Items in brackets are read as an array. -/
theorem readsAs_array {texts : List (List Char)} {documents : List Written}
    (each : List.Forall₂ ReadsAs texts documents) (nonempty : texts ≠ []) {gap : List Char}
    (space : IsGap gap) :
    ReadsAs (['['] ++ [','].intercalate texts ++ gap ++ [']']) (.array documents) := by
  refine readsAs_of_succ (List.cons_ne_nil _ _) fun steps rest enough _ => ?_
  simp only [List.length_append, List.length_singleton] at enough
  have read : readItems steps _ = _ := readItems_intercalate each nonempty space rest (by omega)
  simp only [List.append_assoc, List.singleton_append]
  exact readValue_array read

/-- Members in braces are read as an object. -/
theorem readsAs_object {texts : List (List Char)} {members : List (WrittenText × Written)}
    (each : List.Forall₂ MemberReads texts members) (nonempty : texts ≠ []) {gap : List Char}
    (space : IsGap gap) :
    ReadsAs (['\x7b'] ++ [','].intercalate texts ++ gap ++ ['\x7d']) (.object members) := by
  refine readsAs_of_succ (List.cons_ne_nil _ _) fun steps rest enough _ => ?_
  simp only [List.length_append, List.length_singleton] at enough
  have read : readMembers steps _ = _ :=
    readMembers_intercalate each nonempty space rest (by omega)
  simp only [List.append_assoc, List.singleton_append]
  exact readValue_object read

/-- The pieces of a text are read as the text. -/
theorem value?_pieces (text : String) :
    WrittenText.value? (text.toList.map pieceOf) = some text := by
  rw [WrittenText.value?, characters?_pieces, Option.map_some, String.ofList_toList]

/-- A document is made a value item by item and member by member. -/
theorem values?_eq_mapM (room : Nat) (items : List Written) :
    values? room items = items.mapM (value? room) := by
  induction items with
  | nil => rfl
  | cons item rest inductionHypothesis =>
    rw [values?, inductionHypothesis, List.mapM_cons]

/-- The members of an object are read one by one, each with its name. -/
theorem members?_eq_mapM (room : Nat) (members : List (WrittenText × Written)) :
    members? room members = members.mapM fun member =>
      member.1.value?.bind fun name => (value? room member.2).map (name, ·) := by
  induction members with
  | nil => rfl
  | cons member rest inductionHypothesis =>
    rw [members?, inductionHypothesis, List.mapM_cons]
    simp [Option.bind_assoc, Option.bind_map]

end Written

/-- The document that is read from the text of a numeral. -/
def Numeral.document (numeral : Numeral) : Written :=
  match Written.readNumber numeral.spell with
  | some (number, _) => .number number
  | none => .null

/-- The document of a numeral is the number that is spelled as it is. -/
theorem Numeral.document_of_spell {numeral : Numeral} {number : WrittenNumber}
    (spelled : number.spell = numeral.spell) (wellFormed : number.WellFormed) :
    numeral.document = .number number := by
  have ended : Stops [] := fun _ front => by cases front
  have read := Written.readNumber_spell wellFormed ended
  rw [List.append_nil, spelled] at read
  rw [document, read]

/-- Where a numeral is spelled as null, its document is null. -/
theorem Numeral.document_of_null {numeral : Numeral}
    (spelled : numeral.spell = ['n', 'u', 'l', 'l']) : numeral.document = .null := by
  rw [document, spelled]
  rfl

/-- What a numeral spells is read as its document. -/
theorem Numeral.readsAs_document (numeral : Numeral) :
    Written.ReadsAs numeral.spell numeral.document := by
  rcases numeral.exists_written with ⟨spelled, -⟩ | ⟨number, spelled, wellFormed, -⟩
  · rw [document_of_null spelled, spelled]
    exact Written.readsAs_null
  · rw [document_of_spell spelled wellFormed, ← spelled]
    exact Written.readsAs_number wellFormed

namespace Json

/-- Induction over the items and the members of a value. -/
theorem induction {motive : Json → Prop} (null : motive .null)
    (bool : ∀ value, motive (.bool value)) (number : ∀ numeral, motive (.number numeral))
    (text : ∀ value, motive (.text value))
    (array : ∀ items, (∀ item ∈ items, motive item) → motive (.array items))
    (object : ∀ members, (∀ member ∈ members, motive member.2) → motive (.object members))
    (value : Json) : motive value :=
  @Json.rec motive (fun items => ∀ item ∈ items, motive item)
    (fun members => ∀ member ∈ members, motive member.2) (fun member => motive member.2)
    null bool number text array object
    (fun _ member => by cases member)
    (fun _ _ first others => List.forall_mem_cons.mpr ⟨first, others⟩)
    (fun _ member => by cases member)
    (fun _ _ first others => List.forall_mem_cons.mpr ⟨first, others⟩)
    (fun _ _ item => item) value

mutual

/-- The document that is read from the text of a value. -/
def document : Json → Written
  | .null => .null
  | .bool value => .bool value
  | .number numeral => numeral.document
  | .text value => .text (value.toList.map WrittenText.pieceOf)
  | .array items => .array (documents items)
  | .object members => .object (memberDocuments members)
termination_by structural value => value

/-- The documents of the items of an array. -/
def documents : List Json → List Written
  | [] => []
  | item :: rest => document item :: documents rest
termination_by structural items => items

/-- The documents of the members of an object, with the pieces of their names. -/
def memberDocuments : List (String × Json) → List (WrittenText × Written)
  | [] => []
  | (name, item) :: rest =>
    (name.toList.map WrittenText.pieceOf, document item) :: memberDocuments rest
termination_by structural members => members

end

/-- The document of an array is that of each of its items. -/
theorem document_array (items : List Json) :
    document (.array items) = .array (items.map document) := by
  have each : documents items = items.map document := by
    induction items with
    | nil => rfl
    | cons item rest inductionHypothesis => rw [documents, inductionHypothesis, List.map_cons]
  rw [document, each]

/-- The document of an object is that of each of its members, under the same names. -/
theorem document_object (members : List (String × Json)) :
    document (.object members) = .object (members.map fun member =>
      (member.1.toList.map WrittenText.pieceOf, document member.2)) := by
  have each : memberDocuments members = members.map fun member =>
      (member.1.toList.map WrittenText.pieceOf, document member.2) := by
    induction members with
    | nil => rfl
    | cons member rest inductionHypothesis =>
      rw [memberDocuments, inductionHypothesis, List.map_cons]
  rw [document, each]

/-- Texts that are put together one by one, with commas between them. -/
theorem eq_intercalate {α : Type} {together : List α → List Char} {text : α → List Char}
    (none : together [] = []) (one : ∀ item, together [item] = text item)
    (more : ∀ item second others, together (item :: second :: others) =
      text item ++ [','] ++ together (second :: others)) (items : List α) :
    together items = [','].intercalate (items.map text) := by
  induction items with
  | nil => exact none
  | cons item rest inductionHypothesis =>
    cases rest with
    | nil => rw [one, List.map_singleton, List.intercalate_singleton]
    | cons second others =>
      rw [more, inductionHypothesis]
      exact List.intercalate_cons_cons.symm

/-- Items are spelled one by one, with commas between them. -/
theorem spellItems_eq (items : List Json) :
    spellItems items = [','].intercalate (items.map spell) :=
  eq_intercalate rfl (fun _ => rfl) (fun _ _ _ => rfl) items

/-- Items are laid out on lines of their own. -/
theorem layOutItems_eq (level : Nat) (items : List Json) :
    layOutItems level items =
      [','].intercalate (items.map fun item => newLine level ++ layOut level item) :=
  eq_intercalate rfl (fun _ => rfl) (fun _ _ _ => rfl) items

/-- Members are spelled as a name, a colon and a value each, with commas between them. -/
theorem spellMembers_eq (members : List (String × Json)) :
    spellMembers members = [','].intercalate (members.map fun member =>
      spellText member.1 ++ ':' :: spell member.2) :=
  eq_intercalate rfl (fun _ => by simp [spellMembers]) (fun _ _ _ => by simp [spellMembers]) members

/-- Members are laid out on lines of their own, with a space behind the colon. -/
theorem layOutMembers_eq (level : Nat) (members : List (String × Json)) :
    layOutMembers level members = [','].intercalate (members.map fun member =>
      newLine level ++ (spellText member.1 ++ ':' :: ([' '] ++ layOut level member.2))) :=
  eq_intercalate rfl (fun _ => by simp [layOutMembers]) (fun _ _ _ => by simp [layOutMembers])
    members

/-- Where the texts of items are read as their documents, an array of them is. -/
theorem readsAs_items {items : List Json} {text : Json → List Char}
    (each : ∀ item ∈ items, Written.ReadsAs (text item) item.document) (nonempty : items ≠ [])
    {gap : List Char} (space : Written.IsGap gap) :
    Written.ReadsAs (['['] ++ [','].intercalate (items.map text) ++ gap ++ [']'])
      (document (.array items)) := by
  rw [document_array]
  refine Written.readsAs_array ?_ (mt List.map_eq_nil_iff.mp nonempty) space
  rw [List.forall₂_map_left_iff, List.forall₂_map_right_iff, List.forall₂_same]
  exact each

/-- So is an object where the documents are read from what stands behind the names. -/
theorem readsAs_members {members : List (String × Json)} {before : List Char}
    {text : String × Json → List Char}
    (each : ∀ member ∈ members, Written.ReadsAs (text member) member.2.document)
    (beforeSpace : Written.IsGap before) (nonempty : members ≠ [])
    {gap : List Char} (space : Written.IsGap gap) :
    Written.ReadsAs (['\x7b'] ++ [','].intercalate (members.map fun member =>
        before ++ (spellText member.1 ++ ':' :: text member)) ++ gap ++ ['\x7d'])
      (document (.object members)) := by
  rw [document_object]
  refine Written.readsAs_object ?_ (mt List.map_eq_nil_iff.mp nonempty) space
  rw [List.forall₂_map_left_iff, List.forall₂_map_right_iff, List.forall₂_same]
  exact fun member listed => ⟨before, member.1, _, beforeSpace, rfl, rfl, each member listed⟩

/-- In either form the text of a value is read as its document. -/
theorem readsAs_document (value : Json) :
    Written.ReadsAs value.spell value.document ∧
      ∀ level, Written.ReadsAs (layOut level value) value.document := by
  induction value using Json.induction with
  | null => exact ⟨Written.readsAs_null, fun _ => Written.readsAs_null⟩
  | bool value =>
    cases value with
    | false => exact ⟨Written.readsAs_false, fun _ => Written.readsAs_false⟩
    | true => exact ⟨Written.readsAs_true, fun _ => Written.readsAs_true⟩
  | number numeral => exact ⟨numeral.readsAs_document, fun _ => numeral.readsAs_document⟩
  | text value => exact ⟨Written.readsAs_text value, fun _ => Written.readsAs_text value⟩
  | array items inductionHypothesis =>
    cases items with
    | nil =>
      have closed : Written.ReadsAs ['[', ']'] (.array []) :=
        Written.readsAs_of_succ (by decide) fun _ _ _ _ => rfl
      exact ⟨closed, fun _ => closed⟩
    | cons first others =>
      refine ⟨?_, fun level => ?_⟩
      · have read := readsAs_items (fun item member => (inductionHypothesis item member).1)
          (List.cons_ne_nil first others) Written.isGap_nil
        rwa [← spellItems_eq, List.append_nil] at read
      · have read := readsAs_items
          (fun item member => ((inductionHypothesis item member).2 (level + 1)).behind
            (Written.isGap_newLine (level + 1)))
          (List.cons_ne_nil first others) (Written.isGap_newLine level)
        rwa [← layOutItems_eq] at read
  | object members inductionHypothesis =>
    cases members with
    | nil =>
      have closed : Written.ReadsAs ['\x7b', '\x7d'] (.object []) :=
        Written.readsAs_of_succ (by decide) fun _ _ _ _ => rfl
      exact ⟨closed, fun _ => closed⟩
    | cons first others =>
      refine ⟨?_, fun level => ?_⟩
      · have read := readsAs_members (fun member listed => (inductionHypothesis member listed).1)
          Written.isGap_nil (List.cons_ne_nil first others) Written.isGap_nil
        simp only [List.nil_append] at read
        rwa [← spellMembers_eq, List.append_nil] at read
      · have read := readsAs_members
          (fun member listed => ((inductionHypothesis member listed).2 (level + 1)).behind
            Written.isGap_space)
          (Written.isGap_newLine (level + 1)) (List.cons_ne_nil first others)
          (Written.isGap_newLine level)
        rwa [← layOutMembers_eq] at read

/-- The document of a value is read from either text of it. -/
theorem read?_document {value : Json} {text : String}
    (written : text ∈ [value.toText, value.toLines]) :
    Written.read? text.toList = some value.document := by
  rcases List.mem_pair.mp written with rfl | rfl
  · rw [toText, String.toList_ofList]
    exact value.readsAs_document.1.read?
  · rw [toLines, String.toList_ofList]
    exact (value.readsAs_document.2 0).read?

/-- A value that can be written, given how deep its arrays and objects may be nested: its numbers
can be written, and every object has the entries of a map. -/
inductive Legible : Nat → Json → Prop where
  | null {room : Nat} : Legible room .null
  | bool {room : Nat} (value : Bool) : Legible room (.bool value)
  | number {room : Nat} {numeral : Numeral} (legible : numeral.Legible) :
    Legible room (.number numeral)
  | text {room : Nat} (value : String) : Legible room (.text value)
  | array {room : Nat} {items : List Json} (each : ∀ item ∈ items, Legible room item) :
    Legible (room + 1) (.array items)
  | object {room : Nat} {map : NameMap Json} (each : ∀ entry ∈ map.entries, Legible room entry.2) :
    Legible (room + 1) (.ofMap map)

/-- A value that can be written is the value of its document. -/
theorem Legible.value?_document {room : Nat} {value : Json} (legible : Legible room value) :
    value.document.value? room = some value := by
  induction legible with
  | null => rfl
  | bool value => rfl
  | @number _ numeral legible =>
    rcases numeral.exists_written with ⟨-, unwritten, -⟩ | ⟨number, spelled, wellFormed, read, -⟩
    · exact absurd legible unwritten
    · rw [document, Numeral.document_of_spell spelled wellFormed, Written.value?, read legible,
        Option.map_some]
  | text value => rw [document, Written.value?, Written.value?_pieces, Option.map_some]
  | @array room items _ inductionHypothesis =>
    have values : Written.values? room (items.map document) = some items := by
      rw [Written.values?_eq_mapM, List.mapM_map]
      exact (Checks.mapM_eq_some_map inductionHypothesis).trans (congrArg some (List.map_id items))
    rw [document_array, Written.value?, values, Option.map_some]
  | @object room map _ inductionHypothesis =>
    have members : Written.members? room (map.entries.map fun entry =>
        (entry.1.toList.map WrittenText.pieceOf, document entry.2)) = some map.entries := by
      rw [Written.members?_eq_mapM, List.mapM_map]
      refine (Checks.mapM_eq_some_map fun entry member => ?_).trans
        (congrArg some (List.map_id map.entries))
      simp [Written.value?_pieces, inductionHypothesis entry member]
    rw [ofMap, document_object, Written.value?, members, Option.map_some, ofMembers,
      NameMap.ofList_entries]
    rfl

/-- A value that can be written is read back from its lines. -/
theorem read?_toLines {value : Json} (legible : Legible deepest value) :
    read? value.toLines = some value := by
  rw [read?, read?_document (by simp : value.toLines ∈ [value.toText, value.toLines])]
  exact legible.value?_document

/-- A value that a reader holds, given how deep its arrays and objects may be nested: its numbers
are in range. -/
inductive Fits : Nat → Json → Prop where
  | null {room : Nat} : Fits room .null
  | bool {room : Nat} (value : Bool) : Fits room (.bool value)
  | number {room : Nat} {numeral : Numeral} (inRange : numeral.InRange) :
    Fits room (.number numeral)
  | text {room : Nat} (value : String) : Fits room (.text value)
  | array {room : Nat} {items : List Json} (each : ∀ item ∈ items, Fits room item) :
    Fits (room + 1) (.array items)
  | object {room : Nat} {members : List (String × Json)}
    (each : ∀ member ∈ members, Fits room member.2) : Fits (room + 1) (.object members)

/-- A number takes no room, but has to be in range. -/
theorem fits_number_iff {room : Nat} {numeral : Numeral} :
    Fits room (.number numeral) ↔ numeral.InRange :=
  ⟨fun fits => by cases fits with | number inRange => exact inRange, .number⟩

/-- An array takes one level of nesting, and so leaves one less for its items. -/
theorem fits_array_iff {room : Nat} {items : List Json} :
    Fits (room + 1) (.array items) ↔ ∀ item ∈ items, Fits room item :=
  ⟨fun fits => by cases fits with | array each => exact each, .array⟩

/-- An object takes one level as well. -/
theorem fits_object_iff {room : Nat} {members : List (String × Json)} :
    Fits (room + 1) (.object members) ↔ ∀ member ∈ members, Fits room member.2 :=
  ⟨fun fits => by cases fits with | object each => exact each, .object⟩

/-- The document of a value has a value exactly when a reader holds it. -/
theorem value?_document_isSome_iff {room : Nat} {value : Json} :
    (value.document.value? room).isSome = true ↔ Fits room value := by
  induction value using Json.induction generalizing room with
  | null => exact iff_of_true rfl .null
  | bool value => exact iff_of_true rfl (.bool value)
  | number numeral =>
    rw [fits_number_iff, document]
    rcases numeral.exists_written with
      ⟨spelled, -, inRange⟩ | ⟨number, spelled, wellFormed, -, held⟩
    · rw [Numeral.document_of_null spelled]
      exact iff_of_true rfl inRange
    · rw [Numeral.document_of_spell spelled wellFormed, Written.value?, Option.isSome_map, held]
  | text value =>
    rw [document, Written.value?, Written.value?_pieces]
    exact iff_of_true rfl (.text value)
  | array items inductionHypothesis =>
    rw [document_array]
    cases room with
    | zero => exact iff_of_false Bool.false_ne_true nofun
    | succ room =>
      rw [Written.value?, Option.isSome_map, Written.values?_eq_mapM, List.mapM_map,
        Checks.mapM_isSome_iff, fits_array_iff]
      exact forall₂_congr fun item member => inductionHypothesis item member
  | object members inductionHypothesis =>
    rw [document_object]
    cases room with
    | zero => exact iff_of_false Bool.false_ne_true nofun
    | succ room =>
      rw [Written.value?, Option.isSome_map, Written.members?_eq_mapM, List.mapM_map,
        Checks.mapM_isSome_iff, fits_object_iff]
      refine forall₂_congr fun member listed => ?_
      rw [Function.comp_apply, Written.value?_pieces, Option.bind_some, Option.isSome_map]
      exact inductionHypothesis member listed

/-- A text, null, a whole number of sixty-four bits, or a finite value. -/
def IsPlain : Json → Prop
  | .null => True
  | .text _ => True
  | .number numeral => numeral.Legible
  | _ => False

instance : DecidablePred IsPlain
  | .null => inferInstanceAs (Decidable True)
  | .text _ => inferInstanceAs (Decidable True)
  | .number numeral => inferInstanceAs (Decidable numeral.Legible)
  | .bool _ => inferInstanceAs (Decidable False)
  | .array _ => inferInstanceAs (Decidable False)
  | .object _ => inferInstanceAs (Decidable False)

/-- A value that holds no others can be written. -/
theorem IsPlain.legible {value : Json} (plain : value.IsPlain) (room : Nat) :
    Legible room value := by
  cases value with
  | null => exact .null
  | text value => exact .text value
  | number numeral => exact .number plain
  | bool => exact plain.elim
  | array => exact plain.elim
  | object => exact plain.elim

/-- Nor does anything keep a reader from holding it. -/
theorem IsPlain.fits {value : Json} (plain : value.IsPlain) (room : Nat) : value.Fits room := by
  rw [← value?_document_isSome_iff, (plain.legible room).value?_document]
  rfl

end Json

namespace Report

/-- A report as JSON is read back as its rows, in their order, each with its names and values: a
whole number is read back as a whole number, and any other number as the same value. A report
without rows is an empty array. -/
theorem json_readable {rows : List (NameMap Json)}
    (plain : ∀ row ∈ rows, ∀ value ∈ row.values, value.IsPlain) :
    Json.read? (json rows) = some (.array (rows.map Json.ofMap)) ∧ json [] = "[]" := by
  refine ⟨Json.read?_toLines (.array fun item member => ?_), rfl⟩
  obtain ⟨row, inRows, rfl⟩ := List.mem_map.mp member
  refine .object fun entry inRow => ?_
  have isPlain := plain row inRows entry.2 (List.mem_map_of_mem inRow)
  exact isPlain.legible _

/-- Rows with a quote in a name, a control character and a line feed in a text, a whole number and
a value at the same place of the number line, null, and no value at all. -/
def sampleRows : List (NameMap Json) := [
  .ofList [("say \"hi\"", .text "\x01\n"), ("whole", .number (.integer (-7)))],
  .empty,
  .ofList [("", .null), ("real", .number (.real (.ofInt (-7))))]]

/-- The rows are read back from their escaped text. -/
theorem sampleRows_readable :
    json sampleRows = "\n".intercalate [
      "[",
      "  \x7b",
      "    \"say \\\"hi\\\"\": \"\\u0001\\n\",",
      "    \"whole\": -7",
      "  \x7d,",
      "  \x7b\x7d,",
      "  \x7b",
      "    \"\": null,",
      "    \"real\": -7.0",
      "  \x7d",
      "]"] ∧
    Json.read? (json sampleRows) = some (.array (sampleRows.map Json.ofMap)) :=
  ⟨by decide +kernel, (json_readable (by decide +kernel)).1⟩

end Report

end CampusQuery
