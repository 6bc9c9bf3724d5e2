import Mathlib.Data.List.Infix
import CampusQuery.Pattern
import CampusQuery.Proofs.Checks

/-!
# What a pattern matches

The meaning of a pattern is read off its text: a star stands for any text, each star
for one of its own, and every other character for itself. The relation says so for
stars in any position. Reading accepts the patterns with stars at the ends alone, and
for these the comparison with the body decides the relation.
-/

namespace CampusQuery

namespace Pattern

/-- The second text is the first with every star replaced by some text. -/
inductive Fills : List Char → List Char → Prop where
  | done : Fills [] []
  | literal {character : Char} {pattern text : List Char} (plain : character ≠ star)
      (rest : Fills pattern text) : Fills (character :: pattern) (character :: text)
  | filled {filling pattern rest text : List Char} (joined : filling ++ rest = text)
      (matched : Fills pattern rest) : Fills (star :: pattern) text

/-- Decides `Fills`, trying every filling of a star in turn. -/
def fills : List Char → List Char → Bool
  | [], text => text.isEmpty
  | character :: pattern, text =>
    if character = star then text.tails.any (fills pattern)
    else match text with
      | [] => false
      | first :: rest => first == character && fills pattern rest

/-- The function decides whether a text fills a pattern. -/
theorem fills_iff {pattern text : List Char} : fills pattern text = true ↔ Fills pattern text := by
  induction pattern generalizing text with
  | nil =>
    rw [fills, List.isEmpty_iff]
    constructor
    · rintro rfl
      exact .done
    · rintro ⟨⟩
      rfl
  | cons character pattern inductionHypothesis =>
    by_cases starred : character = star
    · subst starred
      simp only [fills, if_true, List.any_eq_true, List.mem_tails, inductionHypothesis]
      constructor
      · rintro ⟨rest, ⟨filling, joined⟩, matched⟩
        exact .filled joined matched
      · intro matched
        cases matched with
        | literal plain _ => exact absurd rfl plain
        | filled joined matched => exact ⟨_, ⟨_, joined⟩, matched⟩
    · cases text with
      | nil =>
        simp only [fills, starred, if_false, Bool.false_eq_true, false_iff]
        intro matched
        cases matched with
        | filled _ _ => exact starred rfl
      | cons first rest =>
        simp only [fills, starred, if_false, Bool.and_eq_true, beq_iff_eq, inductionHypothesis]
        constructor
        · rintro ⟨rfl, matched⟩
          exact .literal starred matched
        · intro matched
          cases matched with
          | literal _ matched => exact ⟨rfl, matched⟩
          | filled _ _ => exact absurd rfl starred

instance (pattern text : List Char) : Decidable (Fills pattern text) :=
  decidable_of_iff _ fills_iff

/-- Without stars a pattern stands for itself, up to where the stars begin. -/
theorem fills_append_iff {body pattern text : List Char} (plain : star ∉ body) :
    Fills (body ++ pattern) text ↔ ∃ rest, body ++ rest = text ∧ Fills pattern rest := by
  induction body generalizing text with
  | nil => simp
  | cons character body inductionHypothesis =>
    rw [List.mem_cons, not_or] at plain
    constructor
    · intro matched
      cases matched with
      | literal _ matched =>
        obtain ⟨rest, rfl, restMatched⟩ := (inductionHypothesis plain.2).mp matched
        exact ⟨rest, rfl, restMatched⟩
      | filled _ _ => exact absurd rfl plain.1
    · rintro ⟨rest, rfl, matched⟩
      exact .literal (Ne.symm plain.1) ((inductionHypothesis plain.2).mpr ⟨rest, rfl, matched⟩)

/-- A star in front leaves open where the rest of the pattern begins. -/
theorem fills_star_iff {pattern text : List Char} :
    Fills (star :: pattern) text ↔ ∃ filling rest, filling ++ rest = text ∧ Fills pattern rest := by
  constructor
  · intro matched
    cases matched with
    | literal plain _ => exact absurd rfl plain
    | filled joined matched => exact ⟨_, _, joined, matched⟩
  · rintro ⟨filling, rest, joined, matched⟩
    exact .filled joined matched

/-- Nothing but the empty text fills the empty pattern. -/
theorem fills_nil_iff {text : List Char} : Fills [] text ↔ text = [] := by
  constructor
  · rintro ⟨⟩
    rfl
  · rintro rfl
    exact .done

/-- A body without stars is filled by itself alone. -/
theorem fills_body_iff {body text : List Char} (plain : star ∉ body) :
    Fills body text ↔ text = body := by
  have whole := @fills_append_iff body [] text plain
  rw [List.append_nil] at whole
  rw [whole]
  constructor
  · rintro ⟨rest, rfl, matched⟩
    rw [fills_nil_iff.mp matched, List.append_nil]
  · rintro rfl
    exact ⟨[], List.append_nil _, .done⟩

/-- A body with a star behind is filled by the texts that begin with it. -/
theorem fills_body_star_iff {body text : List Char} (plain : star ∉ body) :
    Fills (body ++ [star]) text ↔ body <+: text := by
  rw [fills_append_iff plain]
  constructor
  · rintro ⟨rest, joined, -⟩
    exact ⟨rest, joined⟩
  · rintro ⟨rest, joined⟩
    exact ⟨rest, joined, .filled (List.append_nil rest) .done⟩

/-- A pattern as it is written. -/
def written (pattern : Pattern) : List Char :=
  (if pattern.leading then [star] else []) ++
    (pattern.body ++ if pattern.trailing then [star] else [])

/-- The part occurs exactly when the text has it between two others. -/
theorem occurs_iff {part text : List Char} : occurs part text = true ↔ part <:+: text := by
  induction text with
  | nil => simp [occurs]
  | cons character rest inductionHypothesis =>
    simp [occurs, List.infix_cons_iff, inductionHypothesis]

/-- A pattern with a plain body accepts exactly the texts that fill its written form. -/
theorem accepts_iff_fills {pattern : Pattern} {text : String} (plain : star ∉ pattern.body) :
    pattern.accepts text = true ↔ Fills pattern.written text.toList := by
  obtain ⟨leading, body, trailing⟩ := pattern
  dsimp only at plain
  cases leading <;> cases trailing
  · simp [accepts, written, fills_body_iff plain]
  · simp [accepts, written, fills_body_star_iff plain]
  · simp only [accepts, written, List.isSuffixOf_iff_suffix, if_true, List.singleton_append,
      Bool.false_eq_true, if_false, List.append_nil, fills_star_iff, fills_body_iff plain]
    constructor
    · rintro ⟨filling, joined⟩
      exact ⟨filling, body, joined, rfl⟩
    · rintro ⟨filling, _, joined, rfl⟩
      exact ⟨filling, joined⟩
  · simp only [accepts, written, occurs_iff, if_true, List.singleton_append, fills_star_iff,
      fills_body_star_iff plain]
    constructor
    · rintro ⟨filling, rest, joined⟩
      exact ⟨filling, body ++ rest, by rw [← joined, List.append_assoc], List.prefix_append ..⟩
    · rintro ⟨filling, _, joined, rest, rfl⟩
      exact ⟨filling, rest, by rw [← joined, List.append_assoc]⟩

/-- Stars stand at the ends of the text alone: whatever star is looked at, nothing is
before it or nothing behind it. -/
def StarsAtEnds (text : List Char) : Prop :=
  ∀ before after, text = before ++ star :: after → before = [] ∨ after = []

/-- A star behind a plain body is the one that the end of the text shows. -/
theorem last_of_plain {body : List Char} (trailing : Bool) (plain : star ∉ body) :
    ((body ++ if trailing then [star] else []).getLast? == some star) = trailing := by
  cases trailing with
  | true => simp
  | false =>
    rw [if_neg Bool.false_ne_true, List.append_nil, beq_eq_false_iff_ne]
    exact fun last => plain (List.mem_of_getLast? last)

/-- Taking off the star that the end of a text shows leaves what was before it. -/
theorem dropLast_append (rest : List Char) :
    (if rest.getLast? == some star then rest.dropLast else rest) ++
      (if rest.getLast? == some star then [star] else []) = rest := by
  split
  · rename_i last
    exact List.dropLast_append_getLast? star (beq_iff_eq.mp last)
  · exact List.append_nil rest

/-- What is read of a text whose star in front, if there is one, is taken off. -/
theorem behind_eq_ok_iff {rest : List Char} {leading : Bool} {cause : Fault} {pattern : Pattern} :
    (if (if rest.getLast? == some star then rest.dropLast else rest).contains star then
      Except.error cause
    else .ok (Pattern.mk leading (if rest.getLast? == some star then rest.dropLast else rest)
      (rest.getLast? == some star))) = .ok pattern ↔
    pattern.leading = leading ∧ star ∉ pattern.body ∧
      rest = pattern.body ++ if pattern.trailing then [star] else [] := by
  constructor
  · intro accepted
    by_cases inner :
        (if rest.getLast? == some star then rest.dropLast else rest).contains star = true
    · rw [if_pos inner] at accepted
      cases accepted
    · rw [if_neg inner] at accepted
      obtain rfl := Except.ok.inj accepted
      refine ⟨rfl, fun member => inner ?_, (dropLast_append rest).symm⟩
      rwa [List.contains_iff_mem]
  · obtain ⟨_, body, trailing⟩ := pattern
    rintro ⟨rfl, plain, rfl⟩
    have kept : (if trailing then (body ++ if trailing then [star] else []).dropLast
        else (body ++ if trailing then [star] else [])) = body := by
      cases trailing <;> simp
    rw [last_of_plain trailing plain, kept]
    simp [plain]

/-- What reading makes of a text: the body is plain, and the text is the written form.
A single star is one in front. -/
theorem read_eq_ok_iff {raw : String} {pattern : Pattern} :
    read raw = .ok pattern ↔ raw.toList = pattern.written ∧ star ∉ pattern.body ∧
      (pattern.trailing = true → pattern.body = [] → pattern.leading = true) := by
  obtain ⟨leading, body, trailing⟩ := pattern
  unfold read
  generalize raw.toList = text
  by_cases front : text.head? = some star
  · obtain ⟨rest, rfl⟩ := List.head?_eq_some_iff.mp front
    simp only [List.head?_cons, beq_self_eq_true, if_true, List.tail_cons, behind_eq_ok_iff]
    cases leading with
    | true => simp [written, and_comm]
    | false =>
      simp only [Bool.false_eq_true, false_and, written, if_false, List.nil_append, imp_false,
        false_iff, not_and]
      intro joined plain noSingle
      cases body with
      | nil =>
        cases trailing with
        | true => exact noSingle rfl rfl
        | false => simp at joined
      | cons first others => exact plain (by simp [List.head_eq_of_cons_eq joined])
  · have notFront : (text.head? == some star) = false := beq_eq_false_iff_ne.mpr front
    simp only [notFront, Bool.false_eq_true, if_false, behind_eq_ok_iff]
    cases leading with
    | true =>
      simp only [Bool.true_eq_false, false_and, written, if_true, List.singleton_append, false_iff,
        not_and]
      rintro rfl
      simp at front
    | false =>
      simp only [written, Bool.false_eq_true, if_false, List.nil_append, true_and, imp_false]
      constructor
      · rintro ⟨plain, rfl⟩
        refine ⟨rfl, plain, ?_⟩
        rintro rfl rfl
        simp at front
      · rintro ⟨rfl, plain, -⟩
        exact ⟨plain, rfl⟩

/-- Behind a plain body there is at most one star, and nothing behind that. -/
theorem nothing_behind {body before after : List Char} {trailing : Bool} (plain : star ∉ body)
    (joined : (body ++ if trailing then [star] else []) = before ++ star :: after) :
    after = [] := by
  induction body generalizing before with
  | nil =>
    cases trailing with
    | true =>
      have lengths := congrArg List.length joined
      simp only [if_true, List.nil_append, List.length_append, List.length_cons,
        List.length_nil] at lengths
      exact List.eq_nil_of_length_eq_zero (by omega)
    | false => simp at joined
  | cons first others inductionHypothesis =>
    rw [List.mem_cons, not_or] at plain
    cases before with
    | nil => exact absurd (List.head_eq_of_cons_eq joined).symm plain.1
    | cons head tail => exact inductionHypothesis plain.2 (List.tail_eq_of_cons_eq joined)

/-- The written form of a pattern with a plain body has its stars at the ends. -/
theorem written_starsAtEnds {pattern : Pattern} (plain : star ∉ pattern.body) :
    StarsAtEnds pattern.written := by
  obtain ⟨leading, body, trailing⟩ := pattern
  intro before after joined
  cases leading with
  | false => exact .inr (nothing_behind plain joined)
  | true =>
    cases before with
    | nil => exact .inl rfl
    | cons head tail => exact .inr (nothing_behind plain (List.tail_eq_of_cons_eq joined))

/-- A star left in the body has something behind it. -/
theorem something_behind {rest : List Char}
    (inner : star ∈ if rest.getLast? == some star then rest.dropLast else rest) :
    ∃ before after, rest = before ++ star :: after ∧ after ≠ [] := by
  obtain ⟨before, after, cut⟩ := List.append_of_mem inner
  have joined := dropLast_append rest
  rw [cut, List.append_assoc, List.cons_append] at joined
  refine ⟨before, _, joined.symm, fun none => ?_⟩
  rw [none] at joined
  have last : (rest.getLast? == some star) = true := by simp [← joined]
  simp [last] at none

/-- Reading accepts exactly the texts whose stars stand at the ends. -/
theorem read_exists_iff {raw : String} :
    (∃ pattern, read raw = .ok pattern) ↔ StarsAtEnds raw.toList := by
  constructor
  · rintro ⟨pattern, accepted⟩
    obtain ⟨joined, plain, -⟩ := read_eq_ok_iff.mp accepted
    exact joined ▸ written_starsAtEnds plain
  · intro atEnds
    unfold read
    generalize raw.toList = text at atEnds
    by_cases front : text.head? = some star
    · obtain ⟨rest, rfl⟩ := List.head?_eq_some_iff.mp front
      simp only [List.head?_cons, beq_self_eq_true, if_true, List.tail_cons, behind_eq_ok_iff]
      refine ⟨⟨true, _, _⟩, rfl, fun inner => ?_, (dropLast_append rest).symm⟩
      obtain ⟨before, after, rfl, more⟩ := something_behind inner
      rcases atEnds (star :: before) after rfl with none | none
      · exact List.cons_ne_nil _ _ none
      · exact more none
    · have notFront : (text.head? == some star) = false := beq_eq_false_iff_ne.mpr front
      simp only [notFront, Bool.false_eq_true, if_false, behind_eq_ok_iff]
      refine ⟨⟨false, _, _⟩, rfl, fun inner => ?_, (dropLast_append text).symm⟩
      obtain ⟨before, after, rfl, more⟩ := something_behind inner
      rcases atEnds before after rfl with rfl | none
      · exact front rfl
      · exact more none

/-- The pattern that is read of a text accepts exactly the texts that fill it. -/
theorem accepts_of_read {raw text : String} {pattern : Pattern}
    (accepted : read raw = .ok pattern) :
    pattern.accepts text = decide (Fills raw.toList text.toList) := by
  obtain ⟨joined, plain, -⟩ := read_eq_ok_iff.mp accepted
  rw [joined, Bool.eq_iff_iff, decide_eq_true_iff]
  exact accepts_iff_fills plain

/-- Reading fails on an inner star alone, and the fault shows the whole text. -/
theorem read_error {raw : String} (inner : ¬StarsAtEnds raw.toList) :
    read raw = .error (.innerStar raw) := by
  refine if_pos ?_
  by_contra plain
  exact inner (read_exists_iff.mp ⟨_, if_neg plain⟩)

/-- A text is a pattern exactly if its stars stand at the ends, and the pattern then
accepts the texts that come of it by putting some text in the place of each star.
A star further in is a fault of its own. -/
theorem read_matches (raw : String) :
    ((∃ pattern, read raw = .ok pattern) ↔ StarsAtEnds raw.toList) ∧
      (¬StarsAtEnds raw.toList → read raw = .error (.innerStar raw)) ∧
      ∀ pattern, read raw = .ok pattern →
        ∀ text : String, pattern.accepts text = true ↔ Fills raw.toList text.toList := by
  refine ⟨read_exists_iff, read_error, ?_⟩
  intro pattern accepted text
  rw [accepts_of_read accepted, decide_eq_true_iff]

/-- A star on either side of a letter beyond the plain ones leaves the letter to be
found anywhere; between two letters a star is refused. -/
theorem stars_placed :
    (∃ pattern, read "*é*" = .ok pattern ∧ pattern.accepts "café au lait" = true ∧
      pattern.accepts "cafe" = false) ∧
    read "a*b" = .error (.innerStar "a*b") := by
  obtain ⟨-, -, decided⟩ := read_matches "*é*"
  have accepts := decided ⟨true, ['é'], true⟩ (by decide)
  have inner : ¬StarsAtEnds "a*b".toList := by
    intro atEnds
    rcases atEnds ['a'] ['b'] (by decide) with none | none
    · exact List.cons_ne_nil _ _ none
    · exact List.cons_ne_nil _ _ none
  refine ⟨⟨⟨true, ['é'], true⟩, by decide, ?_, ?_⟩, (read_matches "a*b").2.1 inner⟩
  · exact (accepts "café au lait").mpr (by decide +kernel)
  · rw [Bool.eq_false_iff, ne_eq, accepts]
    decide +kernel

end Pattern

end CampusQuery
