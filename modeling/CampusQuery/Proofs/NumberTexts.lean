import CampusQuery.Json.Printer
import CampusQuery.Json.Reader
import CampusQuery.Proofs.HalfCents

/-!
# Numbers as texts

A number is written by the grammar as a sign, digits before the point, digits behind it, and an
exponent, of which only the digits before the point must be there. The reader takes such a text
apart into these parts whatever stands behind it, unless that goes on with the number.

The text of a whole number has its digits alone. The text of a value has the digits of its
shortest decimal in one of four arrangements, each of which denotes the decimal and has a fraction
or an exponent. So a whole number is read back as a whole number and a finite value as the value,
and neither is taken for the other. A whole number of more than sixty-four bits is read as the
nearest value, if that is finite.
-/

namespace CampusQuery

/-- Digits spell the number that the library reads from them. -/
theorem ofDigits_eq (digits : List Char) : ofDigits digits = Nat.ofDigitChars 10 digits 0 :=
  Nat.ofDigitChars_eq_foldl.symm

/-- The digits of a natural spell it. -/
theorem ofDigits_toDigits (value : Nat) : ofDigits (Nat.toDigits 10 value) = value := by
  rw [ofDigits_eq, Nat.ofDigitChars_ten_toDigits]

/-- Each zero behind the digits is a factor of ten. -/
theorem ofDigits_append_zeros (digits : List Char) (count : Nat) :
    ofDigits (digits ++ List.replicate count '0') = ofDigits digits * 10 ^ count := by
  rw [ofDigits_eq, ofDigits_eq, Nat.ofDigitChars_append, Nat.ofDigitChars_replicate_zero,
    Nat.mul_comm]

/-- Zeros before the digits do not count. -/
theorem ofDigits_zeros_append (count : Nat) (digits : List Char) :
    ofDigits (List.replicate count '0' ++ digits) = ofDigits digits := by
  rw [ofDigits_eq, ofDigits_eq, Nat.ofDigitChars_append, Nat.ofDigitChars_replicate_zero,
    Nat.mul_zero]

/-- A text of decimal digits. -/
def AllDigits (text : List Char) : Prop := ∀ character ∈ text, character.isDigit = true

/-- A natural is spelled with digits alone. -/
theorem allDigits_toDigits (value : Nat) : AllDigits (Nat.toDigits 10 value) :=
  fun _ => Nat.isDigit_of_mem_toDigits (by decide) (by decide)

/-- Zeros are digits. -/
theorem allDigits_zeros (count : Nat) : AllDigits (List.replicate count '0') := by
  intro character member
  rw [List.eq_of_mem_replicate member]
  rfl

/-- Digits after digits are digits. -/
theorem AllDigits.append {left right : List Char} (leftDigits : AllDigits left)
    (rightDigits : AllDigits right) : AllDigits (left ++ right) := by
  intro character member
  rcases List.mem_append.mp member with inLeft | inRight
  · exact leftDigits character inLeft
  · exact rightDigits character inRight

/-- Digits that may stand before a point: a zero alone, or digits that do not start with one. -/
inductive IsWhole : List Char → Prop where
  | zero : IsWhole ['0']
  | digits {first : Char} {others : List Char} (all : AllDigits (first :: others))
      (leading : first ≠ '0') : IsWhole (first :: others)

/-- A whole number begins with a digit. -/
theorem IsWhole.exists_cons {digits : List Char} (isWhole : IsWhole digits) :
    ∃ first others, digits = first :: others ∧ first.isDigit = true := by
  cases isWhole with
  | zero => exact ⟨_, _, rfl, rfl⟩
  | @digits first others all => exact ⟨first, others, rfl, all first List.mem_cons_self⟩

/-- Some of the digits from the front may stand before a point as well. -/
theorem IsWhole.take {digits : List Char} (isWhole : IsWhole digits) {count : Nat}
    (positive : 0 < count) : IsWhole (digits.take count) := by
  obtain ⟨more, rfl⟩ := Nat.exists_eq_add_one_of_ne_zero positive.ne'
  cases isWhole with
  | zero =>
    rw [List.take_succ_cons, List.take_nil]
    exact .zero
  | digits all leading =>
    rw [List.take_succ_cons]
    refine .digits (fun character member => all character ?_) leading
    rcases List.mem_cons.mp member with rfl | later
    · exact List.mem_cons_self
    · exact List.mem_cons_of_mem _ (List.mem_of_mem_take later)

/-- Zeros may follow digits that are no zero alone. -/
theorem IsWhole.append_zeros {digits : List Char} (isWhole : IsWhole digits)
    {count : Nat} (fits : digits = ['0'] → count = 0) :
    IsWhole (digits ++ List.replicate count '0') := by
  cases isWhole with
  | zero =>
    rw [fits rfl, List.replicate_zero, List.append_nil]
    exact .zero
  | digits all leading => exact .digits (all.append (allDigits_zeros count)) leading

/-- The digits of a natural do not start with a zero unless it is zero. -/
theorem isWhole_toDigits (value : Nat) : IsWhole (Nat.toDigits 10 value) := by
  induction value using Nat.strongRecOn with
  | ind value inductionHypothesis =>
    rcases Nat.lt_or_ge value 10 with single | several
    · have all := allDigits_toDigits value
      rw [Nat.toDigits_of_lt_base single] at all ⊢
      by_cases zero : value = 0
      · rw [zero]
        exact .zero
      · have leading : ∀ digit < 10, digit ≠ 0 → digit.digitChar ≠ '0' := by decide
        exact .digits all (leading value single zero)
    · have split := Nat.toDigits_of_base_le (by decide : 1 < 10) several
      have all := allDigits_toDigits value
      have front := inductionHypothesis (value / 10) (by omega)
      rw [split] at all ⊢
      generalize length : Nat.toDigits 10 (value / 10) = digits at all front ⊢
      cases front with
      | zero =>
        have vanishes : value / 10 = 0 := by rw [← ofDigits_toDigits (value / 10), length]; rfl
        omega
      | digits _ leading => exact .digits all leading

/-- A text that no digits in front of it would take up. -/
def NoDigit (rest : List Char) : Prop := ∀ character ∈ rest.head?, character.isDigit = false

namespace Written

/-- Digits are split off a text that goes on without one. -/
theorem splitDigits_append {digits rest : List Char} (all : AllDigits digits)
    (stops : NoDigit rest) : splitDigits (digits ++ rest) = (digits, rest) := by
  have taken : rest.takeWhile Char.isDigit = [] := by
    cases rest with
    | nil => rfl
    | cons first others => rw [List.takeWhile_cons, stops first rfl, if_neg Bool.false_ne_true]
  have dropped : rest.dropWhile Char.isDigit = rest := by
    cases rest with
    | nil => rfl
    | cons first others => rw [List.dropWhile_cons, stops first rfl, if_neg Bool.false_ne_true]
  rw [splitDigits, List.takeWhile_append_of_pos all, List.dropWhile_append_of_pos all, taken,
    dropped, List.append_nil]

/-- The digits before the point are read, unless they go on. -/
theorem readWhole_append {digits rest : List Char} (isWhole : IsWhole digits)
    (stops : NoDigit rest) : readWhole (digits ++ rest) = some (digits, rest) := by
  cases isWhole with
  | zero => rfl
  | digits all leading =>
    rw [List.cons_append]
    unfold readWhole
    split
    · rename_i same
      exact absurd (List.cons.inj same).1 leading
    · rw [← List.cons_append, splitDigits_append all stops]

end Written

/-- A text that does not go on with a number in front of it. -/
def Stops (rest : List Char) : Prop :=
  ∀ character ∈ rest.head?, character.isDigit = false ∧ character ∉ ['.', 'e', 'E']

/-- Where a number stops, no digit follows. -/
theorem Stops.noDigit {rest : List Char} (stops : Stops rest) : NoDigit rest :=
  fun character front => (stops character front).1

namespace WrittenNumber

/-- A number that follows the grammar. -/
structure WellFormed (number : WrittenNumber) : Prop where
  whole : IsWhole number.whole
  fraction : AllDigits number.fraction
  exponent : ∀ negative digits, number.exponent = some (negative, digits) →
    digits ≠ [] ∧ AllDigits digits

/-- The minus sign of a negative number. -/
def spellSign (negative : Bool) : List Char := if negative then ['-'] else []

/-- A point with the digits behind it, if there are any. -/
def spellFraction (digits : List Char) : List Char := if digits = [] then [] else '.' :: digits

/-- The exponent, if there is one, always with a sign. -/
def spellExponent : Option (Bool × List Char) → List Char
  | none => []
  | some (negative, digits) => 'e' :: (if negative then '-' else '+') :: digits

/-- A number as it is written. -/
def spell (number : WrittenNumber) : List Char :=
  spellSign number.negative ++ number.whole ++ spellFraction number.fraction ++
    spellExponent number.exponent

/-- What follows the fraction begins neither with a digit nor with a point. -/
theorem spellExponent_append_head (exponent : Option (Bool × List Char)) {rest : List Char}
    (stops : Stops rest) :
    ∀ character ∈ (spellExponent exponent ++ rest).head?,
      character.isDigit = false ∧ character ≠ '.' := by
  intro character front
  cases exponent with
  | none =>
    obtain ⟨noDigit, others⟩ := stops character front
    exact ⟨noDigit, fun point => others (by simp [point])⟩
  | some parts =>
    obtain rfl := Option.some.inj front
    decide

/-- What follows the digits before the point does not begin with a digit. -/
theorem noDigit_spellFraction_append (fraction : List Char) {rest : List Char}
    (noDigit : NoDigit rest) : NoDigit (spellFraction fraction ++ rest) := by
  unfold spellFraction
  split
  · exact noDigit
  · intro character front
    obtain rfl := Option.some.inj front
    rfl

end WrittenNumber

namespace Written

open WrittenNumber

/-- The fraction is read, or none where no point follows. -/
theorem readFraction_append {fraction rest : List Char} (all : AllDigits fraction)
    (stops : ∀ character ∈ rest.head?, character.isDigit = false ∧ character ≠ '.') :
    readFraction (spellFraction fraction ++ rest) = some (fraction, rest) := by
  cases fraction with
  | nil =>
    cases rest with
    | nil => rfl
    | cons first others =>
      have noPoint := (stops first rfl).2
      unfold readFraction
      split
      · rename_i same
        exact absurd (List.cons.inj same).1 noPoint
      · rfl
  | cons first others =>
    have split := splitDigits_append all fun character front => (stops character front).1
    rw [spellFraction, if_neg (List.cons_ne_nil first others), List.cons_append, readFraction,
      split]

/-- The exponent is read, or none where none follows. -/
theorem readExponent_append {exponent : Option (Bool × List Char)}
    (wellFormed : ∀ negative digits, exponent = some (negative, digits) →
      digits ≠ [] ∧ AllDigits digits) {rest : List Char} (stops : Stops rest) :
    readExponent (spellExponent exponent ++ rest) = some (exponent, rest) := by
  cases exponent with
  | none =>
    cases rest with
    | nil => rfl
    | cons first others =>
      have noMark := (stops first rfl).2
      have different : ¬(first = 'e' || first = 'E') = true := by
        intro mark
        rcases Bool.or_eq_true_iff.mp mark with same | same <;>
          exact noMark (by simp [of_decide_eq_true same])
      rw [spellExponent, List.nil_append]
      unfold readExponent
      dsimp only
      rw [if_neg different]
  | some parts =>
    obtain ⟨negative, digits⟩ := parts
    obtain ⟨nonempty, all⟩ := wellFormed negative digits rfl
    obtain ⟨first, others, rfl⟩ := List.exists_cons_of_ne_nil nonempty
    have split := splitDigits_append all stops.noDigit
    rw [List.cons_append] at split
    cases negative with
    | false => simp [spellExponent, readExponent, split]
    | true => simp [spellExponent, readExponent, split]

/-- The sign is read before anything else. -/
theorem readNumber_sign (negative : Bool) {first : Char} (unsigned : first ≠ '-')
    (others : List Char) :
    readNumber (spellSign negative ++ first :: others) = do
      let (whole, rest) ← readWhole (first :: others)
      let (fraction, rest) ← readFraction rest
      let (exponent, rest) ← readExponent rest
      return (⟨negative, whole, fraction, exponent⟩, rest) := by
  cases negative with
  | true => rfl
  | false =>
    rw [spellSign, if_neg Bool.false_ne_true, List.nil_append]
    unfold readNumber
    split
    rename_i sign
    split at sign
    · rename_i same
      exact absurd (List.cons.inj same).1 unsigned
    · obtain ⟨rfl, rfl⟩ := Prod.mk.inj sign
      rfl

/-- A number that follows the grammar is read back from its text. -/
theorem readNumber_spell {number : WrittenNumber} (wellFormed : number.WellFormed)
    {rest : List Char} (stops : Stops rest) :
    readNumber (number.spell ++ rest) = some (number, rest) := by
  have afterFraction := spellExponent_append_head number.exponent stops
  have afterWhole := noDigit_spellFraction_append number.fraction
    fun character front => (afterFraction character front).1
  have whole := readWhole_append wellFormed.whole afterWhole
  have fraction := readFraction_append wellFormed.fraction afterFraction
  have exponent := readExponent_append wellFormed.exponent stops
  obtain ⟨first, others, digits, isDigit⟩ := wellFormed.whole.exists_cons
  have unsigned : first ≠ '-' := by
    rintro rfl
    cases isDigit
  rw [digits, List.cons_append] at whole
  rw [spell, digits, List.append_assoc, List.append_assoc, List.append_assoc, List.cons_append,
    readNumber_sign _ unsigned, whole]
  simp only [Option.bind_eq_bind, Option.bind_some, fraction, exponent]
  rw [← digits]
  rfl

end Written

namespace Binary64

/-- Zeros behind the digits of a decimal are made up for by its exponent. -/
theorem ofDecimal_mul_ten (negative : Bool) (digits count : Nat) {exponent : Int}
    (small : exponent ≤ 400) (large : -400 ≤ exponent - count) :
    ofDecimal negative (digits * 10 ^ count) (exponent - count) =
      ofDecimal negative digits exponent := by
  have same : Scientific.toRat ⟨digits * 10 ^ count, exponent - count⟩ =
      Scientific.toRat ⟨digits, exponent⟩ := by
    rw [Scientific.toRat, Scientific.toRat]
    dsimp only
    rw [zpow_sub₀ (by norm_num), zpow_natCast]
    push_cast
    field_simp
  rw [ofDecimal_eq_ofUnits (by omega) large, ofDecimal_eq_ofUnits small (by omega), same]

end Binary64

namespace WrittenNumber

/-- A number that is written with the digits of a decimal and a sign, and cannot be taken for a
whole number. -/
structure Denotes (number : WrittenNumber) (negative : Bool) (decimal : Scientific) : Prop where
  wellFormed : number.WellFormed
  fractional : number.isWhole = false
  value : number.toBinary64 = Binary64.ofDecimal negative decimal.digits decimal.exponent

/-- With a fraction and no exponent a number is no whole number. -/
theorem isWhole_of_fraction {negative : Bool} {whole fraction : List Char}
    (nonempty : fraction ≠ []) : isWhole ⟨negative, whole, fraction, none⟩ = false := by
  cases fraction with
  | nil => exact absurd rfl nonempty
  | cons => rfl

/-- The text of a number with a fraction and no exponent. -/
theorem spell_of_fraction (negative : Bool) (whole : List Char) {fraction : List Char}
    (nonempty : fraction ≠ []) : spell ⟨negative, whole, fraction, none⟩ =
      spellSign negative ++ (whole ++ '.' :: fraction) := by
  simp [spell, spellFraction, spellExponent, nonempty]

/-- A whole number with any fraction is well formed. -/
theorem wellFormed_of_fraction {negative : Bool} {whole fraction : List Char}
    (wholeDigits : IsWhole whole) (all : AllDigits fraction) :
    WellFormed ⟨negative, whole, fraction, none⟩ :=
  ⟨wholeDigits, all, fun _ _ absent => by cases absent⟩

variable {decimal : Scientific} (negative : Bool)

/-- The digits of a decimal below one stand behind a zero and the point. -/
theorem denotes_below_one {zeros : Nat}
    (places : (zeros : Int) + (Nat.toDigits 10 decimal.digits).length = -decimal.exponent) :
    Denotes ⟨negative, ['0'], List.replicate zeros '0' ++ Nat.toDigits 10 decimal.digits, none⟩
      negative decimal := by
  have digits : ofDigits (['0'] ++ (List.replicate zeros '0' ++ Nat.toDigits 10 decimal.digits)) =
      decimal.digits := by
    rw [← List.replicate_one, ofDigits_zeros_append, ofDigits_zeros_append, ofDigits_toDigits]
  refine ⟨wellFormed_of_fraction .zero ?_, isWhole_of_fraction ?_, ?_⟩
  · exact (allDigits_zeros zeros).append (allDigits_toDigits _)
  · exact List.append_ne_nil_of_right_ne_nil _ Nat.toDigits_ne_nil
  · have exponent : power ⟨negative, ['0'],
        List.replicate zeros '0' ++ Nat.toDigits 10 decimal.digits, none⟩ = decimal.exponent := by
      simp only [power, List.length_append, List.length_replicate]
      omega
    rw [toBinary64, digits, exponent]

/-- The digits of a whole decimal stand before the point, with zeros up to it and a zero behind
it. -/
theorem denotes_whole {zeros : Nat} (canonical : decimal.digits = 0 → zeros = 0)
    (exponent : decimal.exponent = zeros) (small : zeros ≤ 400) :
    Denotes ⟨negative, Nat.toDigits 10 decimal.digits ++ List.replicate zeros '0', ['0'], none⟩
      negative decimal := by
  have digits : ofDigits (Nat.toDigits 10 decimal.digits ++ List.replicate zeros '0' ++ ['0']) =
      decimal.digits * 10 ^ (zeros + 1) := by
    rw [← List.replicate_one, List.append_assoc, List.replicate_append_replicate,
      ofDigits_append_zeros, ofDigits_toDigits]
  refine ⟨wellFormed_of_fraction ?_ (allDigits_zeros 1), isWhole_of_fraction (by decide), ?_⟩
  · refine (isWhole_toDigits decimal.digits).append_zeros fun zero => canonical ?_
    rw [← ofDigits_toDigits decimal.digits, zero]
    rfl
  · have scaled := Binary64.ofDecimal_mul_ten negative decimal.digits (zeros + 1)
      (by omega : decimal.exponent ≤ 400) (by omega)
    have last : decimal.exponent - (zeros + 1 : Nat) = -1 := by omega
    rw [last] at scaled
    rw [toBinary64, digits, ← scaled]
    rfl

/-- Otherwise the point stands among the digits. -/
theorem denotes_mixed {front : Nat} (positive : 0 < front)
    (places : (front : Int) = (Nat.toDigits 10 decimal.digits).length + decimal.exponent)
    (fractional : decimal.exponent < 0) :
    Denotes ⟨negative, (Nat.toDigits 10 decimal.digits).take front,
      (Nat.toDigits 10 decimal.digits).drop front, none⟩ negative decimal := by
  have length : ((Nat.toDigits 10 decimal.digits).drop front).length =
      (Nat.toDigits 10 decimal.digits).length - front := List.length_drop
  refine ⟨wellFormed_of_fraction ?_ ?_, isWhole_of_fraction ?_, ?_⟩
  · exact (isWhole_toDigits decimal.digits).take positive
  · exact fun character member => allDigits_toDigits _ character (List.mem_of_mem_drop member)
  · rw [← List.length_pos_iff, length]
    omega
  · have exponent : power ⟨negative, (Nat.toDigits 10 decimal.digits).take front,
        (Nat.toDigits 10 decimal.digits).drop front, none⟩ = decimal.exponent := by
      simp only [power, length]
      omega
    rw [toBinary64, List.take_append_drop, ofDigits_toDigits, exponent]

/-- With an exponent the point stands behind the first digit. -/
theorem denotes_exponent {leading : Int}
    (places : leading = decimal.exponent + (Nat.toDigits 10 decimal.digits).length - 1) :
    Denotes ⟨negative, (Nat.toDigits 10 decimal.digits).take 1,
      (Nat.toDigits 10 decimal.digits).drop 1,
      some (decide (leading < 0), Nat.toDigits 10 leading.natAbs)⟩ negative decimal := by
  have positive : 0 < (Nat.toDigits 10 decimal.digits).length := Nat.length_toDigits_pos
  refine ⟨⟨?_, ?_, ?_⟩, ?_, ?_⟩
  · exact (isWhole_toDigits decimal.digits).take Nat.one_pos
  · exact fun character member => allDigits_toDigits _ character (List.mem_of_mem_drop member)
  · rintro _ _ ⟨⟩
    exact ⟨Nat.toDigits_ne_nil, allDigits_toDigits _⟩
  · exact Bool.and_false _
  · have exponent : power ⟨negative, (Nat.toDigits 10 decimal.digits).take 1,
        (Nat.toDigits 10 decimal.digits).drop 1,
        some (decide (leading < 0), Nat.toDigits 10 leading.natAbs)⟩ = decimal.exponent := by
      unfold power
      dsimp only
      rw [List.length_drop]
      by_cases below : leading < 0
      · rw [decide_eq_true below]
        dsimp only
        rw [ofDigits_toDigits]
        omega
      · rw [decide_eq_false below]
        dsimp only
        rw [ofDigits_toDigits]
        omega
    rw [toBinary64, List.take_append_drop, ofDigits_toDigits, exponent]

end WrittenNumber

namespace Scientific

open WrittenNumber

/-- A decimal is written as a number that denotes it. The four arrangements of its digits are
those that `spell` tells apart. -/
theorem exists_denotes (negative : Bool) {decimal : Scientific}
    (canonical : decimal.digits = 0 → decimal.exponent = 0) :
    ∃ number : WrittenNumber, number.spell = spellSign negative ++ decimal.spell ∧
      number.Denotes negative decimal := by
  have positive : 0 < (Nat.toDigits 10 decimal.digits).length := Nat.length_toDigits_pos
  generalize order : decimal.exponent + (Nat.toDigits 10 decimal.digits).length - 1 = leading
  unfold Scientific.spell
  dsimp only
  rw [order]
  split
  · rename_i positional
    have small : leading < 16 := of_decide_eq_true ((Bool.and_eq_true _ _).mp positional).2
    split
    · have places : ((-leading - 1).toNat : Int) + (Nat.toDigits 10 decimal.digits).length =
          -decimal.exponent := by omega
      have denotes := denotes_below_one negative places
      refine ⟨_, ?_, denotes⟩
      rw [spell_of_fraction _ _ (List.append_ne_nil_of_right_ne_nil _ Nat.toDigits_ne_nil)]
      rfl
    · split
      · rename_i whole
        have exponent : decimal.exponent = decimal.exponent.toNat :=
          (Int.toNat_of_nonneg whole).symm
        have vanishes : decimal.digits = 0 → decimal.exponent.toNat = 0 :=
          fun zero => by rw [canonical zero]; rfl
        have denotes := denotes_whole negative vanishes exponent (by omega)
        refine ⟨_, ?_, denotes⟩
        rw [spell_of_fraction _ _ (List.cons_ne_nil _ _)]
      · have places : ((leading + 1).toNat : Int) =
            (Nat.toDigits 10 decimal.digits).length + decimal.exponent := by omega
        have denotes := denotes_mixed negative (by omega) places (by omega)
        refine ⟨_, ?_, denotes⟩
        have nonempty : (Nat.toDigits 10 decimal.digits).drop (leading + 1).toNat ≠ [] := by
          rw [← List.length_pos_iff, List.length_drop]
          omega
        rw [spell_of_fraction _ _ nonempty, List.append_assoc]
        rfl
  · have denotes := denotes_exponent negative order.symm
    refine ⟨_, ?_, denotes⟩
    unfold WrittenNumber.spell spellFraction spellExponent
    simp only [List.isEmpty_iff, List.append_assoc, decide_eq_true_eq]
    rfl

open Binary64

variable {units : Nat}

/-- The exponent of the shortest decimal is so small that its digits are read by rounding. -/
theorem shortest_exponent_range (tie : Tie) (representable : Representable units) :
    -400 ≤ (shortest tie units).exponent ∧ (shortest tie units).exponent ≤ 400 := by
  by_cases zero : units = 0
  · rw [zero, shortest, if_pos rfl]
    decide
  · obtain ⟨more, few, neighbour, -⟩ := shortest_first tie representable zero
    obtain ⟨-, count, counted, -⟩ := neighbour?_spec neighbour
    obtain ⟨above, below⟩ := ceilingExponent_range representable zero
    rw [counted]
    have placed := ofCount_exponent count (ceilingExponent units - (more + 1 : Nat))
    omega

/-- The shortest decimal of a magnitude is read as it, with either sign. -/
theorem ofDecimal_shortest (tie : Tie) (negative : Bool) (representable : Representable units) :
    ofDecimal negative (shortest tie units).digits (shortest tie units).exponent =
      ofUnits negative units := by
  obtain ⟨large, small⟩ := shortest_exponent_range tie representable
  have nearest := (reads_iff representable small large).mp (shortest_spec tie representable).1
  rw [ofDecimal_eq_ofUnits small large]
  exact congrArg (ofUnits negative) nearest

/-- The shortest decimal has no digits but a zero only if it is zero. -/
theorem shortest_canonical (tie : Tie) (representable : Representable units) :
    (shortest tie units).digits = 0 → (shortest tie units).exponent = 0 := by
  intro vanishes
  have read := ofDecimal_shortest tie false representable
  rw [ofDecimal, if_pos vanishes] at read
  obtain ⟨-, zero⟩ := ofUnits_inj representable read
  rw [← zero, shortest, if_pos rfl]

end Scientific

namespace WrittenNumber

/-- A whole number by its digits. -/
def ofInt (value : Int) : WrittenNumber :=
  ⟨decide (value < 0), Nat.toDigits 10 value.natAbs, [], none⟩

/-- A whole number is spelled as its numeral is. -/
theorem spell_ofInt (value : Int) : (ofInt value).spell = Numeral.spellInt value := by
  simp [ofInt, spell, spellSign, spellFraction, spellExponent, Numeral.spellInt]

/-- What is made of a whole number is well formed. -/
theorem wellFormed_ofInt (value : Int) : (ofInt value).WellFormed := by
  refine ⟨isWhole_toDigits _, ?_, ?_⟩
  · rintro _ ⟨⟩
  · rintro _ _ ⟨⟩

/-- Its digits are rounded as it is. -/
theorem toBinary64_ofInt {value : Int} (nonzero : value ≠ 0) :
    (ofInt value).toBinary64 = Binary64.ofInt value := by
  have digits : value.natAbs ≠ 0 := Int.natAbs_ne_zero.mpr nonzero
  have unscaled : value.natAbs * Nat.pow 10 (0 : Int).toNat * Binary64.one =
      value.natAbs * Binary64.one := by
    rw [show Nat.pow 10 (0 : Int).toNat = 1 from rfl, Nat.mul_one]
  have decimal : (ofInt value).toBinary64 =
      Binary64.ofDecimal (decide (value < 0)) value.natAbs 0 := by
    rw [toBinary64, ofInt, List.append_nil, ofDigits_toDigits]
    rfl
  rw [decimal, Binary64.ofDecimal, if_neg digits, if_neg (by decide), if_neg (by omega), unscaled]
  rfl

/-- It is read as a whole number of sixty-four bits, or else as the nearest value in range. -/
theorem numeral?_ofInt (value : Int) :
    (ofInt value).numeral? =
      if Numeral.holds value then some (.integer value)
      else if (Binary64.ofInt value).isFinite then some (.real (Binary64.ofInt value))
      else none := by
  have magnitude : ofDigits (ofInt value).whole = value.natAbs := ofDigits_toDigits _
  have sign : (ofInt value).negative = decide (value < 0) := rfl
  have isWhole : (ofInt value).isWhole = true := rfl
  have signed : (if decide (value < 0) = true then -(value.natAbs : Int) else value.natAbs) =
      value := by
    simp only [decide_eq_true_eq]
    split <;> omega
  have unsignedZero : (decide (value < 0) && value.natAbs == 0) = false := by
    rw [Bool.and_eq_false_iff, decide_eq_false_iff_not, beq_eq_false_iff_ne]
    omega
  unfold numeral?
  simp only [magnitude, sign, isWhole, signed, unsignedZero, Bool.true_and, Bool.not_false,
    Bool.and_true]
  split
  · rfl
  · rename_i beyond
    have nonzero : value ≠ 0 := by
      rintro rfl
      exact beyond rfl
    rw [toBinary64_ofInt nonzero]

end WrittenNumber

namespace Numeral

/-- A numeral that can be written: a whole number of sixty-four bits, or a finite value. -/
def Legible : Numeral → Prop
  | .integer value => holds value = true
  | .real value => value.isFinite = true

instance : DecidablePred Legible
  | .integer value => inferInstanceAs (Decidable (holds value = true))
  | .real value => inferInstanceAs (Decidable (value.isFinite = true))

/-- The text of a finite value is read as the value, and not as a whole number. -/
theorem exists_written_real (negative : Bool) {units : Nat}
    (representable : Binary64.Representable units) :
    ∃ number : WrittenNumber, number.spell = spell (.real (.finite negative units representable)) ∧
      number.WellFormed ∧
      number.numeral? = some (.real (.finite negative units representable)) := by
  obtain ⟨number, spelled, denotes⟩ :=
    Scientific.exists_denotes negative (Scientific.shortest_canonical .toEven representable)
  have value : number.toBinary64 = .finite negative units representable := by
    rw [denotes.value, Scientific.ofDecimal_shortest .toEven negative representable,
      Binary64.ofUnits, dif_pos representable]
  refine ⟨number, spelled, denotes.wellFormed, ?_⟩
  unfold WrittenNumber.numeral?
  dsimp only
  rw [denotes.fractional, value]
  rfl

/-- A numeral whose text can be held by a reader: a whole number in the range of binary64, or any
value, which is written as null if it is not finite. -/
def InRange : Numeral → Prop
  | .integer value => (Binary64.ofInt value).isFinite = true
  | .real _ => True

instance : DecidablePred InRange
  | .integer value => inferInstanceAs (Decidable ((Binary64.ofInt value).isFinite = true))
  | .real _ => inferInstanceAs (Decidable True)

/-- A numeral that can be written is in range. -/
theorem Legible.inRange {numeral : Numeral} (legible : numeral.Legible) : numeral.InRange := by
  cases numeral with
  | real => trivial
  | integer value =>
    have small : value.natAbs ≤ 2 ^ 128 := by
      have held : holds value = true := legible
      simp only [holds, Bool.and_eq_true, decide_eq_true_eq] at held
      norm_num at held ⊢
      omega
    exact Binary64.isFinite_ofInt small

/-- Every numeral is written as a number, but for what is not finite. A numeral that can be written
is read back from its text. -/
theorem exists_written (numeral : Numeral) :
    (numeral.spell = ['n', 'u', 'l', 'l'] ∧ ¬numeral.Legible ∧ numeral.InRange) ∨
      ∃ number : WrittenNumber, number.spell = numeral.spell ∧ number.WellFormed ∧
        (numeral.Legible → number.numeral? = some numeral) ∧
        (number.numeral?.isSome = true ↔ numeral.InRange) := by
  cases numeral with
  | integer value =>
    refine .inr ⟨.ofInt value, WrittenNumber.spell_ofInt value,
      WrittenNumber.wellFormed_ofInt value, fun legible => ?_, ?_⟩
    · rw [WrittenNumber.numeral?_ofInt]
      exact if_pos legible
    · rw [WrittenNumber.numeral?_ofInt]
      split
      · rename_i held
        exact ⟨fun _ => Legible.inRange held, fun _ => rfl⟩
      · change _ ↔ (Binary64.ofInt value).isFinite = true
        split <;> simp [*]
  | real value =>
    cases value with
    | finite negative units representable =>
      obtain ⟨number, spelled, wellFormed, numeral⟩ := exists_written_real negative representable
      exact .inr ⟨number, spelled, wellFormed, fun _ => numeral, by simp [numeral, InRange]⟩
    | infinite => exact .inl ⟨rfl, Bool.false_ne_true, trivial⟩
    | nan => exact .inl ⟨rfl, Bool.false_ne_true, trivial⟩

end Numeral

end CampusQuery
