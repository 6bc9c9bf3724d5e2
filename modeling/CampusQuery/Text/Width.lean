import CampusQuery.Text.Ligature
import CampusQuery.Text.Pictograph

/-!
# Columns of a line

The columns that a line takes on a screen are those of its characters, except where
several characters are drawn as one sign: flags, pictographs that are joined, coloured
or put into another form, and letters that share a column. A line is read from its end
to its start. The sign that begins after a character decides how many columns that
character adds to the line, or takes back from it.
-/

namespace CampusQuery.Text

/-- The sign that begins after a place in a line, as far as it bears on the characters
before that place. -/
inductive Sign where
  /-- One that nothing joins. -/
  | plain
  /-- A skin tone. -/
  | tone
  /-- One regional indicator. -/
  | region
  /-- Two regional indicators or more. -/
  | regions
  /-- A pictograph. -/
  | picture
  /-- A pictograph with a joiner before it. -/
  | joined
  /-- A joined pictograph with the mark of a keycap before it. -/
  | keycap
  /-- A joined pictograph with one regional indicator before it. -/
  | joinedRegion
  /-- A joined pictograph with an even number of regional indicators before it. -/
  | joinedEven
  /-- A joined pictograph with an odd number of regional indicators before it, three or
  more. -/
  | joinedOdd
  /-- A joined pictograph with the end of a part of a region before it, and so many
  letters before that. -/
  | tagged (letters : Nat)
  /-- The same with so many digits last. -/
  | numbered (digits : Nat)
  /-- An alef, which takes the column of a lam before it. -/
  | alef
  /-- A lamed, perhaps with a joiner before it, for an alef. -/
  | lamed (joiner : Bool)
  /-- A letter of Khmer that the sign before it puts below another letter. -/
  | coeng
  /-- A ya of Buginese, perhaps with a joiner before it. -/
  | ya (joiner : Bool)
  /-- A joined ya of Buginese with the vowel i before it. -/
  | vowelYa
  /-- A consonant of Tifinagh, perhaps with a joiner before it. -/
  | tifinagh (joiner : Bool)
  /-- A consonant of Tifinagh with its own joiner before it. -/
  | tifinaghPair
  /-- The second of two tone letters of Lisu. -/
  | secondTone
  /-- A letter i of Old Turkic, perhaps with a joiner before it. -/
  | orkhon (joiner : Bool)
  /-- The vowel e of Kirat Rai. -/
  | kiratE
  /-- The vowel ai of Kirat Rai, which is e written twice. -/
  | kiratAi
  deriving DecidableEq

namespace Sign

/-- The sign that a character begins by itself. -/
def of (character : Char) : Sign :=
  let code := character.toNat
  if alefs.has character then .alef
  else if code = 0x5DC then .lamed false
  else if coengLetters.has character then .coeng
  else if code = 0x1A10 then .ya false
  else if tifinaghLetters.has character then .tifinagh false
  else if secondTones.has character then .secondTone
  else if code = 0x10C03 then .orkhon false
  else if code = 0x16D67 then .kiratE
  else if code = 0x16D68 then .kiratAi
  else if regionals.has character then .region
  else if tones.has character then .tone
  else if pictographs.has character then .picture
  else .plain

/-- Whether the sign is part of a ligature; a choice of form before it leaves it so. -/
def isLigature : Sign → Bool
  | .alef | .lamed _ | .coeng | .ya _ | .vowelYa | .tifinagh _ | .tifinaghPair | .secondTone
  | .orkhon _ => true
  | _ => false

/-- Whether marks that are not drawn may stand before the sign without closing it. An
alef has a rule of its own for the marks between it and a lam. -/
def isOpen (sign : Sign) : Bool := sign.isLigature && sign != .alef

/-- The sign with a joiner before it. -/
def withJoiner : Sign → Sign
  | .lamed _ => .lamed true
  | .ya _ => .ya true
  | .tifinagh _ => .tifinagh true
  | .orkhon _ => .orkhon true
  | sign => sign

/-- What is left of the sign beyond a choice of form that came to nothing. -/
def lasting (sign : Sign) : Sign := if sign.isLigature then sign else .plain

/-- The columns that a character adds before the sign, and the sign that the two begin
together; nothing if they do not join. A sum is never negative: what is taken back was
added by the sign. -/
def joinedBy (sign : Sign) (character : Char) : Option (Int × Sign) :=
  let code := character.toNat
  if sign.isOpen && unseen.has character then
    some (0, if code = 0x200D then sign.withJoiner else sign)
  else match sign with
    | .plain | .keycap => none
    | .tone =>
      if toned.has character then some (0, .picture)
      else if code = 0x200D then some (0, .joined)
      else none
    | .region => if regionals.has character then some (1, .regions) else none
    | .regions =>
      if regionals.has character then some (1, .regions)
      else if code = 0x200D then some (0, .joined)
      else none
    | .picture => if code = 0x200D then some (0, .joined) else none
    | .joined =>
      if code = 0x20E3 then some (0, .keycap)
      else if regionals.has character then some (1, .joinedRegion)
      else if tones.has character then some (0, .tone)
      else if code = 0xE007F then some (0, .tagged 0)
      else if pictographs.has character then some (0, .picture)
      else none
    | .joinedRegion => if regionals.has character then some (-1, .joinedEven) else none
    | .joinedEven =>
      if regionals.has character then some (3, .joinedOdd)
      else if code = 0x200D then some (0, .joined)
      else none
    | .joinedOdd =>
      if regionals.has character then some (-1, .joinedEven)
      else if code = 0x200D then some (0, .joined)
      else none
    | .tagged letters =>
      if tagLetters.has character && letters < 6 then some (0, .tagged (letters + 1))
      else if tagDigits.has character && letters < 5 then some (0, .numbered 1)
      else if code = 0x1F3F4 && 3 ≤ letters then some (0, .picture)
      else none
    | .numbered digits =>
      if tagDigits.has character && digits < 3 then some (0, .numbered (digits + 1))
      else if code = 0x1F3F4 && digits = 3 then some (0, .picture)
      else none
    | .alef =>
      if lams.has character then some (0, .plain)
      else if transparent character then some (0, .alef)
      else none
    | .lamed joiner => if joiner && code = 0x5D0 then some (0, .plain) else none
    | .coeng => if code = 0x17D2 then some (-1, .plain) else none
    | .ya joiner => if joiner && code = 0x1A17 then some (0, .vowelYa) else none
    | .vowelYa => if code = 0x1A15 then some (0, .plain) else none
    | .tifinagh joiner =>
      if code = 0x2D7F then some (1, .tifinaghPair)
      else if joiner && tifinaghLetters.has character then some (0, .plain)
      else none
    | .tifinaghPair => if tifinaghLetters.has character then some (-1, .plain) else none
    | .secondTone => if firstTones.has character then some (0, .plain) else none
    | .orkhon joiner => if joiner && code = 0x10C32 then some (0, .plain) else none
    | .kiratE =>
      if code = 0x16D63 then some (0, .plain)
      else if code = 0x16D67 then some (0, .kiratAi)
      else if code = 0x16D68 then some (1, .kiratE)
      else if code = 0x16D69 then some (0, .plain)
      else none
    | .kiratAi => if code = 0x16D63 then some (0, .plain) else none

end Sign

/-- A form of a character, chosen by a mark after it. -/
inductive Form where
  /-- A picture. -/
  | picture
  /-- Plain text. -/
  | text
  /-- As wide as an ideograph. -/
  | fullwidth
  deriving DecidableEq

/-- The form that a mark chooses. -/
def Form.of? (character : Char) : Option Form :=
  if character = '\uFE0F' then some .picture
  else if character = '\uFE0E' then some .text
  else if character = '\uFE01' then some .fullwidth
  else none

/-- What a line holds after a place: the sign that begins there, and the form that is
chosen for the character before it. -/
structure Ahead where
  sign : Sign
  form : Option Form
  deriving DecidableEq

namespace Ahead

/-- The end of a line. -/
def nothing : Ahead := ⟨.plain, none⟩

/-- The columns of a character in the form chosen for it, and the sign that it begins;
nothing if the character has no such form. A picture that is joined to the one after it
adds no columns. -/
def formed (ahead : Ahead) (character : Char) : Option (Int × Sign) :=
  match ahead.form with
  | some .picture =>
    if styled.has character then
      some (if ahead.sign = .joined || ahead.sign = .keycap then 0 else 2, .picture)
    else none
  | some .text =>
    if styled.has character && pictographs.has character && !squaredIdeographs.has character then
      some (1, .plain)
    else none
  | some .fullwidth =>
    if ['‘', '’', '“', '”'].contains character then some (2, .plain) else none
  | none => none

/-- The sign that a character of no such form stands before. -/
def remaining (ahead : Ahead) : Sign :=
  if ahead.form.isSome then ahead.sign.lasting else ahead.sign

/-- What a line holds once a form is chosen before a sign. A picture may still be joined
to the pictograph after it. -/
def choosing (form : Form) (sign : Sign) : Ahead :=
  if form = .picture && (sign = .joined || sign = .keycap) then ⟨sign, some form⟩
  else ⟨sign.lasting, some form⟩

/-- The columns that a character adds to what a line holds after it, and what the line
holds with it. Characters up to the no-break space join nothing. -/
def step (character : Char) (ahead : Ahead) : Int × Ahead :=
  match ahead.formed character with
  | some (columns, sign) => (columns, ⟨sign, none⟩)
  | none =>
    if character ≤ '\u00A0' then (1, nothing)
    else match Form.of? character with
      | some form => (0, choosing form ahead.remaining)
      | none => match ahead.remaining.joinedBy character with
        | some (columns, sign) => (columns, ⟨sign, none⟩)
        | none => (columns character, ⟨Sign.of character, none⟩)

end Ahead

/-- The columns of a line, and what it holds from its start on. -/
def measure (line : List Char) : Int × Ahead :=
  line.foldr (fun character after =>
    let added := Ahead.step character after.2
    (added.1 + after.1, added.2)) (0, Ahead.nothing)

/-- The columns that a line takes: those of the signs that it shows. -/
def width (line : List Char) : Nat := (measure line).1.toNat

end CampusQuery.Text
