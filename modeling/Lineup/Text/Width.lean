/-
  Lineup.Text.Width
  ─────────────────
  **COLUMNS OF A TEXT.**  A text takes as many columns as its characters do on
  their own, but for characters that are drawn as one:

      pictures   — a picture and a selector, tones of skin, flags, tags, and
                   pictures tied together by a joiner
      ligatures  — letters of a script that melt into one

  The text is measured from its end, and every character leaves behind what it
  means to the one before it: a `Kind`, and the selector that stands between
  the two.
-/
import Lineup.Text.Emoji
import Lineup.Text.Ligature

namespace Lineup.Text

/-! ## §1. What a character means to the one before it. -/

/-- The start of a piece of text, as far as the character before it could be
drawn together with it. `joined` says that a joiner stands in between. -/
inductive Kind where
  /-- Nothing that could be drawn together with what comes before. -/
  | plain
  /-- The Arabic alef, with nothing or marks before it. -/
  | alef
  /-- The Hebrew lamed. -/
  | lamed (joined : Bool)
  /-- The Buginese ya. -/
  | ya (joined : Bool)
  /-- The Buginese vowel i before a joined ya. -/
  | vowelAndYa
  /-- A consonant of Tifinagh. -/
  | tifinagh (joined : Bool)
  /-- The joiner of Tifinagh before a consonant. -/
  | tifinaghJoiner
  /-- The second of two tones of Lisu. -/
  | lisuTone
  /-- The Old Turkic i. -/
  | turkicI (joined : Bool)
  /-- A Khmer letter that can stand under another. -/
  | khmer
  /-- The Kirat Rai vowel e. -/
  | kiratE
  /-- The Kirat Rai vowel ai. -/
  | kiratAi
  /-- A picture. -/
  | picture
  /-- A tone of skin. -/
  | tone
  /-- One letter of a flag. -/
  | flagLetter
  /-- Several letters of flags. -/
  | flagLetters
  /-- A joiner before a picture. -/
  | joinedPicture
  /-- A keycap before a joined picture. -/
  | joinedKeycap
  /-- One letter of a flag before a joined picture. -/
  | joinedFlagLetter
  /-- Several letters of flags before a joined picture. -/
  | joinedFlagLetters (even : Bool)
  /-- So many letters among the tags, before the end of tags and a joined
  picture. -/
  | tagLetters (count : Nat)
  /-- So many digits among the tags, before letters among them. -/
  | tagDigits (count : Nat)
  deriving DecidableEq, Repr

namespace Kind

/-- Whether a kind belongs to a script in which marks do not keep letters from
melting. -/
def isLetter : Kind → Bool
  | alef | lamed _ | ya _ | vowelAndYa | tifinagh _ | tifinaghJoiner | lisuTone | turkicI _
  | khmer => true
  | _ => false

/-- Whether a kind is a picture that a joiner ties to what comes before. -/
def joinsPicture : Kind → Bool
  | joinedPicture | joinedKeycap => true
  | _ => false

/-- A kind behind a selector that has no bearing on it: only letters remain. -/
def kept (k : Kind) : Kind := if k.isLetter then k else plain

/-- A kind behind a joiner. -/
def joined : Kind → Kind
  | lamed _ => lamed true
  | ya _ => ya true
  | tifinagh _ => tifinagh true
  | turkicI _ => turkicI true
  | k => k

/-- What a character means to the one before it, whatever comes after it. -/
def ofChar (c : Char) : Kind :=
  if isAlef c then alef
  else if c = '\u05dc' then lamed false
  else if c = '\u1a10' then ya false
  else if isTifinagh c then tifinagh false
  else if isLisuSecondTone c then lisuTone
  else if c.toNat = 0x10C03 then turkicI false
  else if isKhmerStacking c then khmer
  else if c.toNat = 0x16D67 then kiratE
  else if c.toNat = 0x16D68 then kiratAi
  else if isTone c then tone
  else if isFlagLetter c then flagLetter
  else if isPicture c then picture
  else plain

/-- What a character adds to the width when it is drawn together with what
comes after it, and what it then means to the one before it. -/
def ligature? (c : Char) : Kind → Option (Int × Kind)
  | plain => none
  | alef => if isLam c then some (0, plain) else if isArabicMark c then some (0, alef) else none
  | lamed isJoined => if isJoined ∧ c = '\u05d0' then some (0, plain) else none
  | ya isJoined => if isJoined ∧ c = '\u1a17' then some (0, vowelAndYa) else none
  | vowelAndYa => if c = '\u1a15' then some (0, plain) else none
  | tifinagh isJoined =>
    if c = '\u2d7f' then some (1, tifinaghJoiner)
    else if isJoined ∧ isTifinagh c then some (0, plain)
    else none
  -- the joiner has counted one column, which it does not take after all
  | tifinaghJoiner => if isTifinagh c then some (-1, plain) else none
  | lisuTone => if isLisuFirstTone c then some (0, plain) else none
  | turkicI isJoined => if isJoined ∧ c.toNat = 0x10C32 then some (0, plain) else none
  -- the letter that now stands under another has counted one column
  | khmer => if c = '\u17d2' then some (-1, plain) else none
  | kiratE =>
    if c.toNat = 0x16D63 ∨ c.toNat = 0x16D69 then some (0, plain)
    else if c.toNat = 0x16D67 then some (0, kiratAi)
    else if c.toNat = 0x16D68 then some (1, kiratE)
    else none
  | kiratAi => if c.toNat = 0x16D63 then some (0, plain) else none
  | picture => if c = '\u200d' then some (0, joinedPicture) else none
  | tone =>
    if isTonable c then some (0, picture)
    else if c = '\u200d' then some (0, joinedPicture)
    else none
  | flagLetter => if isFlagLetter c then some (1, flagLetters) else none
  | flagLetters =>
    if isFlagLetter c then some (1, flagLetters)
    else if c = '\u200d' then some (0, joinedPicture)
    else none
  | joinedPicture =>
    if c = '\u20e3' then some (0, joinedKeycap)
    else if isFlagLetter c then some (1, joinedFlagLetter)
    else if isTone c then some (0, tone)
    else if c.toNat = 0xE007F then some (0, tagLetters 0)
    else if isPicture c then some (0, picture)
    else none
  | joinedKeycap => none
  -- a flag that is joined to a picture takes no column of its own
  | joinedFlagLetter => if isFlagLetter c then some (-1, joinedFlagLetters true) else none
  | joinedFlagLetters even =>
    if isFlagLetter c then
      if even then some (3, joinedFlagLetters false) else some (-1, joinedFlagLetters true)
    else if c = '\u200d' then some (0, joinedPicture)
    else none
  | tagLetters count =>
    if isTagLetter c ∧ count < 6 then some (0, tagLetters (count + 1))
    else if isTagDigit c ∧ count ≤ 4 then some (0, tagDigits 1)
    else if c.toNat = 0x1F3F4 ∧ 3 ≤ count then some (0, picture)
    else none
  | tagDigits count =>
    if isTagDigit c ∧ count < 3 then some (0, tagDigits (count + 1))
    else if c.toNat = 0x1F3F4 ∧ count = 3 then some (0, picture)
    else none

end Kind

/-! ## §2. Selectors. -/

/-- What a selector asks of the character before it. -/
inductive Style where
  /-- To be drawn as text. -/
  | text
  /-- To be drawn as a picture. -/
  | picture
  /-- To be drawn as wide as an ideograph. -/
  | full
  deriving DecidableEq, Repr

/-- What comes after a character: what starts there, and the selector in
between. -/
structure Following where
  /-- What starts there. -/
  kind : Kind
  /-- The selector in between. -/
  style : Option Style
  deriving DecidableEq, Repr

/-- What a character behind which no selector stands adds to the width, and
what it means to the one before it. -/
def measureBare (c : Char) (k : Kind) : Int × Following :=
  if c.toNat ≤ 0xA0 then (1, ⟨.plain, none⟩)
  else if c = '\ufe0f' then (0, ⟨if k.joinsPicture then k else k.kept, some .picture⟩)
  else if c = '\ufe0e' then (0, ⟨k.kept, some .text⟩)
  else if c = '\ufe01' then (0, ⟨k.kept, some .full⟩)
  else if k.isLetter ∧ k ≠ .alef ∧ isUndrawnMark c then
    (0, ⟨if c = '\u200d' then k.joined else k, none⟩)
  else match k.ligature? c with
    | some (n, k) => (n, ⟨k, none⟩)
    | none => (charWidth c, ⟨.ofChar c, none⟩)

/-- Whether a selector behind a quotation mark makes it wide. -/
def isWidenable (c : Char) : Bool :=
  c = '\u2018' || c = '\u2019' || c = '\u201c' || c = '\u201d'

/-- What a character adds to the width, and what it means to the one before
it. A selector that asks for what a character cannot be is passed over. -/
def measure (c : Char) (f : Following) : Int × Following :=
  match f.style with
  | some .picture =>
    if isSelectable c then (if f.kind.joinsPicture then 0 else 2, ⟨.picture, none⟩)
    else measureBare c f.kind.kept
  | some .text => if isTextable c then (1, ⟨.plain, none⟩) else measureBare c f.kind.kept
  | some .full => if isWidenable c then (2, ⟨.plain, none⟩) else measureBare c f.kind.kept
  | none => measureBare c f.kind

/-! ## §3. Texts. -/

/-- The width of a list of characters so far, and what its start means to a
character before it. -/
def measureAll (cs : List Char) : Int × Following :=
  cs.foldr (fun c (n, f) => let (m, f) := measure c f; (n + m, f)) (0, ⟨.plain, none⟩)

/-- How many columns a text takes. -/
def width (s : String) : Nat := (measureAll s.toList).1.toNat

/-- Characters up to the no-break space take one column each. -/
theorem measureAll_of_narrow (cs : List Char) (h : ∀ c ∈ cs, c.toNat ≤ 0xA0) :
    measureAll cs = ((cs.length : Int), (⟨.plain, none⟩ : Following)) := by
  induction cs with
  | nil => rfl
  | cons c cs ih =>
    have hc : c.toNat ≤ 0xA0 := h c (by simp)
    have ht := ih fun d hd => h d (by simp [hd])
    simp only [measureAll, List.foldr_cons] at ht ⊢
    rw [ht]
    simp [measure, measureBare, hc]

theorem width_of_narrow (s : String) (h : ∀ c ∈ s.toList, c.toNat ≤ 0xA0) :
    width s = s.length := by
  simp [width, measureAll_of_narrow _ h, String.length_toList]

end Lineup.Text
