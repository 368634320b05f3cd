import HexPlayer.Text.Cluster
import HexPlayer.Text.Visible

/-!
# Columns of a cluster

Where every column of a line has the same width, most characters take one column. The wide ones of
East Asian text and the pictures take two, and what is drawn over its neighbours or not at all takes
none. The columns of a cluster are counted from its last character to its first one, for what stands
behind a character may be one sign with it. `columns_of_ascii` says that the printing characters of
ASCII take one column each.
-/

namespace HexPlayer.Text

/-- Wide and full-width characters that are no pictures. -/
def wides : List CodeRange :=
  [⟨0x1100, 0x115f⟩, ⟨0x17a4, 0x17a4⟩, ⟨0x2329, 0x232a⟩, ⟨0x2e80, 0x2e99⟩, ⟨0x2e9b, 0x2ef3⟩,
   ⟨0x2f00, 0x2fd5⟩, ⟨0x2ff0, 0x3029⟩, ⟨0x3030, 0x303e⟩, ⟨0x3041, 0x3096⟩, ⟨0x309b, 0x30ff⟩,
   ⟨0x3105, 0x312f⟩, ⟨0x3131, 0x3163⟩, ⟨0x3165, 0x318e⟩, ⟨0x3190, 0x31e3⟩, ⟨0x31ef, 0x321e⟩,
   ⟨0x3220, 0x3247⟩, ⟨0x3250, 0x4dbf⟩, ⟨0x4e00, 0xa48c⟩, ⟨0xa490, 0xa4c6⟩, ⟨0xa960, 0xa97c⟩,
   ⟨0xac00, 0xd7a3⟩, ⟨0xf900, 0xfaff⟩, ⟨0xfe10, 0xfe19⟩, ⟨0xfe30, 0xfe52⟩, ⟨0xfe54, 0xfe66⟩,
   ⟨0xfe68, 0xfe6b⟩, ⟨0xff01, 0xff60⟩, ⟨0xffe0, 0xffe6⟩, ⟨0x16fe0, 0x16fe3⟩, ⟨0x16ff0, 0x16ff1⟩,
   ⟨0x17000, 0x187f7⟩, ⟨0x18800, 0x18cd5⟩, ⟨0x18d00, 0x18d08⟩, ⟨0x1aff0, 0x1aff3⟩,
   ⟨0x1aff5, 0x1affb⟩, ⟨0x1affd, 0x1affe⟩, ⟨0x1b000, 0x1b122⟩, ⟨0x1b132, 0x1b132⟩,
   ⟨0x1b150, 0x1b152⟩, ⟨0x1b155, 0x1b155⟩, ⟨0x1b164, 0x1b167⟩, ⟨0x1b170, 0x1b2fb⟩,
   ⟨0x1f200, 0x1f200⟩, ⟨0x1f202, 0x1f202⟩, ⟨0x1f210, 0x1f219⟩, ⟨0x1f21b, 0x1f22e⟩,
   ⟨0x1f230, 0x1f231⟩, ⟨0x1f237, 0x1f237⟩, ⟨0x1f23b, 0x1f23b⟩, ⟨0x1f240, 0x1f248⟩,
   ⟨0x1f260, 0x1f265⟩, ⟨0x20000, 0x2fffd⟩, ⟨0x30000, 0x3fffd⟩]

/-- Letters that stand below the letter before them if a stacking sign is between the two. -/
def stackedLetters : List CodeRange :=
  [⟨0x1780, 0x1782⟩, ⟨0x1784, 0x1787⟩, ⟨0x1789, 0x178c⟩, ⟨0x178e, 0x1793⟩, ⟨0x1795, 0x1798⟩,
   ⟨0x179b, 0x179d⟩, ⟨0x17a0, 0x17a0⟩, ⟨0x17a2, 0x17a2⟩, ⟨0x17a7, 0x17a7⟩, ⟨0x17ab, 0x17ac⟩,
   ⟨0x17af, 0x17af⟩]

/-- Signs drawn above the characters around them. -/
def overlaidSigns : List CodeRange :=
  [⟨0x605, 0x605⟩, ⟨0x70f, 0x70f⟩, ⟨0x890, 0x891⟩, ⟨0x8e2, 0x8e2⟩, ⟨0xd4e, 0xd4e⟩, ⟨0xa8fa, 0xa8fa⟩,
   ⟨0x111c2, 0x111c3⟩, ⟨0x1171e, 0x1171e⟩, ⟨0x1193f, 0x1193f⟩, ⟨0x11941, 0x11941⟩,
   ⟨0x11a3a, 0x11a3a⟩, ⟨0x11a84, 0x11a89⟩, ⟨0x11d46, 0x11d46⟩, ⟨0x11f02, 0x11f02⟩]

/-- The vowels and closing consonants that join the syllable before them. -/
def joiningLetters : List CodeRange := [⟨0x1160, 0x11ff⟩, ⟨0xd7b0, 0xd7c6⟩, ⟨0xd7cb, 0xd7fb⟩]

/-- The initial letter that is drawn as a blank; it is ignorable, and yet it takes its columns. -/
def blankInitial : Char := '\u115f'

/-- The sign that takes three columns. -/
def threefoldSign : Char := '\u17d8'

/-- The sign that puts the letter behind it below the letter before it. -/
def stackingSign : Char := '\u17d2'

/-- The selector that asks for text. -/
def textSelector : Char := '\ufe0e'

/-- The selector that asks for a picture. -/
def pictureSelector : Char := '\ufe0f'

/-- The frame of a key that encloses the character before it. -/
def keycapFrame : Char := '\u20e3'

/-- Invisible digits that tell whose flag is meant. -/
def tagDigits : CodeRange := ⟨0xe0030, 0xe0039⟩

/-- Invisible letters that tell whose flag is meant. -/
def tagLetters : CodeRange := ⟨0xe0061, 0xe007a⟩

/-- The end of the invisible digits and letters. -/
def tagEnd : Char := Char.ofNat 0xe007f

/-- The flag whose owner invisible digits and letters tell. -/
def taggedFlag : Char := Char.ofNat 0x1f3f4

/-- The pictures that stay wide as text. -/
def squaredIdeographs : CodeRange := ⟨0x1f200, 0x1f2ff⟩

/-- Invisible characters that leave a stacked letter where it is. -/
def invisibleMarks : List CodeRange :=
  [⟨0x34f, 0x34f⟩, ⟨0x17b4, 0x17b5⟩, ⟨0x180b, 0x180d⟩, ⟨0x180f, 0x180f⟩, ⟨0x200d, 0x200d⟩,
   ⟨0xfe00, 0xfe0f⟩, ⟨0xe0100, 0xe01ef⟩]

/-- The character takes no column. -/
def isColumnless (c : Char) : Bool :=
  isAmong extendingMarks c && !isAmong columnMarks c ||
    isAmong extendingSigns c ||
    isAmong ignorables c && c != blankInitial ||
    isAmong joiningLetters c ||
    isAmong overlaidSigns c

/-- What stands behind a character of a cluster, as far as it bears on the columns before it. -/
inductive Behind where
  | plain
  | lineFeed
  | stackedLetter
  | textAsked
  | pictureAsked
  | picture
  | tone
  | halfFlag
  | flag
  | joined
  | joinedKeycap
  | joinedHalfFlag
  | joinedPictureAsked
  | joinedTags (letters digits : Nat)
  deriving DecidableEq, Repr

/-- The columns of a character on its own, and what it is to the character before it. -/
def alone (c : Char) : Int × Behind :=
  if 0x20 ≤ c.toNat ∧ c.toNat < 0x7f then (1, .plain)
  else if c = '\n' then (0, .lineFeed)
  else if flagLetters.has c then (1, .halfFlag)
  else if tones.has c then (2, .tone)
  else if c = threefoldSign then (3, .plain)
  else if isAmong stackedLetters c then (1, .stackedLetter)
  else if isAmong pictures c then (2, .picture)
  else if isColumnless c then (0, .plain)
  else if isAmong wides c then (2, .plain)
  else (1, .plain)

/-- The columns that a character adds to one of the invisible digits and letters behind it, and what
they are to the character before it: three digits, or three to six letters with no more than that,
tell whose flag is meant. -/
def withTags? (letters digits : Nat) (c : Char) : Option (Int × Behind) :=
  if tagLetters.has c && digits == 0 && letters < 6 then some (0, .joinedTags (letters + 1) 0)
  else if tagDigits.has c && digits == 0 && letters ≤ 4 then some (0, .joinedTags 0 1)
  else if tagDigits.has c && 0 < digits && digits < 3 then some (0, .joinedTags 0 (digits + 1))
  else if c == taggedFlag && (3 ≤ letters || digits == 3) then some (0, .picture)
  else none

/-- The columns that a character adds to what stands behind it where the two are one sign, and what
the sign is to the character before it. -/
def together? (c : Char) : Behind → Option (Int × Behind)
  | .plain => none
  | .lineFeed => if c = '\r' then some (0, .plain) else none
  | .stackedLetter =>
    if isAmong invisibleMarks c then some (0, .stackedLetter)
    else if c = stackingSign then some (-1, .plain)
    else none
  | .textAsked =>
    if isAmong choosables c && isAmong pictures c && !squaredIdeographs.has c then some (1, .plain)
    else none
  | .pictureAsked => if isAmong choosables c then some (2, .picture) else none
  | .picture => if c = joiningSign then some (0, .joined) else none
  | .tone =>
    if c = joiningSign then some (0, .joined)
    else if isAmong toneBases c then some (0, .picture)
    else none
  | .halfFlag => if flagLetters.has c then some (1, .flag) else none
  | .flag => if c = joiningSign then some (0, .joined) else none
  | .joined =>
    if c = keycapFrame then some (0, .joinedKeycap)
    else if c = pictureSelector then some (0, .joinedPictureAsked)
    else if c = tagEnd then some (0, .joinedTags 0 0)
    else if flagLetters.has c then some (1, .joinedHalfFlag)
    else if tones.has c then some (0, .tone)
    else if isAmong pictures c then some (0, .picture)
    else none
  | .joinedKeycap => if c = pictureSelector then some (0, .joinedPictureAsked) else none
  | .joinedHalfFlag => if flagLetters.has c then some (-1, .plain) else none
  | .joinedPictureAsked => if isAmong choosables c then some (0, .picture) else none
  | .joinedTags letters digits => withTags? letters digits c

/-- The columns that a character adds to what stands behind it, and what the two are to the
character before them. -/
def columnsBefore (c : Char) (behind : Behind) : Int × Behind :=
  match together? c behind with
  | some r => r
  | none =>
    if c = textSelector then (0, .textAsked)
    else if c = pictureSelector then (0, .pictureAsked)
    else alone c

/-- The columns that a cluster takes. -/
def columns (cluster : List Char) : Nat :=
  let counted := cluster.foldr
    (fun c (counted : Int × Behind) =>
      let (added, behind) := columnsBefore c counted.2
      (counted.1 + added, behind))
    (0, .plain)
  counted.1.toNat

/-- The printing characters of ASCII take one column. -/
theorem columns_of_ascii {c : Char} (hlow : 0x20 ≤ c.toNat) (hhigh : c.toNat < 0x7f) :
    columns [c] = 1 := by
  have htext : c ≠ textSelector := by
    intro h
    subst h
    exact absurd hhigh (by decide)
  have hpicture : c ≠ pictureSelector := by
    intro h
    subst h
    exact absurd hhigh (by decide)
  simp [columns, columnsBefore, together?, alone, htext, hpicture, hlow, hhigh]

end HexPlayer.Text
