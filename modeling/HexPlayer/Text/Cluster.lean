import HexPlayer.Text.Attached
import HexPlayer.Text.Mark
import HexPlayer.Text.Pictograph
import HexPlayer.Text.Syllable

/-!
# Clusters

What a reader takes for one character may be several: a letter with its marks, the letters of a
syllable, a conjunct, the two letters of a flag, pictures that are joined to one. Text is divided
into such clusters. `flatten_clusters` says that no character is lost or moved.
-/

namespace HexPlayer.Text

/-- How a character goes together with its neighbours. -/
inductive Role where
  | carriageReturn | lineFeed | separator | extending | joiner | spacing | prefixed
  | leading | vowel | trailing | openSyllable | closedSyllable | flagLetter | other
  deriving DecidableEq, Repr

/-- The invisible sign that joins its neighbours. -/
def joiningSign : Char := '\u200d'

/-- The invisible sign that keeps its neighbours from being joined. -/
def partingSign : Char := '\u200c'

/-- The role of a character. -/
def Role.ofChar (c : Char) : Role :=
  if 0x20 ≤ c.toNat ∧ c.toNat < 0x7f then .other
  else if c = '\r' then .carriageReturn
  else if c = '\n' then .lineFeed
  else if isAmong separators c then .separator
  else if c = joiningSign then .joiner
  else if isAmong extendingMarks c || isAmong extendingSigns c || tones.has c then .extending
  else if isAmong spacingSigns c then .spacing
  else if isAmong prefixedSigns c then .prefixed
  else if isAmong leadingLetters c then .leading
  else if isAmong vowelLetters c then .vowel
  else if isAmong trailingLetters c then .trailing
  else if syllables.has c then if isOpenSyllable c then .openSyllable else .closedSyllable
  else if flagLetters.has c then .flagLetter
  else .other

/-- A chain is open behind a member, and linked to what comes next behind a link. -/
inductive Chain where
  | broken | opened | linked
  deriving DecidableEq, Repr

/-- What some text ends with, as far as it bears on the next character. -/
structure Ending where
  role : Role := .separator
  halfFlag : Bool := false
  conjunct : Chain := .broken
  picture : Chain := .broken
  deriving DecidableEq, Repr

namespace Ending

/-- The chain of consonants after one more character. -/
def conjunctAfter (e : Ending) (c : Char) (r : Role) : Chain :=
  if isAmong conjunctConsonants c then .opened
  else if isAmong conjunctLinkers c then if e.conjunct = .broken then .broken else .linked
  else if (r = .extending ∧ c ≠ partingSign) ∨ r = .joiner then e.conjunct
  else .broken

/-- The chain of pictographs after one more character. -/
def pictureAfter (e : Ending) (c : Char) (r : Role) : Chain :=
  if isAmong pictographs c then .opened
  else if e.picture = .opened ∧ r = .extending then .opened
  else if e.picture = .opened ∧ r = .joiner then .linked
  else .broken

/-- The ending after one more character. -/
def after (e : Ending) (c : Char) : Ending :=
  if 0x20 ≤ c.toNat ∧ c.toNat < 0x7f then { role := .other }
  else
    let r := Role.ofChar c
    { role := r
      halfFlag := r = .flagLetter && !e.halfFlag
      conjunct := e.conjunctAfter c r
      picture := e.pictureAfter c r }

/-- Two characters go together by their roles. -/
def rolesJoin : Role → Role → Bool
  | .carriageReturn, .lineFeed => true
  | .carriageReturn, _ | .lineFeed, _ | .separator, _ => false
  | _, .carriageReturn | _, .lineFeed | _, .separator => false
  | _, .extending | _, .joiner | _, .spacing | .prefixed, _ => true
  | .leading, .leading | .leading, .vowel | .leading, .openSyllable => true
  | .leading, .closedSyllable => true
  | .openSyllable, .vowel | .openSyllable, .trailing | .vowel, .vowel | .vowel, .trailing => true
  | .closedSyllable, .trailing | .trailing, .trailing => true
  | _, _ => false

/-- The next character belongs to the cluster at the end. -/
def joins (e : Ending) (c : Char) : Bool :=
  rolesJoin e.role (.ofChar c) ||
    e.conjunct = .linked && isAmong conjunctConsonants c ||
    e.picture = .linked && isAmong pictographs c ||
    e.halfFlag && flagLetters.has c

end Ending

/-- Put a character in front of clusters, into the first one or into one of its own. -/
def putFirst (c : Char) (joined : Bool) : List (List Char) → List (List Char)
  | cluster :: rest => if joined then (c :: cluster) :: rest else [c] :: cluster :: rest
  | [] => [[c]]

/-- The clusters of text that follows other text. -/
def clustersAfter (e : Ending) : List Char → List (List Char)
  | [] => []
  | c :: rest =>
    let e := e.after c
    putFirst c (rest.head?.any e.joins) (clustersAfter e rest)

/-- The clusters of a text. -/
def clusters (text : List Char) : List (List Char) := clustersAfter {} text

theorem flatten_putFirst (c : Char) (joined : Bool) (rest : List (List Char)) :
    (putFirst c joined rest).flatten = c :: rest.flatten := by
  cases rest with
  | nil => rfl
  | cons cluster rest => cases joined <;> simp [putFirst]

/-- The clusters make up the text. -/
theorem flatten_clusters (text : List Char) : (clusters text).flatten = text := by
  suffices h : ∀ e, (clustersAfter e text).flatten = text from h {}
  induction text with
  | nil => exact fun _ => rfl
  | cons c rest ih =>
    intro e
    rw [clustersAfter, flatten_putFirst, ih]

end HexPlayer.Text
