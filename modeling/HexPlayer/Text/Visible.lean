import HexPlayer.Text.CodeRange
import HexPlayer.Text.Mark
import HexPlayer.Text.Unassigned

/-!
# Visible characters

A character is visible if it shows on its own: it is not a control, a format character, a blank, for
private use, unassigned or ignored where it cannot be shown, and no mark that extends the character
before it. The ordinary space counts as visible. `isVisible_of_ascii` says that the printing
characters of ASCII are visible.
-/

namespace HexPlayer.Text

/-- The control characters. -/
def controls : List CodeRange := [⟨0x0, 0x1f⟩, ⟨0x7f, 0x9f⟩]

/-- Blanks and line separators other than the ordinary space. -/
def blanks : List CodeRange :=
  [⟨0xa0, 0xa0⟩, ⟨0x1680, 0x1680⟩, ⟨0x2000, 0x200a⟩, ⟨0x2028, 0x2029⟩, ⟨0x202f, 0x202f⟩,
   ⟨0x205f, 0x205f⟩, ⟨0x3000, 0x3000⟩]

/-- Characters that tell how the ones around them are set. -/
def formats : List CodeRange :=
  [⟨0xad, 0xad⟩, ⟨0x600, 0x605⟩, ⟨0x61c, 0x61c⟩, ⟨0x6dd, 0x6dd⟩, ⟨0x70f, 0x70f⟩, ⟨0x890, 0x891⟩,
   ⟨0x8e2, 0x8e2⟩, ⟨0x180e, 0x180e⟩, ⟨0x200b, 0x200f⟩, ⟨0x202a, 0x202e⟩, ⟨0x2060, 0x2064⟩,
   ⟨0x2066, 0x206f⟩, ⟨0xfeff, 0xfeff⟩, ⟨0xfff9, 0xfffb⟩, ⟨0x110bd, 0x110bd⟩, ⟨0x110cd, 0x110cd⟩,
   ⟨0x13430, 0x1343f⟩, ⟨0x1bca0, 0x1bca3⟩, ⟨0x1d173, 0x1d17a⟩, ⟨0xe0001, 0xe0001⟩,
   ⟨0xe0020, 0xe007f⟩]

/-- Code points for private use. -/
def privateUse : List CodeRange :=
  [⟨0xe000, 0xf8ff⟩, ⟨0xf0000, 0xffffd⟩, ⟨0x100000, 0x10fffd⟩]

/-- Code points that are ignored where they cannot be shown. -/
def ignorables : List CodeRange :=
  [⟨0xad, 0xad⟩, ⟨0x34f, 0x34f⟩, ⟨0x61c, 0x61c⟩, ⟨0x115f, 0x1160⟩, ⟨0x17b4, 0x17b5⟩,
   ⟨0x180b, 0x180f⟩, ⟨0x200b, 0x200f⟩, ⟨0x202a, 0x202e⟩, ⟨0x2060, 0x206f⟩, ⟨0x3164, 0x3164⟩,
   ⟨0xfe00, 0xfe0f⟩, ⟨0xfeff, 0xfeff⟩, ⟨0xffa0, 0xffa0⟩, ⟨0xfff0, 0xfff8⟩, ⟨0x1bca0, 0x1bca3⟩,
   ⟨0x1d173, 0x1d17a⟩, ⟨0xe0000, 0xe0fff⟩]

/-- The classes of characters that do not show on their own. -/
def invisible : List (List CodeRange) :=
  [controls, blanks, formats, privateUse, unassigned, ignorables, extendingMarks]

/-- The character shows on its own. -/
def isVisible (c : Char) : Bool := !invisible.any fun ranges => isAmong ranges c

/-- The printing characters of ASCII are no controls. -/
theorem isAmong_controls_of_ascii {c : Char} (hlow : 0x20 ≤ c.toNat) (hhigh : c.toNat < 0x7f) :
    isAmong controls c = false := by
  simp only [isAmong, CodeRange.has, controls, List.any_cons, List.any_nil, Bool.or_false,
    Bool.or_eq_false_iff, Bool.and_eq_false_iff, decide_eq_false_iff_not]
  omega

/-- The printing characters of ASCII are visible. -/
theorem isVisible_of_ascii {c : Char} (hlow : 0x20 ≤ c.toNat) (hhigh : c.toNat < 0x7f) :
    isVisible c = true := by
  have hcontrols := isAmong_controls_of_ascii hlow hhigh
  have hblanks : isAmong blanks c = false := isAmong_eq_false (by decide) hhigh
  have hformats : isAmong formats c = false := isAmong_eq_false (by decide) hhigh
  have hprivate : isAmong privateUse c = false := isAmong_eq_false (by decide) hhigh
  have hunassigned : isAmong unassigned c = false := isAmong_eq_false (by decide +kernel) hhigh
  have hignorables : isAmong ignorables c = false := isAmong_eq_false (by decide) hhigh
  have hmarks : isAmong extendingMarks c = false := isAmong_eq_false (by decide +kernel) hhigh
  simp [isVisible, invisible, hcontrols, hblanks, hformats, hprivate, hunassigned, hignorables,
    hmarks]

end HexPlayer.Text
