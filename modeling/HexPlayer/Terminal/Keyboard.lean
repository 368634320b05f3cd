import HexPlayer.Session.Desk
import HexPlayer.Terminal.HoldTable
import HexPlayer.Terminal.Keystroke

/-!
# The keyboard of a terminal

The keyboard turns the reports of a terminal, frame by frame, into commands for the host. Where
releases are not reported it holds a pressed character for a number of frames and then lets it go.
It also remembers the title selected last, from which the catalog moves count.
-/

namespace HexPlayer.Terminal

open Session (Event)

/-- What a report asks of the host. -/
inductive Command where
  | event (event : Event)
  | quit

/-- The state of a keyboard between reports. -/
structure Keyboard where
  reportsReleases : Bool
  holdFrames : Nat
  holds : HoldTable := .empty
  title : Option String := none

namespace Keyboard

/-- A keyboard before the first report; an unlisted title is none to start from. -/
def fresh (reportsReleases : Bool) (holdFrames : Nat) (title : Option String) : Keyboard where
  reportsReleases := reportsReleases
  holdFrames := holdFrames
  title := title.filter Catalog.isListed

/-- The edge that a phase stands for. -/
def edgeOf : Phase → Edge
  | .press | .again => .pressed
  | .release => .released

/-- A character goes down or comes up. Where releases are not reported, every report holds it anew,
and one about a held character has no edge. -/
def strike (kb : Keyboard) (c : Char) (phase : Phase) : Option Command × Keyboard :=
  let command := Command.event (.key c (edgeOf phase))
  if kb.reportsReleases then (some command, kb)
  else
    (if (kb.holds.left? c).isSome then none else some command,
      { kb with holds := kb.holds.insert c (max kb.holdFrames 1) })

/-- Select the title `step` places from the one selected last. -/
def select (kb : Keyboard) (step : Int) : Option Command × Keyboard :=
  let title := Catalog.move kb.title step
  (some (.event (.select title)), { kb with title := some title })

/-- The keys that command the host; they count when they go down. -/
def command (kb : Keyboard) : KeyCode → Option Command × Keyboard
  | .escape => (some .quit, kb)
  | .char ' ' => (some (.event .playPause), kb)
  | .enter => (some (.event .step), kb)
  | .backspace => (some (.event .reset), kb)
  | .up => kb.select (-1)
  | .down => kb.select 1
  | _ => (none, kb)

/-- A keystroke. Control with the letter `c` quits in any phase, a character other than the blank is
struck in ASCII lower case, and the other keys command. -/
def keystroke (kb : Keyboard) (k : Keystroke) : Option Command × Keyboard :=
  if k.code = .char 'c' && k.modifiers.control then (some .quit, kb)
  else
    match k.code with
    | .char ' ' => if k.phase = .press then kb.command k.code else (none, kb)
    | .char c => kb.strike c.toLower k.phase
    | code => if k.phase = .press then kb.command code else (none, kb)

/-- Only keystrokes ask anything of the host. -/
def report (kb : Keyboard) : Report → Option Command × Keyboard
  | .key k => kb.keystroke k
  | _ => (none, kb)

/-- What reports ask of the host, in order. -/
def reports (kb : Keyboard) : List Report → List Command × Keyboard
  | [] => ([], kb)
  | r :: rest =>
    let (command, kb) := kb.report r
    let (commands, kb) := kb.reports rest
    (command.toList ++ commands, kb)

/-- The releases of the characters that are due, in ascending order. -/
def releases (kb : Keyboard) : List Command :=
  kb.holds.due.map fun c => .event (.key c .released)

/-- Everything for one frame: first the releases that are due, then what the reports ask for. -/
def forFrame (kb : Keyboard) (rs : List Report) : List Command × Keyboard :=
  let (commands, next) := { kb with holds := kb.holds.countdown }.reports rs
  (kb.releases ++ commands, next)

end Keyboard

end HexPlayer.Terminal
