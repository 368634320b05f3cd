/-!
# What a terminal reports

A terminal reports keystrokes and a few things that have nothing to do with the keyboard. Only one
that speaks the keyboard protocol names the modifiers that are down at a press.
-/

namespace HexPlayer.Terminal

/-- A key of the host keyboard; keys of no use here go by their names. -/
inductive KeyCode where
  | char (c : Char)
  | enter
  | escape
  | backspace
  | up
  | down
  | other (name : String)
  deriving DecidableEq, Repr

/-- Whether the key went down, is repeated while down, or came up. -/
inductive Phase where
  | press
  | again
  | release
  deriving DecidableEq, Repr

/-- The modifiers that are down. -/
structure Modifiers where
  shift : Bool := false
  control : Bool := false
  alt : Bool := false
  super : Bool := false
  deriving DecidableEq, Repr

/-- One report about a key. -/
structure Keystroke where
  code : KeyCode
  phase : Phase := .press
  modifiers : Modifiers := {}
  deriving DecidableEq, Repr

namespace Keystroke

/-- The keystroke as a terminal without the keyboard protocol tells it: a press is its key alone. -/
def bare (k : Keystroke) : Keystroke :=
  if k.phase = .press then { k with modifiers := {} } else k

/-- Control and the letter `c`, which interrupts on any terminal. -/
def interrupt : Keystroke := { code := .char 'c', modifiers := { control := true } }

end Keystroke

/-- Anything that a terminal reports. -/
inductive Report where
  | key (stroke : Keystroke)
  | focusGained
  | focusLost
  | mouse
  | paste (text : String)
  | resize (columns rows : Nat)
  deriving DecidableEq, Repr

end HexPlayer.Terminal
