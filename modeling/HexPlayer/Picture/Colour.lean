/-!
# Colours

Colours have eight bits for each of red, green and blue.
-/

namespace HexPlayer

/-- A colour by its red, green and blue parts. -/
structure Colour where
  red : UInt8
  green : UInt8
  blue : UInt8
  deriving DecidableEq, Repr

namespace Colour

/-- All parts at their highest. -/
def white : Colour := ⟨0xff, 0xff, 0xff⟩

/-- All parts zero. -/
def black : Colour := ⟨0, 0, 0⟩

end Colour

end HexPlayer
