import HexPlayer.Cartridge.Error
import HexPlayer.Picture.Painter

/-!
# What can go wrong in a session

A program is refused, a frame cannot be rendered, the display fails, or a title is not on offer.
-/

namespace HexPlayer.Session

/-- The failure that an operation of a session reports. -/
inductive Error where
  | cartridge (error : Cartridge.Error)
  | render (mismatch : FrameMismatch)
  | display (cause : String)
  | unknownTitle (title : String)
  deriving DecidableEq, Repr

namespace Error

/-- The text shown to the user; a refused program speaks for itself. -/
def message : Error → String
  | .cartridge error => error.message
  | .render mismatch => "failed to render frame: " ++ mismatch.message
  | .display cause => "failed to present frame: " ++ cause
  | .unknownTitle title => title ++ " is not in the ROM catalog"

/-- The texts of the causes underneath, nearest first. -/
def causes : Error → List String
  | .cartridge error => error.causes
  | .render mismatch => [mismatch.message]
  | .display cause => [cause]
  | .unknownTitle _ => []

end Error

end HexPlayer.Session
