/-!
# Why a program cannot be had

A program is missing, cannot be read, or is longer than allowed.
-/

namespace HexPlayer.Cartridge

/-- A reason for which no program was loaded; an unreadable one carries the text of its cause. -/
inductive Error where
  | notFound (title : String)
  | unreadable (title cause : String)
  | tooLarge (title : String) (size limit : Nat)
  deriving DecidableEq, Repr

namespace Error

/-- The text shown to the user. -/
def message : Error → String
  | .notFound title => s!"ROM {title} not found"
  | .unreadable title cause => s!"failed to read ROM {title}: {cause}"
  | .tooLarge title size limit =>
    s!"ROM {title} is too large ({size} bytes), max size is {limit} bytes"

/-- The texts of the causes underneath, nearest first. -/
def causes : Error → List String
  | .unreadable _ cause => [cause]
  | _ => []

end Error

end HexPlayer.Cartridge
