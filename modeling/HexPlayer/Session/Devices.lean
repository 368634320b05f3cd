import HexPlayer.Cartridge.Request
import HexPlayer.Pad.Lamps
import HexPlayer.Picture.Painter
import HexPlayer.Transport

/-!
# The devices of a session

A session steers a machine and a display. A machine is anything that answers the calls and shows a
frame; a display is anything that takes a raster and a panel, or fails to.
-/

namespace HexPlayer

/-- The calls that a session makes on its machine. -/
inductive Call where
  | reset
  | load (program : Cartridge.Program)
  | tick
  | press (key : Key)
  | release (key : Key)
  deriving DecidableEq, Repr

/-- The call that passes a stroke on. -/
def Call.ofStroke (s : Stroke) : Call :=
  match s.edge with
  | .pressed => .press s.key
  | .released => .release s.key

/-- A machine: its state after a call, and the frame that it shows. The frame should have one byte
for each pixel; the session checks that whenever it draws. -/
class Machine (M : Type) where
  call : Call → M → M
  frame : M → Frame

/-- Everything around the picture that a display may show. -/
structure Panel where
  state : RunState
  title : Option String
  lamps : Lamps
  layout : Layout

/-- A display: its state after it was handed a raster and a panel, and the cause if it failed. -/
class Display (D : Type) where
  present : Raster → Panel → D → D × Option String

end HexPlayer
