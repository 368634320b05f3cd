import HexPlayer.Session.Devices

/-!
# A stand-in display

The monitor keeps the lamps that it was shown last, and fails while it is told to.
-/

namespace HexPlayer.StandIn

/-- A display that can be made to fail. -/
structure Monitor where
  held : List Key := []
  failing : Bool := false
  deriving DecidableEq, Repr

namespace Monitor

/-- The cause that a failing monitor gives. -/
def cause : String := "display lost"

instance : Display Monitor where
  present _ panel m :=
    if m.failing then (m, some cause) else ({ m with held := panel.lamps.litKeys }, none)

end Monitor

end HexPlayer.StandIn
