/-!
# Terminal modes

A host takes the terminal over and gives it back. Each change of mode is one item, and
`state_after_close` says that the terminal ends as it was found.
-/

namespace HexPlayer.Terminal

/-- A change of the terminal's mode. -/
inductive ModeChange where
  | rawMode (on : Bool)
  | alternateScreen (on : Bool)
  | releaseReports (on : Bool)
  | cursor (visible : Bool)
  deriving DecidableEq, Repr

/-- The modes that a host changes. -/
structure ModeState where
  rawMode : Bool := false
  alternateScreen : Bool := false
  releaseReports : Bool := false
  cursorVisible : Bool := true
  deriving DecidableEq, Repr

namespace ModeState

/-- The modes after one change. -/
def apply (s : ModeState) : ModeChange → ModeState
  | .rawMode on => { s with rawMode := on }
  | .alternateScreen on => { s with alternateScreen := on }
  | .releaseReports on => { s with releaseReports := on }
  | .cursor visible => { s with cursorVisible := visible }

/-- The modes after changes in order. -/
def applyAll (s : ModeState) (changes : List ModeChange) : ModeState := changes.foldl apply s

end ModeState

namespace ModeChange

/-- What a display does before it draws. -/
def openDisplay : List ModeChange := [.cursor false]

/-- What a display does when it is done. -/
def closeDisplay : List ModeChange := [.cursor true]

/-- What a host does first; release reports are asked for only where the terminal has them. -/
def openHost (reportsReleases : Bool) : List ModeChange :=
  [.rawMode true, .alternateScreen true] ++
    (if reportsReleases then [.releaseReports true] else []) ++ openDisplay

/-- What a host does last. -/
def closeHost (reportsReleases : Bool) : List ModeChange :=
  closeDisplay ++ (if reportsReleases then [.releaseReports false] else []) ++
    [.alternateScreen false, .rawMode false]

end ModeChange

/-- A terminal in its usual modes is back in them after a host has come and gone. -/
theorem state_after_close (reportsReleases : Bool) :
    ModeState.applyAll {} (ModeChange.openHost reportsReleases ++
      ModeChange.closeHost reportsReleases) = {} := by
  cases reportsReleases <;> rfl

end HexPlayer.Terminal
