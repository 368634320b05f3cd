/-!
# Transport

The transport decides whether the machine advances by itself, once, or not at all. It never touches
the machine: every control hands back the actions to carry out, in order.

| state   | control             | next    | actions                       |
|---------|---------------------|---------|-------------------------------|
| stopped | playPauseToggled    | running | none, a refresh becomes due   |
| running | playPauseToggled    | stopped | none                          |
| running | refreshFired        | running | step, a refresh becomes due   |
| stopped | refreshFired        | stopped | none, no refresh is due       |
| stopped | singleStepRequested | stopped | step                          |
| running | singleStepRequested | running | none                          |
| any     | romSelected         | stopped | reset, render, fetchRom       |
| any     | resetRequested      | same    | reset, and render if asked to |
| any     | romLoaded           | same    | loadRom                       |
-/

namespace HexPlayer

/-- Whether the machine advances by itself. -/
inductive RunState where
  | stopped
  | running
  deriving DecidableEq, Repr

/-- What the transport can be told. -/
inductive Control where
  | playPauseToggled
  | refreshFired
  | singleStepRequested
  | romSelected
  | resetRequested
  | romLoaded
  deriving DecidableEq, Repr

/-- What the transport can ask for; a step is one tick of the machine followed by a render. -/
inductive Action where
  | step
  | reset
  | render
  | fetchRom
  | loadRom
  deriving DecidableEq, Repr

/-- The word for the state on the panel. -/
def RunState.text : RunState → String
  | .stopped => "stopped"
  | .running => "running"

/-- The name of the control in the journal. -/
def Control.text : Control → String
  | .playPauseToggled => "PlayPauseToggled"
  | .refreshFired => "RefreshFired"
  | .singleStepRequested => "SingleStepRequested"
  | .romSelected => "RomSelected"
  | .resetRequested => "ResetRequested"
  | .romLoaded => "RomLoaded"

/-- The name of the action in the journal. -/
def Action.text : Action → String
  | .step => "Step"
  | .reset => "Reset"
  | .render => "Render"
  | .fetchRom => "FetchRom"
  | .loadRom => "LoadRom"

/-- The run state, and whether a refresh is due; however often play is toggled, there is at most
one. -/
structure Transport where
  state : RunState := .stopped
  refreshDue : Bool := false
  deriving DecidableEq, Repr

namespace Transport

/-- The transport after a control, and the actions that the control leads to. With `redraw` a reset
is followed by a render. -/
def obey (redraw : Bool) (t : Transport) : Control → Transport × List Action
  | .playPauseToggled =>
    match t.state with
    | .stopped => (⟨.running, true⟩, [])
    | .running => (⟨.stopped, t.refreshDue⟩, [])
  | .refreshFired =>
    match t.state with
    | .stopped => (⟨.stopped, false⟩, [])
    | .running => (⟨.running, true⟩, [.step])
  | .singleStepRequested =>
    match t.state with
    | .stopped => (t, [.step])
    | .running => (t, [])
  | .romSelected => (⟨.stopped, t.refreshDue⟩, [.reset, .render, .fetchRom])
  | .resetRequested => (t, if redraw then [.reset, .render] else [.reset])
  | .romLoaded => (t, [.loadRom])

end Transport

end HexPlayer
