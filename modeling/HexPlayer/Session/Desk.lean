import HexPlayer.Cartridge.Catalog
import HexPlayer.Cartridge.Source
import HexPlayer.Session.Devices

/-!
# The desk of a session

The desk is all that a session decides by: the transport, the lamps, the selected title and the open
requests. It turns an event into a decision, which is the next desk, the acts to carry out on the
devices, and the reason if the event is refused. No act reports back to the desk, so neither frames
nor failures have a say in it.
-/

namespace HexPlayer.Session

open Cartridge (Ticket Request Program)
open Journal (Entry)

/-- The settings of a session. -/
structure Config where
  resolution : Resolution := {}
  pixelSize : Nat := 8
  on : Colour := .white
  off : Colour := .black
  layout : Layout := .standard
  /-- The title to fetch at boot, if any. -/
  defaultTitle : Option String := some Catalog.defaultTitle
  /-- Render straight after a reset, in place of leaving the old picture up. -/
  redrawOnReset : Bool := true
  maxProgramLength : Nat := Catalog.maxProgramLength

/-- The painter of a session. -/
def Config.painter (cfg : Config) : Painter :=
  .ofPixelSize cfg.resolution cfg.pixelSize cfg.on cfg.off

/-- Everything that a host can tell a session. -/
inductive Event where
  | key (code : Char) (edge : Edge)
  | refresh
  | playPause
  | step
  | reset
  | select (title : String)
  | fetched (ticket : Ticket) (result : Except Cartridge.Error Program)

/-- What a session does to its devices and its journal. A drawing that an action asked for carries
the action, under which its failure is recorded. -/
inductive Act where
  | call (call : Call)
  | draw (action : Option Action)
  | present
  | record (entry : Entry)
  deriving DecidableEq, Repr

/-- All that a session decides by. -/
structure Desk where
  transport : Transport := {}
  lamps : Lamps := .dark
  selected : Option String := none
  nextTicket : Nat := 0
  awaited : Option Ticket := none
  outbox : List Request := []
  deriving DecidableEq, Repr

/-- What an event leads to. -/
structure Decision where
  desk : Desk
  acts : List Act := []
  refusal : Option Error := none

/-- What an action does to the devices; a program is at hand only when one was delivered. -/
def actsOf (program : Option Program) : Action → List Act
  | .step => [.call .tick, .draw (some .step)]
  | .reset => [.call .reset]
  | .render => [.draw (some .render)]
  | .fetchRom => []
  | .loadRom =>
    match program with
    | some program => [.record (.programLoading program.size), .call (.load program)]
    | none => []

namespace Desk

/-- The panel that the desk shows. -/
def panel (cfg : Config) (d : Desk) : Panel where
  state := d.transport.state
  title := d.selected
  lamps := d.lamps
  layout := cfg.layout

/-- Put a request for the selected title into the outbox and await its ticket alone. -/
def requestSelected (d : Desk) : Desk :=
  match d.selected with
  | none => d
  | some title =>
    { d with
      nextTicket := d.nextTicket + 1
      awaited := some ⟨d.nextTicket⟩
      outbox := d.outbox ++ [⟨⟨d.nextTicket⟩, title⟩] }

/-- What an action does to the desk. -/
def afterAction (d : Desk) : Action → Desk
  | .fetchRom => d.requestSelected
  | _ => d

/-- Hand a control to the transport and follow its actions in order. -/
def control (cfg : Config) (d : Desk) (c : Control) (program : Option Program) : Decision :=
  let (transport, actions) := d.transport.obey cfg.redrawOnReset c
  { desk := actions.foldl afterAction { d with transport }
    acts := .record (.controlTaken c transport.state actions) :: actions.flatMap (actsOf program) }

/-- A stroke lights or darkens a lamp and goes to the machine; a character without a key is recorded
and goes nowhere. -/
def key (cfg : Config) (d : Desk) (code : Char) (edge : Edge) : Decision :=
  match cfg.layout.stroke? code edge with
  | none => { desk := d, acts := [.record (.keyIgnored code)] }
  | some stroke =>
    { desk := { d with lamps := d.lamps.register stroke }
      acts := [.call (.ofStroke stroke), .present] }

/-- Select a listed title. The empty title selects nothing, and any other one is refused. -/
def select (cfg : Config) (d : Desk) (title : String) : Decision :=
  if title = "" then { desk := d }
  else if Catalog.isListed title then
    let decision := { d with selected := some title }.control cfg .romSelected none
    { decision with acts := .record (.titleSelected title) :: decision.acts }
  else { desk := d, refusal := some (.unknownTitle title) }

/-- Take the completion of a request. Only the awaited ticket counts, and only once. -/
def fetched (cfg : Config) (d : Desk) (ticket : Ticket)
    (result : Except Cartridge.Error Program) : Decision :=
  if d.awaited = some ticket then
    let d := { d with awaited := none }
    match result with
    | .error error => { desk := d, refusal := some (.cartridge error) }
    | .ok program =>
      if cfg.maxProgramLength < program.size then
        { desk := d
          refusal := some (.cartridge
            (.tooLarge (d.selected.getD "") program.size cfg.maxProgramLength)) }
      else d.control cfg .romLoaded (some program)
  else { desk := d, acts := [.record (.fetchSuperseded ticket)] }

/-- What an event leads to. -/
def decide (cfg : Config) (d : Desk) : Event → Decision
  | .key code edge => d.key cfg code edge
  | .refresh => d.control cfg .refreshFired none
  | .playPause => d.control cfg .playPauseToggled none
  | .step => d.control cfg .singleStepRequested none
  | .reset => d.control cfg .resetRequested none
  | .select title => d.select cfg title
  | .fetched ticket result => d.fetched cfg ticket result

/-- Boot: request the default title and draw the first picture. An unlisted default is refused, but
the picture is drawn all the same. -/
def boot (cfg : Config) (d : Desk) : Decision :=
  match cfg.defaultTitle with
  | none => { desk := d, acts := [.draw none] }
  | some title =>
    if Catalog.isListed title then
      { desk := { d with selected := some title }.requestSelected, acts := [.draw none] }
    else if title = "" then { desk := d, acts := [.draw none] }
    else { desk := d, acts := [.draw none], refusal := some (.unknownTitle title) }

end Desk

end HexPlayer.Session
