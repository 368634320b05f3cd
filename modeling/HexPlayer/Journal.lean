import HexPlayer.Cartridge.Request
import HexPlayer.Session.Error
import HexPlayer.Text.Quoted
import HexPlayer.Transport

/-!
# The journal

Everything that is written to the journal is an entry of one kind; level and wording of the kinds
are set down here and nowhere else.
-/

namespace HexPlayer.Journal

/-- How serious an entry is. -/
inductive Level where
  | error
  | warn
  | info
  | debug
  | trace
  deriving DecidableEq, Repr

/-- The word that a line of the journal starts with. -/
def Level.text : Level → String
  | .error => "ERROR"
  | .warn => "WARN"
  | .info => "INFO"
  | .debug => "DEBUG"
  | .trace => "TRACE"

/-- What the journal records. -/
inductive Entry where
  /-- A host character has no key. -/
  | keyIgnored (code : Char)
  /-- The transport took a control and asked for actions. -/
  | controlTaken (control : Control) (now : RunState) (actions : List Action)
  /-- A listed title was selected. -/
  | titleSelected (title : String)
  /-- A program was read from this path. -/
  | programFetched (title : String) (size : Nat) (path : String)
  /-- A program goes into the machine. -/
  | programLoading (size : Nat)
  /-- A completion came for a ticket that is not awaited. -/
  | fetchSuperseded (ticket : Cartridge.Ticket)
  /-- A frame had bytes that are neither zero nor one. -/
  | strayPixels (count : Nat)
  /-- Releases have to be made up for this terminal. -/
  | releasesUnreported
  /-- An action of the transport failed. -/
  | actionFailed (action : Action) (error : Session.Error)
  /-- The session started with a failure. -/
  | bootFailed (error : Session.Error)
  /-- An operation that the host asked for failed. -/
  | operationFailed (error : Session.Error)
  deriving DecidableEq, Repr

/-- Names of actions, in brackets. -/
def actionsText (actions : List Action) : String :=
  "[" ++ ", ".intercalate (actions.map Action.text) ++ "]"

namespace Entry

/-- How serious the entry is. -/
def level : Entry → Level
  | .keyIgnored _ => .trace
  | .controlTaken .. => .debug
  | .titleSelected _ | .programFetched .. | .programLoading _ => .info
  | .fetchSuperseded _ | .strayPixels _ | .releasesUnreported => .warn
  | .actionFailed .. | .bootFailed _ | .operationFailed _ => .error

/-- The wording of the entry. -/
def text : Entry → String
  | .keyIgnored code => "ignoring unmapped key " ++ Text.quoted code
  | .controlTaken control now actions =>
    control.text ++ " -> " ++ now.text ++ " " ++ actionsText actions
  | .titleSelected title => "selected " ++ title
  | .programFetched title size path => s!"fetched {title} ({size} bytes) from {path}"
  | .programLoading size => s!"loading {size} bytes"
  | .fetchSuperseded ticket => "dropping ROM fetch " ++ ticket.text ++ ", superseded"
  | .strayPixels count => s!"{count} pixels outside 0/1 drawn as off"
  | .releasesUnreported => "terminal doesn't report key releases, holding keys for a few frames"
  | .actionFailed action error => action.text ++ " failed: " ++ error.message
  | .bootFailed error => "boot: " ++ error.message
  | .operationFailed error => error.message

/-- The line of the journal. -/
def line (e : Entry) : String := e.level.text ++ " " ++ e.text

end Entry

end HexPlayer.Journal
