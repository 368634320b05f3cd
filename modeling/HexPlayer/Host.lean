import HexPlayer.Session.Operation
import HexPlayer.Terminal.Keyboard

/-!
# The host

The host runs a session frame by frame. In each frame it serves the open requests, takes what the
keyboard asks for, and refreshes if a refresh is due. A failure goes into the journal and the frame
goes on; a quit ends everything at once.
-/

namespace HexPlayer

open Session (Config Deed Event Outcome)
open Cartridge (Source)
open Terminal (Command Keyboard Report)

/-- A session with the keyboard that it listens to. -/
structure Host (M D : Type) where
  session : Session M D
  keyboard : Keyboard

namespace Host

/-- The settings of a host: how often frames come, where programs are found, and for how many frames
a key is held where releases are not reported. -/
structure Settings where
  framesPerSecond : Nat := 60
  shelfPath : String := "roms"
  holdFrames : Nat := 6
  deriving DecidableEq, Repr

/-- A failure of the terminal itself. -/
structure TerminalFailure where
  cause : String
  deriving DecidableEq, Repr

namespace TerminalFailure

/-- The text shown to the user. -/
def message (f : TerminalFailure) : String := "terminal error: " ++ f.cause

/-- The texts of the causes underneath. -/
def causes (f : TerminalFailure) : List String := [f.cause]

end TerminalFailure

/-- A host after some of its work, what was done, and whether it has quit. -/
structure Progress (M D : Type) where
  host : Host M D
  deeds : List Deed := []
  quit : Bool := false

variable {M D : Type} [Machine M] [Display D]

/-- An operation of the session, with its failure in the journal. -/
def Progress.ofOutcome (keyboard : Keyboard) (o : Outcome M D) : Progress M D :=
  let o := o.recordError .operationFailed
  ⟨⟨o.session, keyboard⟩, o.deeds, false⟩

/-- Go on unless the host has quit. -/
def Progress.andThen (p : Progress M D) (next : Host M D → Progress M D) : Progress M D :=
  if p.quit then p
  else
    let later := next p.host
    ⟨later.host, p.deeds ++ later.deeds, later.quit⟩

/-- Start: boot the session, and say so if releases have to be made up. -/
def start (cfg : Config) (reportsReleases : Bool) (holdFrames : Nat) (machine : M) (display : D) :
    Progress M D :=
  let booted := ((Session.fresh cfg machine display).boot cfg).recordError .bootFailed
  ⟨⟨booted.session, .fresh reportsReleases holdFrames cfg.defaultTitle⟩,
    (if reportsReleases then [] else [.recorded .releasesUnreported]) ++ booted.deeds, false⟩

/-- Serve every open request. -/
def serve (cfg : Config) (source : Source) (h : Host M D) : Progress M D :=
  .ofOutcome h.keyboard (h.session.serveAll cfg source)

/-- Pass an event on to the session. -/
def handle (cfg : Config) (event : Event) (h : Host M D) : Progress M D :=
  .ofOutcome h.keyboard (h.session.handle cfg event)

/-- Carry out commands up to the first quit. -/
def obey (cfg : Config) : List Command → Host M D → Progress M D
  | [], h => { host := h }
  | .quit :: _, h => { host := h, quit := true }
  | .event event :: rest, h => (h.handle cfg event).andThen (obey cfg rest)

/-- Take one frame of reports: all of them go through the keyboard before the first command is
carried out. -/
def listen (cfg : Config) (reports : List Report) (h : Host M D) : Progress M D :=
  let (commands, keyboard) := h.keyboard.forFrame reports
  obey cfg commands { h with keyboard }

/-- Refresh if a refresh is due. -/
def refresh (cfg : Config) (h : Host M D) : Progress M D :=
  if h.session.desk.transport.refreshDue then h.handle cfg .refresh else { host := h }

/-- One frame. -/
def frame (cfg : Config) (source : Source) (reports : List Report) (h : Host M D) : Progress M D :=
  ((h.serve cfg source).andThen (listen cfg reports)).andThen (refresh cfg)

/-- What each frame did, up to the one that quits. -/
def turns (cfg : Config) (source : Source) : List (List Report) → Host M D → List (Progress M D)
  | [], _ => []
  | reports :: rest, h =>
    let p := h.frame cfg source reports
    p :: if p.quit then [] else turns cfg source rest p.host

/-- The host after its turns. -/
def afterTurns (h : Host M D) (turns : List (Progress M D)) : Host M D :=
  (turns.getLast?.map Progress.host).getD h

/-- A session hosted from start to end: the start, and what each frame did. -/
structure Show (M D : Type) where
  start : Progress M D
  turns : List (Progress M D)

namespace Show

variable {M D : Type}

/-- The host at the end. -/
def final (s : Show M D) : Host M D := s.start.host.afterTurns s.turns

/-- All that was done. -/
def deeds (s : Show M D) : List Deed := s.start.deeds ++ s.turns.flatMap Progress.deeds

end Show

/-- Host a session for frames of reports. -/
def play (cfg : Config) (source : Source) (reportsReleases : Bool) (holdFrames : Nat) (machine : M)
    (display : D) (reports : List (List Report)) : Show M D :=
  let started := start cfg reportsReleases holdFrames machine display
  ⟨started, started.host.turns cfg source reports⟩

end Host

end HexPlayer
