import HexPlayer.Proofs.Host.Cadence
import HexPlayer.Proofs.Session.Fetching
import HexPlayer.Proofs.Terminal.Moves

/-!
# How moves settle

Whatever moves a frame makes in the catalog, its end leaves one request for each of them
(`frame_of_pending`), and the next frame serves them all before it hears of anything else
(`serve_of_pending`). The program of the last move is loaded if there is one to load, and the other
moves are dropped.
-/

namespace HexPlayer.Host

open Session (Config Deed Discreet Docket Event Operation after calls deeds dropped fresh loads
  newestProgram? requestsFrom)
open Cartridge (Request Shelf Source)
open Terminal (Report heard)

variable {M D : Type} [Machine M] [Display D]

/-- What operations load does not hang on the journal. -/
theorem loads_journaled (cfg : Config) (ops : List Operation) (s : Session M D) :
    loads (journaled cfg ops s) = loads (deeds cfg ops s) :=
  congrArg (·.filterMap Call.program?) (calls_journaled cfg ops s)

/-- The failures in the journal drop nothing. -/
theorem dropped_journaled (cfg : Config) (ops : List Operation) (s : Session M D) :
    dropped (journaled cfg ops s) = dropped (deeds cfg ops s) := by
  induction ops generalizing s with
  | nil => rfl
  | cons op ops ih =>
    rw [journaled_cons, Session.deeds_cons, Session.dropped_append, Session.dropped_append, ih,
      Session.dropped_recordError fun _ => rfl]

/-- Serving is one operation. -/
theorem serve_eq (cfg : Config) (source : Source) (h : Host M D) :
    h.serve cfg source =
      ⟨⟨after cfg [.serveAll source] h.session, h.keyboard⟩,
        journaled cfg [.serveAll source] h.session, false⟩ :=
  ofOutcome_operate cfg h.session (.serveAll source) h.keyboard

/-- The events of a frame: those that the host hears and, unless the frame quits, a refresh if one
is due after them. -/
def eventsOf (cfg : Config) (source : Source) (reports : List Report) (h : Host M D) :
    List Event :=
  heard (h.keyboard.forFrame reports).1 ++
    if reports.any Report.quits = false ∧
      (after cfg (h.inputs source reports) h.session).desk.transport.refreshDue then [.refresh]
    else []

/-- A frame serves the open requests and handles its events. -/
theorem operations_eq (cfg : Config) (source : Source) (reports : List Report) (h : Host M D) :
    h.operations cfg source reports =
      .serveAll source :: (h.eventsOf cfg source reports).map .handle := by
  rw [operations, eventsOf, refreshOf, List.map_append]
  cases reports.any Report.quits with
  | true => rfl
  | false =>
    simp only [Bool.false_eq_true, if_false, true_and]
    split <;> rfl

/-- The events of a frame are plain. -/
theorem isPlain_eventsOf (cfg : Config) (source : Source) (reports : List Report) (h : Host M D) :
    ∀ event ∈ h.eventsOf cfg source reports, event.isPlain = true := by
  intro event member
  rcases List.mem_append.mp member with hears | refreshes
  · exact h.keyboard.isPlain_of_mem_heard reports hears
  · split at refreshes
    · rw [List.mem_singleton.mp refreshes]
      rfl
    · cases refreshes

/-- The titles that the events of a frame select are those that the host hears. -/
theorem titles_eventsOf (cfg : Config) (source : Source) (reports : List Report) (h : Host M D) :
    (h.eventsOf cfg source reports).filterMap Event.title? =
      (heard (h.keyboard.forFrame reports).1).filterMap Event.title? := by
  rw [eventsOf, List.filterMap_append]
  split <;> exact List.append_nil _

/-- The requests for the titles that the moves of a frame lead to. -/
def requestsOf (cfg : Config) (source : Source) (reports : List Report) (h : Host M D) :
    List Request :=
  requestsFrom (h.serve cfg source).host.session.desk.nextTicket
    (Catalog.course h.keyboard.title (reports.filterMap Report.step?))

/-- What comes of the moves of a frame. -/
structure Settles (cfg : Config) (source : Source) (h : Host M D) (reports : List Report)
    (p : Progress M D) : Prop where
  /-- When the host hears of the frame, no request is open. -/
  served : (h.serve cfg source).host.session.desk.outbox = []
  /-- Nor is a ticket awaited. -/
  unawaited : (h.serve cfg source).host.session.desk.awaited = none
  /-- If the frame goes on, all titles on its course are requested. -/
  requested : p.quit = false → p.host.session.desk.outbox = h.requestsOf cfg source reports
  /-- Up to the time when the host hears of the next frame, the program of the last of these
  requests is loaded if it is delivered within the limit, and nothing else is; the others are
  dropped. The machine gets the other calls of the frame first and then the load. -/
  settled : p.quit = false → ∃ rest, p.deeds = (h.serve cfg source).deeds ++ rest ∧
    let next := p.host.serve cfg source
    let program := newestProgram? cfg source (h.requestsOf cfg source reports)
    loads (rest ++ next.deeds) = program.toList ∧
    dropped (rest ++ next.deeds) =
      (h.requestsOf cfg source reports).dropLast.map Request.ticket ∧
    p.host.session.machine =
      Machine.afterCalls (calls rest) (h.serve cfg source).host.session.machine ∧
    next.host.session.machine = program.elim p.host.session.machine
      fun program => Machine.call (.load program) p.host.session.machine

section Frame

variable (cfg : Config) {source : Source} (discreet : Discreet source)
include discreet

/-- Serving settles a pending docket. -/
theorem serve_of_pending {h : Host M D} (pending : h.session.desk.docket.Pending) :
    let served := h.serve cfg source
    let program := newestProgram? cfg source h.session.desk.outbox
    (served.host.session.desk.outbox = [] ∧ served.host.session.desk.awaited = none) ∧
      loads served.deeds = program.toList ∧
      dropped served.deeds = h.session.desk.outbox.dropLast.map Request.ticket ∧
      served.host.session.machine = program.elim h.session.machine
        fun program => Machine.call (.load program) h.session.machine := by
  intro served program
  have spec := Session.serveAll_of_pending discreet cfg pending
  have done : deeds cfg [.serveAll source] h.session = (h.session.serveAll cfg source).deeds :=
    List.append_nil _
  simp only [served, serve_eq, loads_journaled, dropped_journaled, done]
  exact spec

/-- A frame that goes on from a pending docket leaves one, with a request for every move. -/
theorem frame_of_pending {h : Host M D} {reports : List Report}
    (pending : h.session.desk.docket.Pending) (goesOn : reports.any Report.quits = false) :
    let next := (h.frame cfg source reports).host.session.desk
    next.outbox = h.requestsOf cfg source reports ∧ next.docket.Pending := by
  intro next
  obtain ⟨⟨served, unawaited⟩, -⟩ := serve_of_pending cfg discreet pending
  have docket : next.docket = (h.serve cfg source).host.session.desk.docket.requestAll
      (Catalog.course h.keyboard.title (reports.filterMap Report.step?)) := by
    have titles : (h.eventsOf cfg source reports).filterMap Event.title? =
        Catalog.course h.keyboard.title (reports.filterMap Report.step?) := by
      rw [titles_eventsOf, h.keyboard.titles_heard, Terminal.beforeQuit_of_goesOn goesOn]
    rw [← titles, ← Session.docket_events cfg (isPlain_eventsOf cfg source reports h)]
    simp only [next, session_frame, operations_eq, serve_eq]
    rfl
  obtain ⟨outbox, pendingNext⟩ := Session.pending_requestAll
    (k := (h.serve cfg source).host.session.desk.docket) served unawaited
    (Catalog.course h.keyboard.title (reports.filterMap Report.step?))
  rw [← docket] at outbox pendingNext
  exact ⟨outbox, pendingNext⟩

/-- The moves of a frame that starts from a pending docket settle. -/
theorem settles_frame {h : Host M D} (reports : List Report)
    (pending : h.session.desk.docket.Pending) :
    Settles cfg source h reports (h.frame cfg source reports) := by
  obtain ⟨⟨served, unawaited⟩, -⟩ := serve_of_pending cfg discreet pending
  have quits := h.quit_frame cfg source reports
  refine ⟨served, unawaited, fun goesOn => ?_, fun goesOn => ?_⟩
  · exact (frame_of_pending cfg discreet pending (quits ▸ goesOn)).1
  · have goesOn : reports.any Report.quits = false := quits ▸ goesOn
    obtain ⟨outbox, pendingNext⟩ := frame_of_pending cfg discreet pending goesOn
    obtain ⟨-, loaded, drops, reached⟩ := serve_of_pending cfg discreet pendingNext
    let events := h.eventsOf cfg source reports
    obtain ⟨loadedNone, dropsNone⟩ := Session.fetched_events cfg
      (isPlain_eventsOf cfg source reports h) (h.serve cfg source).host.session
    have session : (h.frame cfg source reports).host.session =
        after cfg (events.map .handle) (h.serve cfg source).host.session := by
      rw [session_frame, operations_eq, serve_eq]
      rfl
    refine ⟨journaled cfg (events.map .handle) (h.serve cfg source).host.session, ?_, ?_, ?_, ?_,
      ?_⟩
    · rw [deeds_frame, operations_eq, serve_eq, ← journaled_append]
      rfl
    · rw [Session.loads_append, loads_journaled, loadedNone, loaded, outbox]
      rfl
    · rw [Session.dropped_append, dropped_journaled, dropsNone, drops, outbox]
      rfl
    · rw [session]
      exact (effects_journaled cfg _ _).machine
    · rw [← outbox]
      exact reached

end Frame

/-- The moves of every frame of a show settle with the next frame, for a source that leaves it to
the session to report what is superseded. -/
theorem moves_settle (cfg : Config) {source : Source} (discreet : Discreet source)
    (reportsReleases : Bool) (holdFrames : Nat) (machine : M) (display : D)
    (frames : List (List Report)) :
    let played := play cfg source reportsReleases holdFrames machine display frames
    ∀ earlier p later, played.turns = earlier ++ p :: later →
      ∃ reports, frames[earlier.length]? = some reports ∧
        Settles cfg source (played.start.host.afterTurns earlier) reports p := by
  intro played earlier p later split
  obtain ⟨before, reports, rest, rfl, rfl, length, goOn, rfl, -⟩ := eq_of_turns_eq split
  have booted : played.start.host.session.desk.docket.Pending := by
    rw [show played.start.host.session = _ from session_start ..]
    exact Session.pending_boot cfg machine display
  have pending := keeps_afterTurns (fun h : Host M D => h.session.desk.docket.Pending)
    (fun h reports pending goesOn => (frame_of_pending cfg discreet pending goesOn).2) goOn booted
  exact ⟨reports, by simp [length], settles_frame cfg discreet reports pending⟩

/-- A player who moves down twice in one frame gets the second program, and the request for the
first is dropped. -/
theorem moves_settle_on_blitz :
    let cfg : Config := { resolution := ⟨2, 1⟩, pixelSize := 1 }
    let shelf : Shelf := ⟨"roms", [(["15PUZZLE"], .file #[7]), (["BLITZ"], .file #[8])], 3584⟩
    let machine : StandIn.Tape := { frame := #[0, 0] }
    let down : Report := .key { code := .down }
    let played := play cfg shelf.source true 6 machine ({} : StandIn.Monitor) [[down, down], []]
    let first := played.start.host.frame cfg shelf.source [down, down]
    let second := first.host.frame cfg shelf.source []
    let next := first.host.serve cfg shelf.source
    Discreet shelf.source ∧ played.turns = [] ++ first :: [second] ∧
      first.host.session.desk.outbox = [⟨⟨1⟩, "15PUZZLE"⟩, ⟨⟨2⟩, "BLITZ"⟩] ∧
      (∃ rest, first.deeds = (played.start.host.serve cfg shelf.source).deeds ++ rest ∧
        loads (rest ++ next.deeds) = [#[8]] ∧ dropped (rest ++ next.deeds) = [⟨1⟩]) ∧
      next.host.session.machine = Machine.call (.load #[8]) first.host.session.machine ∧
      next.host.session.machine.made = [.reset, .reset, .load #[8]] := by
  intro cfg shelf machine down played first second next
  have goesOn : first.quit = false := quit_frame cfg _ [down, down] _
  have split : played.turns = [] ++ first :: [second] := by
    have shown : played.turns =
        played.start.host.turns cfg shelf.source [[down, down], []] := rfl
    have moves : [down, down].any Report.quits = false := rfl
    rw [shown, turns_cons_of_goesOn _ _ moves, turns_cons_of_goesOn _ _ rfl]
    rfl
  have discreet : Discreet shelf.source :=
    Session.discreet_of_shelves fun _ => ⟨shelf, rfl⟩
  obtain ⟨reports, isFrame, settles⟩ :=
    moves_settle cfg discreet true 6 machine ({} : StandIn.Monitor) [[down, down], []] _ _ _ split
  obtain rfl : [down, down] = reports := Option.some.inj isFrame
  have requests : played.start.host.requestsOf cfg shelf.source [down, down] =
      [⟨⟨1⟩, "15PUZZLE"⟩, ⟨⟨2⟩, "BLITZ"⟩] := by decide +kernel
  have program : newestProgram? cfg shelf.source [⟨⟨1⟩, "15PUZZLE"⟩, ⟨⟨2⟩, "BLITZ"⟩] =
      some #[8] := by decide +kernel
  have requested := settles.requested goesOn
  obtain ⟨rest, done, loaded, drops, -, reached⟩ := settles.settled goesOn
  have start : played.start.host.afterTurns [] = played.start.host := rfl
  rw [start, requests] at requested loaded drops reached
  rw [program] at loaded reached
  rw [start] at done
  exact ⟨discreet, split, requested, ⟨rest, done, loaded, drops⟩, reached, by decide +kernel⟩

end HexPlayer.Host
