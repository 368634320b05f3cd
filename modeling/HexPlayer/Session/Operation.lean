import HexPlayer.Session.Desk

/-!
# The operations of a session

A session is a desk together with a machine, a display and the raster in between. An operation asks
the desk for a decision, carries out its acts in order, and reports what was done and the first
failure. A failed act does not stop the acts after it. `desk_handle` and `desk_boot` say that the
desk goes its own way, whatever machine and display do.
-/

namespace HexPlayer

open Session (Config Desk Act Decision Event Error)
open Cartridge (Request Source)

/-- A desk, its devices, and the raster that frames are painted onto. -/
structure Session (M D : Type) where
  desk : Desk
  machine : M
  display : D
  raster : Raster

namespace Session

/-- What an operation did, step by step. -/
inductive Deed where
  /-- A call was made on the machine. -/
  | call (call : Call)
  /-- A frame of the right size was painted onto the raster. -/
  | painted (frame : Frame)
  /-- The display was handed the raster and a panel, and failed if there is a cause. -/
  | presented (raster : Raster) (panel : Panel) (cause : Option String)
  /-- The source was asked for a title. -/
  | asked (title : String)
  /-- An entry went into the journal. -/
  | recorded (entry : Journal.Entry)

/-- The session after an operation, what was done, and the first failure. -/
structure Outcome (M D : Type) where
  session : Session M D
  deeds : List Deed := []
  error : Option Error := none

namespace Outcome

variable {M D : Type}

/-- Go on from the session reached; the first failure stays. -/
def andThen (o : Outcome M D) (next : Session M D → Outcome M D) : Outcome M D :=
  let later := next o.session
  ⟨later.session, o.deeds ++ later.deeds, o.error.or later.error⟩

@[simp]
theorem session_andThen (o : Outcome M D) (next : Session M D → Outcome M D) :
    (o.andThen next).session = (next o.session).session := rfl

@[simp]
theorem deeds_andThen (o : Outcome M D) (next : Session M D → Outcome M D) :
    (o.andThen next).deeds = o.deeds ++ (next o.session).deeds := rfl

@[simp]
theorem error_andThen (o : Outcome M D) (next : Session M D → Outcome M D) :
    (o.andThen next).error = o.error.or (next o.session).error := rfl

/-- Record a failure, if there is one. -/
def recordError (entry : Error → Journal.Entry) (o : Outcome M D) : Outcome M D :=
  match o.error with
  | none => o
  | some error => { o with deeds := o.deeds ++ [.recorded (entry error)] }

@[simp]
theorem session_recordError (entry : Error → Journal.Entry) (o : Outcome M D) :
    (o.recordError entry).session = o.session := by
  unfold recordError
  split <;> rfl

@[simp]
theorem error_recordError (entry : Error → Journal.Entry) (o : Outcome M D) :
    (o.recordError entry).error = o.error := by
  unfold recordError
  split <;> rfl

end Outcome

variable {M D : Type}

/-- A session before its first operation: nothing selected, nothing requested, a blank raster. -/
def fresh (cfg : Config) (machine : M) (display : D) : Session M D :=
  ⟨{}, machine, display, cfg.painter.blankRaster⟩

/-- Hand the raster and the panel to the display. -/
def present [Display D] (cfg : Config) (s : Session M D) : Outcome M D :=
  let panel := s.desk.panel cfg
  let (display, cause) := Display.present s.raster panel s.display
  { session := { s with display }
    deeds := [.presented s.raster panel cause]
    error := cause.map .display }

/-- What is recorded about a frame with `count` bytes that are neither zero nor one. -/
def strayDeeds (count : Nat) : List Deed :=
  if count = 0 then [] else [.recorded (.strayPixels count)]

/-- Paint the machine's frame and present it. A frame of the wrong size leaves the raster as it was
and is not presented. -/
def draw [Machine M] [Display D] (cfg : Config) (s : Session M D) : Outcome M D :=
  let frame := Machine.frame s.machine
  match cfg.painter.render frame s.raster with
  | .error mismatch => { session := s, error := some (.render mismatch) }
  | .ok painted =>
    let painting : Outcome M D :=
      { session := { s with raster := painted.surface }
        deeds := .painted frame :: strayDeeds painted.stray }
    painting.andThen (present cfg)

/-- Carry out one act. -/
def perform [Machine M] [Display D] (cfg : Config) (s : Session M D) : Act → Outcome M D
  | .call call =>
    { session := { s with machine := Machine.call call s.machine }, deeds := [.call call] }
  | .draw none => s.draw cfg
  | .draw (some action) => (s.draw cfg).recordError (.actionFailed action)
  | .present => s.present cfg
  | .record entry => { session := s, deeds := [.recorded entry] }

/-- Carry out acts in order, also after one that failed. -/
def performAll [Machine M] [Display D] (cfg : Config) : List Act → Session M D → Outcome M D
  | [], s => { session := s }
  | act :: acts, s => (s.perform cfg act).andThen (performAll cfg acts)

/-- Take a decision's desk and carry out its acts. A refusal is reported unless an act failed. -/
def follow [Machine M] [Display D] (cfg : Config) (s : Session M D) (decision : Decision) :
    Outcome M D :=
  let done := performAll cfg decision.acts { s with desk := decision.desk }
  { done with error := done.error.or decision.refusal }

/-- Take an event. -/
def handle [Machine M] [Display D] (cfg : Config) (s : Session M D) (event : Event) :
    Outcome M D :=
  s.follow cfg (s.desk.decide cfg event)

/-- Ask for the default title and draw the first picture. -/
def boot [Machine M] [Display D] (cfg : Config) (s : Session M D) : Outcome M D :=
  s.follow cfg (s.desk.boot cfg)

/-- Take the oldest open request out of the outbox. -/
def nextRequest (s : Session M D) : Option Request × Session M D :=
  match s.desk.outbox with
  | [] => (none, s)
  | request :: rest => (some request, { s with desk := { s.desk with outbox := rest } })

/-- Ask the source for one request, which no longer is in the outbox, and take the completion. -/
def serve [Machine M] [Display D] (cfg : Config) (source : Source) (s : Session M D)
    (request : Request) : Outcome M D :=
  let delivery := source.deliver request
  let asking : Outcome M D :=
    { session := s, deeds := .asked request.title :: delivery.entries.map .recorded }
  asking.andThen fun s => s.handle cfg (.fetched request.ticket delivery.result)

/-- Serve the requests of a queue, each taken out of the outbox when its turn comes. -/
def serveQueue [Machine M] [Display D] (cfg : Config) (source : Source) :
    List Request → Session M D → Outcome M D
  | [], s => { session := s }
  | request :: rest, s =>
    ({ s with desk := { s.desk with outbox := rest } }.serve cfg source request).andThen
      (serveQueue cfg source rest)

/-- Serve every open request, oldest first. The first failure is reported and later requests are
served all the same. -/
def serveAll [Machine M] [Display D] (cfg : Config) (source : Source) (s : Session M D) :
    Outcome M D :=
  serveQueue cfg source s.desk.outbox s

@[simp]
theorem desk_present [Display D] (cfg : Config) (s : Session M D) :
    (s.present cfg).session.desk = s.desk := rfl

section Desk

variable [Machine M] [Display D]

@[simp]
theorem desk_draw (cfg : Config) (s : Session M D) : (s.draw cfg).session.desk = s.desk := by
  unfold draw
  dsimp only
  split <;> rfl

@[simp]
theorem desk_perform (cfg : Config) (s : Session M D) (act : Act) :
    (s.perform cfg act).session.desk = s.desk := by
  unfold perform
  split <;> simp

/-- No act reports back to the desk. -/
@[simp]
theorem desk_performAll (cfg : Config) (acts : List Act) (s : Session M D) :
    (performAll cfg acts s).session.desk = s.desk := by
  induction acts generalizing s with
  | nil => rfl
  | cons act acts ih => rw [performAll, Outcome.session_andThen, ih, desk_perform]

@[simp]
theorem desk_follow (cfg : Config) (s : Session M D) (decision : Decision) :
    (s.follow cfg decision).session.desk = decision.desk := by
  simp [follow]

/-- The desk after an event is the one that the desk before it decides on. -/
@[simp]
theorem desk_handle (cfg : Config) (s : Session M D) (event : Event) :
    (s.handle cfg event).session.desk = (s.desk.decide cfg event).desk := by
  simp [handle]

/-- The desk after booting is the one that the desk before it decides on. -/
@[simp]
theorem desk_boot (cfg : Config) (s : Session M D) :
    (s.boot cfg).session.desk = (s.desk.boot cfg).desk := by
  simp [boot]

end Desk

end Session

end HexPlayer
