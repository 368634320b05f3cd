import HexPlayer.Proofs.Session.Decisions
import HexPlayer.Proofs.Session.Devices
import HexPlayer.StandIn.Machines
import HexPlayer.StandIn.Monitor

/-!
# The picture of a session

The raster is the picture of the last frame that was painted, and a failing display does not change
that. Where a reset is followed by a drawing, so is everything else that changes the frame: acts
leave no `stale` picture behind, and after booting the raster is the picture of the frame that the
machine shows.
-/

namespace HexPlayer

/-- The call may change what the machine shows. -/
def Call.changesFrame : Call → Bool
  | .reset | .tick => true
  | .load _ | .press _ | .release _ => false

/-- The machine shows frames of the right size, and they change with ticks and resets alone. -/
structure Machine.Steady {M : Type} [Machine M] (p : Painter) (m : M) : Prop where
  size : ∀ made, (frame (afterCalls made m)).size = p.resolution.area
  still : ∀ made call, call.changesFrame = false →
    frame (Machine.call call (afterCalls made m)) = frame (afterCalls made m)

theorem Machine.Steady.call {M : Type} [Machine M] {p : Painter} {m : M} (steady : Steady p m)
    (call : Call) : Steady p (Machine.call call m) where
  size made := steady.size (call :: made)
  still made := steady.still (call :: made)

namespace Session

/-- The frame that was painted, if the deed is a painting. -/
def Deed.painting? : Deed → Option Frame
  | .painted frame => some frame
  | .call _ | .presented .. | .asked _ | .recorded _ => none

/-- The frames that were painted. -/
def paintings (deeds : List Deed) : List Frame := deeds.filterMap Deed.painting?

/-- The frame may have changed since the last drawing, after acts and if it may have before. -/
def staleAfter (stale : Bool) : List Act → Bool
  | [] => stale
  | .call call :: acts => staleAfter (stale || call.changesFrame) acts
  | .draw _ :: acts => staleAfter false acts
  | .present :: acts => staleAfter stale acts
  | .record _ :: acts => staleAfter stale acts

theorem staleAfter_append (stale : Bool) (first second : List Act) :
    staleAfter stale (first ++ second) = staleAfter (staleAfter stale first) second := by
  induction first generalizing stale with
  | nil => rfl
  | cons act acts ih => cases act <;> exact ih _

/-- If no picture is stale, the last frame drawn is the one that a steady machine shows. -/
theorem getLast?_framesDrawn {M : Type} [Machine M] {p : Painter} {m : M}
    (steady : Machine.Steady p m) (acts : List Act) {stale : Bool} (shown : Option Frame)
    (current : stale = false → shown = some (Machine.frame m))
    (settled : staleAfter stale acts = false) :
    (framesDrawn acts m).getLast?.or shown =
      some (Machine.frame (Machine.afterCalls (callsOf acts) m)) := by
  induction acts generalizing m stale shown with
  | nil => exact current settled
  | cons act acts ih =>
    cases act with
    -- a call that keeps the frame keeps the picture of it, and any other one makes it stale
    | call call =>
      refine ih (steady.call call) shown (fun fresh => ?_) settled
      obtain ⟨wasFresh, keeps⟩ := Bool.or_eq_false_iff.mp fresh
      rw [current wasFresh]
      exact congrArg some (steady.still [] call keeps).symm
    | draw action =>
      have rest := ih steady (some (Machine.frame m)) (fun _ => rfl) settled
      rw [framesDrawn, callsOf_draw, ← rest, List.getLast?_cons]
      cases (framesDrawn acts m).getLast? <;> rfl
    | present => exact ih steady shown current settled
    | record entry => exact ih steady shown current settled

/-- A steady machine has all its drawings painted. -/
theorem size_of_mem_framesDrawn {M : Type} [Machine M] {p : Painter} {m : M}
    (steady : Machine.Steady p m) {acts : List Act} {frame : Frame}
    (drawn : frame ∈ framesDrawn acts m) : frame.size = p.resolution.area := by
  induction acts generalizing m with
  | nil => cases drawn
  | cons act acts ih =>
    cases act with
    | call call => exact ih (steady.call call) drawn
    | draw action =>
      rcases List.mem_cons.mp drawn with rfl | later
      · exact steady.size []
      · exact ih steady later
    | present => exact ih steady drawn
    | record entry => exact ih steady drawn

/-- Booting draws, whatever came before. -/
theorem Takes.settles_boot {cfg : Config} {d : Desk} {decision : Decision}
    (takes : Takes cfg d .boot decision) (stale : Bool) :
    staleAfter stale decision.acts = false := by
  cases takes <;> rfl

section Redraw

variable {cfg : Config} (redraw : cfg.redrawOnReset = true)
include redraw

/-- Whatever changes the frame is followed by a drawing. -/
theorem Takes.settles {d : Desk} {step : Step} {decision : Decision}
    (takes : Takes cfg d step decision) : staleAfter false decision.acts = false := by
  cases takes with
  | @struck code edge stroke mapped =>
    cases edge : stroke.edge <;> simp [staleAfter, Call.ofStroke, edge, Call.changesFrame]
  | resetUndrawn undrawn =>
    rw [redraw] at undrawn
    cases undrawn
  | _ => rfl

/-- Steps leave no stale picture behind. -/
theorem staleAfter_acts (steps : List Step) (d : Desk) :
    staleAfter false (d.acts cfg steps) = false := by
  induction steps generalizing d with
  | nil => rfl
  | cons step rest ih =>
    rw [Desk.acts, staleAfter_append, (takes_take cfg d step).settles redraw, ih]

/-- No picture is stale after booting. -/
theorem staleAfter_acts_of_boot {steps : List Step} (booted : .boot ∈ steps) (d : Desk)
    (stale : Bool) : staleAfter stale (d.acts cfg steps) = false := by
  induction steps generalizing d stale with
  | nil => cases booted
  | cons step rest ih =>
    rw [Desk.acts, staleAfter_append]
    rcases List.mem_cons.mp booted with rfl | later
    · rw [(takes_take cfg d .boot).settles_boot]
      exact staleAfter_acts redraw rest _
    · exact ih later _ _

end Redraw

theorem boot_mem_unroll {cfg : Config} {ops : List Operation} (booted : .boot ∈ ops) (d : Desk) :
    Step.boot ∈ unroll cfg ops d := by
  induction ops generalizing d with
  | nil => cases booted
  | cons op ops ih =>
    rw [unroll]
    rcases List.mem_cons.mp booted with rfl | later
    · exact List.mem_append_left _ List.mem_cons_self
    · exact List.mem_append_right _ (ih later _)

variable {M D : Type} [Machine M] [Display D]

theorem painting?_of_not_onDevice (deed : Deed) (off : deed.isOnDevice = false) :
    deed.painting? = none := by
  cases deed <;> first | rfl | cases off

/-- A drawing is a painting if the frame has the right size. -/
theorem paintings_perform (cfg : Config) (act : Act) (s : Session M D) :
    paintings (s.perform cfg act).deeds = (framesDrawn [act] s.machine).filter fun frame =>
      frame.size = cfg.painter.resolution.area := by
  have drawing : paintings (s.draw cfg).deeds = [Machine.frame s.machine].filter fun frame =>
      frame.size = cfg.painter.resolution.area := by
    unfold draw Painter.render
    dsimp only
    by_cases fits : (Machine.frame s.machine).size = cfg.painter.resolution.area
    · have noStray := view_strayDeeds painting?_of_not_onDevice
      simp only [fits, if_true, Outcome.deeds_andThen, paintings, List.filterMap_append,
        List.filterMap_cons, noStray]
      simp [present, Deed.painting?, fits]
    · simp [fits, paintings]
  cases act with
  | call call => rfl
  | draw action =>
    cases action with
    | none => exact drawing
    | some action => exact (view_recordError painting?_of_not_onDevice _ _).trans drawing
  | present => rfl
  | record entry => rfl

/-- The paintings of a run are its drawings of frames of the right size. -/
theorem paintings_deeds (cfg : Config) (ops : List Operation) (s : Session M D) :
    paintings (deeds cfg ops s) =
      (framesDrawn (s.desk.actsOfRun cfg ops) s.machine).filter fun frame =>
        frame.size = cfg.painter.resolution.area :=
  view_deeds Deed.painting?
    (fun acts m => (framesDrawn acts m).filter fun frame =>
      frame.size = cfg.painter.resolution.area)
    (fun _ => rfl)
    (fun first second m => by rw [framesDrawn_append, List.filter_append])
    (paintings_perform cfg) painting?_of_not_onDevice ops s

/-- The raster of a session is the picture of the frame that was painted last: of the last drawing
that read a frame of the right size, or blank if there was none. Where a reset is followed by a
drawing, it is the picture of a steady machine's frame from booting on. -/
theorem raster_depicts_last_painting (cfg : Config) (machine : M) (display : D)
    (ops : List Operation) :
    let s := after cfg ops (fresh cfg machine display)
    let drawn := framesDrawn (Desk.actsOfRun cfg ops {}) machine
    (cfg.painter.Depicts
        (drawn.filter fun frame => frame.size = cfg.resolution.area).getLast? s.raster ∧
      paintings (deeds cfg ops (fresh cfg machine display)) =
        drawn.filter fun frame => frame.size = cfg.resolution.area) ∧
    (cfg.redrawOnReset = true → Machine.Steady cfg.painter machine → .boot ∈ ops →
      cfg.painter.Depicts (some (Machine.frame s.machine)) s.raster) := by
  intro s drawn
  have raster : s.raster = drawn.foldl cfg.painter.repaint cfg.painter.blankRaster :=
    raster_after cfg ops _
  have depicts : cfg.painter.Depicts
      (drawn.filter fun frame => frame.size = cfg.painter.resolution.area).getLast? s.raster := by
    rw [raster]
    exact Painter.depicts_foldl_repaint drawn
  refine ⟨⟨depicts, paintings_deeds cfg ops _⟩, fun redraw steady booted => ?_⟩
  have allFit : (drawn.filter fun frame => frame.size = cfg.painter.resolution.area) = drawn := by
    rw [List.filter_eq_self]
    intro frame isDrawn
    exact decide_eq_true (size_of_mem_framesDrawn steady isDrawn)
  have settled : staleAfter true (Desk.actsOfRun cfg ops {}) = false :=
    staleAfter_acts_of_boot redraw (boot_mem_unroll booted {}) {} true
  have last := getLast?_framesDrawn steady _ none (by simp) settled
  have reached : s.machine = Machine.afterCalls (callsOf (Desk.actsOfRun cfg ops {})) machine :=
    (machine_after cfg ops _).trans
      (congrArg (Machine.afterCalls · machine) (calls_deeds cfg ops _))
  rw [allFit] at depicts
  rw [Option.or_none] at last
  rw [reached, ← last]
  exact depicts

/-- A scripted machine is steady if its frames all have the right size. -/
theorem steady_scripted {p : Painter} {m : StandIn.Scripted}
    (fit : ∀ frame ∈ m.frame :: m.script, frame.size = p.resolution.area) :
    Machine.Steady p m where
  size made := by
    induction made generalizing m with
    | nil => exact fit m.frame List.mem_cons_self
    | cons call made ih =>
      apply ih
      cases call with
      | load program => exact fit
      | press key => exact fit
      | release key => exact fit
      | reset =>
        intro frame shown
        rcases List.mem_cons.mp shown with rfl | later
        · exact Array.size_map.trans (fit m.frame List.mem_cons_self)
        · exact fit frame (List.mem_cons_of_mem _ later)
      | tick =>
        obtain ⟨frame, script⟩ := m
        cases script with
        | nil => exact fit
        | cons next script => exact fun frame shown => fit frame (List.mem_cons_of_mem _ shown)
  still made call keeps := by
    cases call with
    | load program => rfl
    | press key => rfl
    | release key => rfl
    | reset => cases keeps
    | tick => cases keeps

/-- A display that fails all the time does not keep the raster from following the machine. -/
theorem depicts_unseen :
    let cfg : Config := { resolution := ⟨2, 1⟩, pixelSize := 1 }
    let machine : StandIn.Scripted := ⟨#[0, 0], [#[1, 0]]⟩
    let display : StandIn.Monitor := { failing := true }
    let s := after cfg [.boot, .handle .step] (fresh cfg machine display)
    Machine.Steady cfg.painter machine ∧ s.raster.pixels = #[.white, .black] ∧
      cfg.painter.Depicts (some (Machine.frame s.machine)) s.raster := by
  intro cfg machine display s
  have steady : Machine.Steady cfg.painter machine := steady_scripted (by decide)
  exact ⟨steady, by decide +kernel,
    (raster_depicts_last_painting cfg machine _ _).2 rfl steady List.mem_cons_self⟩

end Session

end HexPlayer
