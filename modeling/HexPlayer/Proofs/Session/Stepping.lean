import HexPlayer.Proofs.Session.Drawings
import Mathlib.Data.List.Forall2

/-!
# Single steps and automatic ones

A session that is stopped can be stepped `n` times, or it can be started, refreshed `n` times and
stopped again. `steps_agree_with_refreshes` says that the devices cannot tell the two apart but by
the run state on the panels, whatever the frames are and whatever the display answers. It follows
from `Twin.step`, in which a session that is stopped takes a step and its twin that runs takes a
refresh, by induction on `n`.
-/

namespace HexPlayer.Session

/-- Two deeds are the same but for the run state on a panel, stopped on the one and running on the
other, and the answer of the display. -/
inductive Alike : Deed → Deed → Prop where
  | call (call : Call) : Alike (.call call) (.call call)
  | painted (frame : Frame) : Alike (.painted frame) (.painted frame)
  | presented (raster : Raster) (panel : Panel) (first second : Option String) :
    Alike (.presented raster { panel with state := .stopped } first)
      (.presented raster { panel with state := .running } second)

/-- Deeds that are alike make the same calls. -/
theorem calls_eq_of_alike {first second : List Deed} (alike : List.Forall₂ Alike first second) :
    calls first = calls second := by
  induction alike with
  | nil => rfl
  | cons head _ ih =>
    cases head with
    | call call => exact congrArg (call :: ·) ih
    | painted frame => exact ih
    | presented raster panel first second => exact ih

/-- A control that leads to no action moves the transport and leaves all else alone. -/
theorem follow_control_of_no_action {M D : Type} [Machine M] [Display D] (cfg : Config)
    (s : Session M D) {control : Control} {transport : Transport}
    (obeys : s.desk.transport.obey cfg.redrawOnReset control = (transport, [])) :
    let o := s.follow cfg (s.desk.control cfg control none)
    o.session = { s with desk := { s.desk with transport } } ∧ o.error = none ∧
      deviceDeeds o.deeds = [] := by
  have decided : s.desk.control cfg control none =
      { desk := { s.desk with transport }
        acts := [Journal.Entry.controlTaken control transport.state []].map .record } := by
    simp [Desk.control, obeys]
  rw [decided, follow_records]
  exact ⟨rfl, rfl, deviceDeeds_recorded _⟩

variable {M D : Type} [Machine M] [Display D]

section Ticking

variable (cfg : Config)

/-- A desk that is stopped stays as it is with a step. -/
theorem decide_step_of_stopped {d : Desk} (stopped : d.transport.state = .stopped) :
    ∃ acts, d.decide cfg .step = { desk := d, acts } ∧ callsOf acts = [.tick] := by
  have takes : Takes cfg d (.handle .step) (d.decide cfg .step) := takes_take cfg d _
  generalize d.decide cfg .step = decision at takes
  cases takes with
  | stepped _ => exact ⟨_, rfl, rfl⟩
  | ranOn running => cases stopped.symm.trans running

/-- A desk that runs has a refresh due after a refresh, and runs on. -/
theorem decide_refresh_of_running {d : Desk} (running : d.transport.state = .running) :
    ∃ acts, d.decide cfg .refresh = { desk := { d with transport := ⟨.running, true⟩ }, acts } := by
  have takes : Takes cfg d (.handle .refresh) (d.decide cfg .refresh) := takes_take cfg d _
  generalize d.decide cfg .refresh = decision at takes
  cases takes with
  | refreshed _ => exact ⟨_, rfl⟩
  | rested stopped => cases stopped.symm.trans running

/-- An event that is not refused and draws after a tick draws the frame that the tick leads to. -/
theorem handle_of_tick (s : Session M D) {event : Event} {desk : Desk} {acts : List Act}
    (decided : s.desk.decide cfg event = { desk, acts })
    (draws : event.lead? cfg s.desk.transport.state = some [.tick]) :
    let ticked : Session M D := { s with desk, machine := Machine.call .tick s.machine }
    let o := s.handle cfg event
    o.session = (ticked.draw cfg).session ∧
      deviceDeeds o.deeds = .call .tick :: deviceDeeds (ticked.draw cfg).deeds ∧
      o.error = (ticked.draw cfg).error := by
  obtain ⟨session, done, error⟩ := handle_of_lead cfg s draws
  rw [decided] at session done error
  exact ⟨session, done, error.trans (Option.or_none)⟩

end Ticking

/-- A session that is stopped, and one that runs and differs in nothing else but its display. -/
structure Twin (s t : Session M D) : Prop where
  stopped : s.desk.transport.state = .stopped
  desk : t.desk = { s.desk with transport := ⟨.running, true⟩ }
  machine : t.machine = s.machine
  raster : t.raster = s.raster

/-- Two stages report the same unless the display answered differently. -/
def SameVerdict (a b : Stage M D) : Prop :=
  answers a.outcome.deeds = answers b.outcome.deeds → a.outcome.error = b.outcome.error

/-- A drawing of a frame of the right size reports the answer of the display. -/
theorem error_draw_eq_answer (cfg : Config) (s : Session M D)
    (fits : (Machine.frame s.machine).size = cfg.painter.resolution.area) :
    (s.draw cfg).error =
      (answers (deviceDeeds (s.draw cfg).deeds)).head?.join.map .display := by
  rw [deviceDeeds_draw_of_size_eq cfg s fits, draw_of_size_eq cfg s fits]
  rfl

namespace Twin

variable (cfg : Config) {s t : Session M D} (twin : Twin s t)
include twin

/-- Twins draw alike and stay twins. -/
theorem draw :
    let a := s.draw cfg
    let b := t.draw cfg
    Twin a.session b.session ∧ List.Forall₂ Alike (deviceDeeds a.deeds) (deviceDeeds b.deeds) ∧
      (answers (deviceDeeds a.deeds) = answers (deviceDeeds b.deeds) → a.error = b.error) := by
  intro a b
  have frame : Machine.frame t.machine = Machine.frame s.machine := by rw [twin.machine]
  refine ⟨⟨?_, ?_, ?_, ?_⟩, ?_⟩
  · rw [desk_draw, twin.stopped]
  · rw [desk_draw, desk_draw, twin.desk]
  · rw [machine_draw, machine_draw, twin.machine]
  · rw [raster_draw, raster_draw, frame, twin.raster]
  by_cases fits : (Machine.frame s.machine).size = cfg.painter.resolution.area
  · have fitsToo : (Machine.frame t.machine).size = cfg.painter.resolution.area := frame ▸ fits
    have stopped : s.desk.panel cfg = { s.desk.panel cfg with state := .stopped } := by
      simp [Desk.panel, twin.stopped]
    have running : t.desk.panel cfg = { s.desk.panel cfg with state := .running } := by
      simp [Desk.panel, twin.desk]
    refine ⟨?_, fun same => ?_⟩
    · rw [deviceDeeds_draw_of_size_eq cfg s fits, deviceDeeds_draw_of_size_eq cfg t fitsToo, frame,
        twin.raster, running, stopped]
      exact .cons (.painted _) (.cons (.presented _ (s.desk.panel cfg) _ _) .nil)
    · rw [error_draw_eq_answer cfg s fits, error_draw_eq_answer cfg t fitsToo, same]
  · have drawn : a = _ := draw_of_size_ne cfg s fits
    have drawnToo : b = _ := draw_of_size_ne cfg t (frame ▸ fits)
    rw [drawn, drawnToo, frame]
    exact ⟨.nil, fun _ => rfl⟩

/-- A step of the one and a refresh of the other do alike, and they stay twins. -/
theorem step :
    let a := s.handle cfg .step
    let b := t.handle cfg .refresh
    Twin a.session b.session ∧ a.session.desk = s.desk ∧
      List.Forall₂ Alike (deviceDeeds a.deeds) (deviceDeeds b.deeds) ∧
      calls a.deeds = [.tick] ∧ (answers a.deeds = answers b.deeds → a.error = b.error) := by
  intro a b
  have running : t.desk.transport.state = .running := by rw [twin.desk]
  obtain ⟨acts, decided, ticks⟩ := decide_step_of_stopped cfg twin.stopped
  obtain ⟨actsToo, decidedToo⟩ := decide_refresh_of_running cfg running
  obtain ⟨session, done, error⟩ := handle_of_tick cfg s decided (if_pos twin.stopped)
  obtain ⟨sessionToo, doneToo, errorToo⟩ := handle_of_tick cfg t decidedToo (if_pos running)
  have ticked : Twin { s with machine := Machine.call .tick s.machine }
      { t with
        desk := { t.desk with transport := ⟨.running, true⟩ }
        machine := Machine.call .tick t.machine } :=
    ⟨twin.stopped, by rw [twin.desk], by rw [twin.machine], twin.raster⟩
  obtain ⟨twins, alike, verdict⟩ := ticked.draw cfg
  refine ⟨?_, ?_, ?_, ?_, fun same => ?_⟩
  · rw [session, sessionToo]
    exact twins
  · rw [session, desk_draw]
  · rw [done, doneToo]
    exact .cons (.call .tick) alike
  · have followed : a = s.follow cfg { desk := s.desk, acts } := congrArg (s.follow cfg) decided
    rw [followed, follow, calls_performAll, ticks]
  · rw [← answers_deviceDeeds, ← answers_deviceDeeds b.deeds, done, doneToo] at same
    rw [error, errorToo]
    exact verdict same

/-- So do any number of steps and as many refreshes. -/
theorem steps (n : Nat) :
    let singles := List.replicate n (Operation.handle .step)
    let refreshes := List.replicate n (Operation.handle .refresh)
    Twin (after cfg singles s) (after cfg refreshes t) ∧ (after cfg singles s).desk = s.desk ∧
      List.Forall₂ Alike (deviceDeeds (deeds cfg singles s)) (deviceDeeds (deeds cfg refreshes t)) ∧
      calls (deeds cfg singles s) = List.replicate n .tick ∧
      List.Forall₂ SameVerdict (stages cfg singles s) (stages cfg refreshes t) := by
  -- the sessions stay twins, but their displays may part ways with the first panel
  induction n generalizing s t with
  | zero => exact ⟨twin, rfl, .nil, rfl, .nil⟩
  | succ n ih =>
    obtain ⟨twins, desk, alike, ticks, verdict⟩ := twin.step cfg
    obtain ⟨later, deskLater, alikeLater, ticksLater, verdictLater⟩ := ih twins
    refine ⟨later, deskLater.trans desk, ?_, ?_, .cons verdict verdictLater⟩
    · simp only [List.replicate_succ, deeds_cons, deviceDeeds_append]
      exact List.rel_append alike alikeLater
    · simp only [List.replicate_succ, deeds_cons, calls_append, ticksLater, operate, ticks]
      rfl

end Twin

/-- To start a session that is stopped, to go on with it, and to stop it again does on the devices
what is done in between. -/
theorem after_toggled_around (cfg : Config) (s : Session M D) (ops : List Operation)
    (stopped : s.desk.transport.state = .stopped) :
    let started : Session M D := { s with desk := { s.desk with transport := ⟨.running, true⟩ } }
    let reached := after cfg ops started
    let around := .handle .playPause :: ops ++ [.handle .playPause]
    reached.desk.transport = ⟨.running, true⟩ →
      after cfg around s =
        { reached with desk := { reached.desk with transport := ⟨.stopped, true⟩ } } ∧
      deviceDeeds (deeds cfg around s) = deviceDeeds (deeds cfg ops started) ∧
      ∃ first last, stages cfg around s = first :: stages cfg ops started ++ [last] ∧
        first.outcome.error = none ∧ last.outcome.error = none := by
  intro started reached around running
  have starts : s.desk.transport.obey cfg.redrawOnReset .playPauseToggled =
      (⟨.running, true⟩, []) := by
    simp [Transport.obey, stopped]
  have stops : reached.desk.transport.obey cfg.redrawOnReset .playPauseToggled =
      (⟨.stopped, true⟩, []) := by
    simp [Transport.obey, running]
  obtain ⟨start, startError, startDone⟩ := follow_control_of_no_action cfg s starts
  obtain ⟨stop, stopError, stopDone⟩ := follow_control_of_no_action cfg reached stops
  have isStarted : (s.operate cfg (.handle .playPause)).session = started := start
  have isStages : stages cfg around s =
      ⟨s, .handle .playPause, s.operate cfg (.handle .playPause)⟩ :: stages cfg ops started ++
        [⟨reached, .handle .playPause, reached.operate cfg (.handle .playPause)⟩] := by
    simp [around, stages, stages_append, isStarted, reached]
  have isAfter : after cfg around s = (reached.operate cfg (.handle .playPause)).session := by
    simp [around, after_append, isStarted, reached]
  have first : deviceDeeds (s.operate cfg (.handle .playPause)).deeds = [] := startDone
  have last : deviceDeeds (reached.operate cfg (.handle .playPause)).deeds = [] := stopDone
  refine ⟨isAfter.trans stop, ?_, _, _, isStages, startError, stopError⟩
  rw [deeds, isStages]
  simp [first, last, deeds]

/-- A session that is stopped can be stepped `n` times, or started, refreshed `n` times and stopped
again. Both do the same on the devices but for the run state on the panels and the answers of the
display, with nothing but these deeds as effects, and both lead to the same machine and raster. The
one leaves the desk as it was; the other leaves a refresh due, which the next refresh takes away
without any other effect. Step and refresh report the same wherever the display answers the same. -/
theorem steps_agree_with_refreshes (cfg : Config) (s : Session M D)
    (stopped : s.desk.transport.state = .stopped) (n : Nat) :
    let singles := List.replicate n (Operation.handle .step)
    let refreshes := List.replicate n (Operation.handle .refresh)
    let automatic := .handle .playPause :: refreshes ++ [.handle .playPause]
    let single := after cfg singles s
    let auto := after cfg automatic s
    let rested := auto.handle cfg .refresh
    List.Forall₂ Alike (deviceDeeds (deeds cfg singles s)) (deviceDeeds (deeds cfg automatic s)) ∧
      calls (deeds cfg singles s) = List.replicate n .tick ∧
      calls (deeds cfg automatic s) = List.replicate n .tick ∧
      Effects s (deeds cfg singles s) single ∧ Effects s (deeds cfg automatic s) auto ∧
      auto.machine = single.machine ∧ auto.raster = single.raster ∧
      single.desk = s.desk ∧ auto.desk = { s.desk with transport := ⟨.stopped, true⟩ } ∧
      (∃ first last middle, stages cfg automatic s = first :: middle ++ [last] ∧
        first.outcome.error = none ∧ last.outcome.error = none ∧
        List.Forall₂ SameVerdict (stages cfg singles s) middle) ∧
      rested.session = { auto with desk := { s.desk with transport := ⟨.stopped, false⟩ } } ∧
      rested.error = none ∧ deviceDeeds rested.deeds = [] := by
  intro singles refreshes automatic single auto rested
  let started : Session M D := { s with desk := { s.desk with transport := ⟨.running, true⟩ } }
  -- once it is started, the session is a twin of the one that is still stopped
  have twin : Twin s started := ⟨stopped, rfl, rfl, rfl⟩
  obtain ⟨twins, desk, alike, ticks, verdict⟩ := twin.steps cfg n
  have running : (after cfg refreshes started).desk =
      { s.desk with transport := ⟨.running, true⟩ } := by
    rw [twins.desk, desk]
  obtain ⟨ended, done, first, last, isStages, startError, stopError⟩ :=
    after_toggled_around cfg s refreshes stopped (congrArg Desk.transport running)
  have isAuto : auto = { after cfg refreshes started with
      desk := { s.desk with transport := ⟨.stopped, true⟩ } } :=
    ended.trans (by rw [running])
  have sameCalls : calls (deeds cfg automatic s) = List.replicate n .tick := by
    rw [← calls_deviceDeeds, done, ← calls_eq_of_alike alike, calls_deviceDeeds, ticks]
  have rests : auto.desk.transport.obey cfg.redrawOnReset .refreshFired =
      (⟨.stopped, false⟩, []) := by
    simp [Transport.obey, isAuto]
  obtain ⟨restSession, restError, restDone⟩ := follow_control_of_no_action cfg auto rests
  refine ⟨done ▸ alike, ticks, sameCalls, effects_after cfg singles s,
    effects_after cfg automatic s, ?_, ?_, desk, ?_,
    ⟨first, last, _, isStages, startError, stopError, verdict⟩, ?_, restError, restDone⟩
  · rw [isAuto]
    exact twins.machine
  · rw [isAuto]
    exact twins.raster
  · rw [isAuto]
  · rw [show rested.session = _ from restSession, isAuto]

/-- Two ticks, the first of them to a frame that is cut short, on a display that fails. -/
theorem agree_on_cut_frame :
    let cfg : Config := { resolution := ⟨2, 1⟩, pixelSize := 1 }
    let machine : StandIn.Scripted := ⟨#[0, 0], [#[1], #[1, 0]]⟩
    let s := after cfg [.boot] (fresh cfg machine ({ failing := true } : StandIn.Monitor))
    let singles : List Operation := [.handle .step, .handle .step]
    let automatic : List Operation :=
      [.handle .playPause, .handle .refresh, .handle .refresh, .handle .playPause]
    s.desk.transport.state = .stopped ∧
      List.Forall₂ Alike (deviceDeeds (deeds cfg singles s)) (deviceDeeds (deeds cfg automatic s)) ∧
      calls (deeds cfg automatic s) = [.tick, .tick] ∧
      answers (deeds cfg automatic s) = [some StandIn.Monitor.cause] ∧
      (after cfg automatic s).desk = { s.desk with transport := ⟨.stopped, true⟩ } := by
  intro cfg machine s singles automatic
  have stopped : s.desk.transport.state = .stopped := by decide +kernel
  obtain ⟨alike, -, ticks, -, -, -, -, -, desk, -⟩ := steps_agree_with_refreshes cfg s stopped 2
  exact ⟨stopped, alike, ticks, by decide +kernel, desk⟩

end HexPlayer.Session
