import HexPlayer.Proofs.Host.Cadence
import HexPlayer.Proofs.Session.Panels
import HexPlayer.Proofs.Session.Picture

/-!
# The run state that a host shows

A play/pause shows nothing by itself. A frame that starts the session shows that all the same, by
the refresh at its end, and so does a selection that stops it. A pause is not shown until something
else is: until then the host still shows a session that runs.
-/

namespace HexPlayer.Host

open Session (Config Effects Operation Stage after answers deeds fresh handed panels stages
  togglesSinceShown)
open Cartridge (Source)
open Terminal (Report)

variable {M D : Type} [Machine M] [Display D]

/-- What is shown by operations does not hang on the journal. -/
theorem panels_journaled (cfg : Config) (ops : List Operation) (s : Session M D) :
    panels (journaled cfg ops s) = panels (deeds cfg ops s) :=
  view_journaled Session.panel?_of_not_onDevice cfg ops s

/-- A host starts by showing what booting shows. -/
theorem panels_start (cfg : Config) (reportsReleases : Bool) (holdFrames : Nat) (machine : M)
    (display : D) :
    panels (start cfg reportsReleases holdFrames machine display).deeds =
      panels ((fresh cfg machine display).boot cfg).deeds := by
  have warned : panels (if reportsReleases then [] else [.recorded .releasesUnreported]) = [] := by
    cases reportsReleases <;> rfl
  have booted : panels (((fresh cfg machine display).boot cfg).recordError .bootFailed).deeds =
      panels ((fresh cfg machine display).boot cfg).deeds :=
    Session.view_recordError Session.panel?_of_not_onDevice _ _
  rw [start, Session.panels_append, warned, booted, List.nil_append]

/-- A session that runs after the refresh of a frame was shown by it. -/
theorem togglesSinceShown_refreshOf {cfg : Config} {s : Session M D}
    (reliable : Session.Reliable cfg s) (kept : s.desk.transport.Kept)
    (runs : (after cfg (refreshOf s) s).desk.transport.state = .running)
    (run : List (Stage M D)) : togglesSinceShown (run ++ stages cfg (refreshOf s) s) = 0 := by
  unfold refreshOf at runs ⊢
  split
  next due =>
    rw [if_pos due, Session.after_cons, Session.after_nil, Session.transport_operate] at runs
    have shows : panels (s.operate cfg (.handle .refresh)).deeds ≠ [] :=
      Session.panels_ne_nil reliable (.inr (.inr ⟨rfl, runs⟩))
    exact Session.togglesSinceShown_of_shows run (by simpa [Stage.shows] using shows)
  next notDue =>
    rw [if_neg notDue, Session.after_nil] at runs
    exact absurd (kept runs) notDue

/-- The run state that a host shows, with a machine whose frames fit and a display that never fails.
At the end of a frame that goes on, the display has been handed the panels that were shown. The last
of them has the run state of the session exactly if the play/pauses since are even in number, and it
differs at most in that it still shows a session running that has been paused. -/
theorem shown_state_of_frames (cfg : Config) (source : Source) (reportsReleases : Bool)
    (holdFrames : Nat) {machine : M} {display : D} (fits : Machine.Fits cfg.painter machine)
    (neverFails : Display.NeverFails display) (frames : List (List Report)) :
    let played := play cfg source reportsReleases holdFrames machine display frames
    let s := fresh cfg machine display
    ∀ earlier p later, played.turns = earlier ++ p :: later → p.quit = false →
      let ops := .boot :: played.start.host.script cfg source (frames.take (earlier.length + 1))
      let state := p.host.session.desk.transport.state
      let done := Show.deeds ⟨played.start, earlier ++ [p]⟩
      p.host.session = after cfg ops s ∧
      p.host.session.display = Display.afterPresents (handed done) display ∧
      panels done = (handed done).map Prod.snd ∧
      ∃ panel, (panels done).getLast? = some panel ∧
        (panel.state = state ↔ Even (togglesSinceShown (stages cfg ops s))) ∧
        (panel.state = state ∨ panel.state = .running ∧ state = .stopped) := by
  intro played s earlier p later split goesOn ops state done
  have effects : Effects s done p.host.session := effects_upto split
  have taken : ∀ answer ∈ answers done, answer = none := by
    rw [effects.answered]
    exact neverFails.answersTo _
  have split : played.start.host.turns cfg source frames = earlier ++ p :: later := split
  have reliable : Session.Reliable cfg s := ⟨fits, neverFails⟩
  have booted : played.start.host.session = after cfg [.boot] s := session_start ..
  obtain ⟨session, turned⟩ := turns_upto_eq split
  rw [booted] at session turned
  have reached : p.host.session = after cfg ops s := session
  have seen : panels done = panels (deeds cfg ops s) := by
    unfold done
    rw [Show.deeds, Session.panels_append, turned, panels_journaled, Session.deeds_cons,
      Session.panels_append]
    exact congrArg (· ++ _) (panels_start cfg reportsReleases holdFrames machine display)
  obtain ⟨panel, last, same⟩ : Session.Shown (stages cfg ops s) (panels (deeds cfg ops s))
      (after cfg ops s).desk.transport.state := Session.shown_after reliable _
  rw [← seen] at last
  rw [← reached] at same
  refine ⟨reached, effects.display, Session.panels_eq_map_handed taken, panel, last, same, ?_⟩
  cases runs : state with
  | stopped => cases panel.state <;> simp
  | running =>
    -- the session ran already when it was refreshed, and nothing was toggled after that
    obtain ⟨begun, script⟩ := script_take_of_goesOn split goesOn
    rw [booted] at script
    let met : Session M D := after cfg (.boot :: begun) s
    have ops_eq : ops = (.boot :: begun) ++ refreshOf met := congrArg (Operation.boot :: ·) script
    have kept : met.desk.transport.Kept := Session.kept_after_fresh cfg machine display _
    have runsAfter : (after cfg (refreshOf met) met).desk.transport.state = .running := by
      rw [← Session.after_append, ← ops_eq, ← reached]
      exact runs
    have settled : togglesSinceShown (stages cfg ops s) = 0 := by
      rw [ops_eq, Session.stages_append]
      exact togglesSinceShown_refreshOf (Session.reliable_after reliable _) kept runsAfter _
    rw [settled] at same
    exact .inl ((same.mpr Even.zero).trans runs)

/-- Two pixels in a row, and no title to begin with. -/
def twoPixels : Config := { resolution := ⟨2, 1⟩, pixelSize := 1, defaultTitle := none }

/-- A machine with two pixels that stay dark. -/
def darkPixels : StandIn.Scripted := ⟨#[0, 0], []⟩

theorem fits_darkPixels : Machine.Fits twoPixels.painter darkPixels :=
  (Session.steady_scripted (by decide)).size

/-- The space bar goes down. -/
def space : Report := .key { code := .char ' ' }

/-- A show that is started in its first frame and hears reports in a second. -/
def startedThen (reports : List Report) : Show StandIn.Scripted StandIn.Roll :=
  play twoPixels (.ofPrograms []) true 6 darkPixels {} [[space], reports]

/-- If the second frame goes on, there are two turns. -/
theorem turns_startedThen {reports : List Report} (goesOn : reports.any Report.quits = false) :
    let first := (startedThen reports).start.host.frame twoPixels (.ofPrograms []) [space]
    let second := first.host.frame twoPixels (.ofPrograms []) reports
    (startedThen reports).turns = [first] ++ second :: [] ∧ second.quit = false := by
  intro first second
  have shown : (startedThen reports).turns =
      (startedThen reports).start.host.turns twoPixels (.ofPrograms []) [[space], reports] := rfl
  have starts : [space].any Terminal.Report.quits = false := rfl
  rw [shown, turns_cons_of_goesOn _ _ starts, turns_cons_of_goesOn _ _ goesOn]
  exact ⟨rfl, (quit_frame twoPixels _ reports _).trans goesOn⟩

/-- A key that is struck after a pause brings the pause to light. -/
theorem shown_state_of_pause_and_key :
    let reports : List Report := [space, .key { code := .char 'q' }]
    let played := startedThen reports
    let first := played.start.host.frame twoPixels (.ofPrograms []) [space]
    let second := first.host.frame twoPixels (.ofPrograms []) reports
    Machine.Fits twoPixels.painter darkPixels ∧ Display.NeverFails ({} : StandIn.Roll) ∧
      played.turns = [first] ++ second :: [] ∧ second.quit = false ∧
      second.host.session.desk.transport.state = .stopped ∧
      second.host.session.display.seen.getLast?.map (fun shown => shown.2.state) =
        some .stopped := by
  intro reports played first second
  obtain ⟨split, goesOn⟩ : played.turns = [first] ++ second :: [] ∧ second.quit = false :=
    turns_startedThen rfl
  have stopped : second.host.session.desk.transport.state = .stopped := by decide +kernel
  obtain ⟨-, isShown, taken, panel, last, same, -⟩ :=
    shown_state_of_frames twoPixels (.ofPrograms []) true 6 fits_darkPixels
      (Session.neverFails_roll {}) [[space], reports] [first] second [] split goesOn
  have settled : panel.state = .stopped := by
    rw [← stopped, same]
    decide +kernel
  rw [taken, List.getLast?_map, Option.map_eq_some_iff] at last
  obtain ⟨shown, isLast, rfl⟩ := last
  refine ⟨fits_darkPixels, Session.neverFails_roll _, split, goesOn, stopped, ?_⟩
  rw [isShown, StandIn.seen_afterPresents]
  exact (congrArg (Option.map fun shown => shown.2.state) isLast).trans (congrArg some settled)

/-- A pause that nothing follows is not shown: the host does not always show the run state of the
session. -/
theorem pause_not_shown :
    let played := startedThen [space]
    let shown (p : Progress StandIn.Scripted StandIn.Roll) :=
      p.host.session.display.seen.getLast?.map fun shown => shown.2.state
    Machine.Fits twoPixels.painter darkPixels ∧ Display.NeverFails ({} : StandIn.Roll) ∧
      (played.turns.map fun p => (shown p, p.host.session.desk.transport.state)) =
        [(some .running, .running), (some .running, .stopped)] ∧
      ¬ ∀ earlier p later, played.turns = earlier ++ p :: later → p.quit = false →
        shown p = some p.host.session.desk.transport.state := by
  intro played shown
  refine ⟨fits_darkPixels, Session.neverFails_roll _, by decide +kernel, fun claimed => ?_⟩
  let first := played.start.host.frame twoPixels (.ofPrograms []) [space]
  let second := first.host.frame twoPixels (.ofPrograms []) [space]
  obtain ⟨split, goesOn⟩ : played.turns = [first] ++ second :: [] ∧ second.quit = false :=
    turns_startedThen rfl
  have stale : shown second ≠ some second.host.session.desk.transport.state := by decide +kernel
  exact stale (claimed [first] second [] split goesOn)

end HexPlayer.Host
