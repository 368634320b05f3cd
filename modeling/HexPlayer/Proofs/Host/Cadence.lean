import HexPlayer.Proofs.Host.Script
import HexPlayer.Proofs.Session.Motion
import HexPlayer.Proofs.Session.Recording
import HexPlayer.StandIn.Monitor

/-!
# The cadence of a host

A frame that goes on refreshes its session once if a refresh is due after the events of the frame,
and that ticks the machine exactly while the session runs. A frame that quits ends everything at its
first report that does, so that whatever was reported behind it leaves no trace.
-/

namespace HexPlayer.Host

open Session (Config Operation after calls deeds fresh)
open Cartridge (Source)
open Terminal (Report beforeQuit heard)

variable {M D : Type} [Machine M] [Display D]

/-- What a frame of reports comes to for a host. -/
structure Paced (cfg : Config) (source : Source) (h : Host M D) (reports : List Report)
    (p : Progress M D) : Prop where
  /-- The frame quits if one of its reports does. -/
  quit : p.quit = reports.any Report.quits
  /-- The releases that are due are heard first, and then what the reports before the first that
  quits ask for. -/
  hears : (heard (h.keyboard.forFrame reports).1).map .event =
    h.keyboard.releases ++ (h.keyboard.wake.reports (beforeQuit reports)).1
  /-- None of it is a refresh. -/
  unrefreshed : .refresh ∉ heard (h.keyboard.forFrame reports).1
  /-- The session carries out the inputs and then, unless the frame quits, a refresh if one is
  due. -/
  session : p.host.session = after cfg (h.inputs source reports ++
    if p.quit then [] else refreshOf (after cfg (h.inputs source reports) h.session)) h.session
  /-- Nothing else is done. -/
  done : p.deeds = journaled cfg (h.inputs source reports ++
    if p.quit then [] else refreshOf (after cfg (h.inputs source reports) h.session)) h.session
  /-- The calls among it are what becomes of the machine. -/
  machine : p.host.session.machine = Machine.afterCalls (calls p.deeds) h.session.machine
  /-- Besides the calls that the inputs make there is one tick, if the session runs after them. -/
  made : p.quit = false → calls p.deeds = calls (deeds cfg (h.inputs source reports) h.session) ++
    if (after cfg (h.inputs source reports) h.session).desk.transport.state = .running then [.tick]
    else []
  /-- In the end a refresh is due exactly while the session runs. -/
  due : p.quit = false → (p.host.session.desk.transport.refreshDue = true ↔
    p.host.session.desk.transport.state = .running)

/-- The calls of operations do not hang on the journal. -/
theorem calls_journaled (cfg : Config) (ops : List Operation) (s : Session M D) :
    calls (journaled cfg ops s) = calls (deeds cfg ops s) :=
  view_journaled Session.call?_of_not_onDevice cfg ops s

/-- If a refresh is due while the session runs, it ticks the machine exactly then. -/
theorem calls_refreshOf {s : Session M D} (kept : s.desk.transport.Kept) (cfg : Config) :
    calls (deeds cfg (refreshOf s) s) =
      if s.desk.transport.state = .running then [.tick] else [] := by
  unfold refreshOf
  split
  next due =>
    rw [Session.deeds_cons, Session.deeds_nil, List.append_nil]
    exact Session.calls_refresh cfg s
  next notDue =>
    have stopped : s.desk.transport.state ≠ .running := fun runs => notDue (kept runs)
    rw [if_neg stopped]
    rfl

/-- Once it was refreshed if that was due, a session is due for a refresh exactly while it runs. -/
theorem refreshDue_refreshOf {s : Session M D} (kept : s.desk.transport.Kept) (cfg : Config) :
    (after cfg (refreshOf s) s).desk.transport.refreshDue = true ↔
      (after cfg (refreshOf s) s).desk.transport.state = .running := by
  unfold refreshOf
  split
  next due =>
    rw [Session.after_cons, Session.after_nil, Session.transport_operate]
    simp [Operation.turn]
  next notDue =>
    rw [Session.after_nil]
    exact ⟨fun due => absurd due notDue, kept⟩

/-- Every frame of a host keeps the cadence. -/
theorem paced_frame {h : Host M D} (kept : h.session.desk.transport.Kept) (cfg : Config)
    (source : Source) (reports : List Report) :
    Paced cfg source h reports (h.frame cfg source reports) := by
  have keptOn := Session.kept_after kept cfg (h.inputs source reports)
  have effects := h.effects_frame cfg source reports
  rw [frame_eq] at effects ⊢
  refine ⟨rfl, h.keyboard.map_event_heard_forFrame reports,
    h.keyboard.refresh_not_mem_heard reports, rfl, rfl, effects.machine, fun goesOn => ?_,
    fun goesOn => ?_⟩
  · have goesOn : reports.any Report.quits = false := goesOn
    rw [operations, goesOn, calls_journaled, Session.deeds_append, Session.calls_append,
      ← calls_refreshOf keptOn]
    rfl
  · have goesOn : reports.any Report.quits = false := goesOn
    rw [operations, goesOn, Session.after_append]
    exact refreshDue_refreshOf keptOn cfg

/-- A host starts with a refresh due if it runs. -/
theorem kept_start (cfg : Config) (reportsReleases : Bool) (holdFrames : Nat) (machine : M)
    (display : D) :
    (start cfg reportsReleases holdFrames machine display).host.session.desk.transport.Kept := by
  rw [session_start]
  exact Session.kept_after_fresh cfg machine display _

/-- Up to a report that quits there is one script for all that may be reported behind it. -/
theorem script_of_quits (cfg : Config) (source : Source) {r : Report} (quits : r.quits = true)
    (common : List (List Report)) (first rest rest' : List Report)
    (later later' : List (List Report)) (h : Host M D) :
    h.script cfg source (common ++ (first ++ r :: rest) :: later) =
      h.script cfg source (common ++ (first ++ r :: rest') :: later') := by
  induction common generalizing h with
  | nil =>
    have quitsIt (rest : List Report) : (first ++ r :: rest).any Report.quits = true := by
      simp [quits]
    simp only [List.nil_append, script, operations, inputs, quitsIt, if_true,
      h.keyboard.heard_forFrame_of_quits quits first rest rest']
  | cons reports common ih =>
    rw [List.cons_append, List.cons_append, script, script, ih]

/-- A show keeps the cadence. It has a turn for every frame up to the first that quits. In every
turn the session carries out what is heard before the first quit, and a turn that goes on refreshes
once if that is due, which ticks the machine exactly if the session runs; then a refresh is due
exactly while it runs. The machine gets the calls of every turn. What is reported behind the first
report that quits leaves no trace. -/
theorem cadence_of_frames (cfg : Config) (source : Source) (reportsReleases : Bool)
    (holdFrames : Nat) (machine : M) (display : D) :
    let played := play cfg source reportsReleases holdFrames machine display
    (∀ frames : List (List Report),
      (played frames).turns.length =
          min (frames.findIdx (·.any Report.quits) + 1) frames.length ∧
        ∀ earlier p later, (played frames).turns = earlier ++ p :: later →
          ∃ reports, frames[earlier.length]? = some reports ∧
            Paced cfg source ((played frames).start.host.afterTurns earlier) reports p) ∧
    ∀ (common : List (List Report)) (first : List Report) (r : Report)
      (rest rest' : List Report) (later later' : List (List Report)), r.quits = true →
      let one := played (common ++ (first ++ r :: rest) :: later)
      let other := played (common ++ (first ++ r :: rest') :: later')
      one.deeds = other.deeds ∧ one.final.session = other.final.session := by
  intro played
  let started := start cfg reportsReleases holdFrames machine display
  have keptAtFirst : started.host.session.desk.transport.Kept :=
    kept_start cfg reportsReleases holdFrames machine display
  refine ⟨fun frames => ⟨length_turns cfg source frames started.host, ?_⟩, ?_⟩
  · intro earlier p later split
    obtain ⟨before, reports, rest, rfl, rfl, length, -, rfl, -⟩ := eq_of_turns_eq split
    have keptSoFar : (started.host.afterTurns
        (started.host.turns cfg source before)).session.desk.transport.Kept := by
      rw [(turns_eq cfg source before started.host).1]
      exact Session.kept_after keptAtFirst cfg _
    exact ⟨reports, by simp [length], paced_frame keptSoFar cfg source reports⟩
  · intro common first r rest rest' later later' quits one other
    have script : started.host.script cfg source (common ++ (first ++ r :: rest) :: later) =
        started.host.script cfg source (common ++ (first ++ r :: rest') :: later') :=
      script_of_quits cfg source quits common first rest rest' later later' started.host
    obtain ⟨session, done⟩ :=
      turns_eq cfg source (common ++ (first ++ r :: rest) :: later) started.host
    obtain ⟨session', done'⟩ :=
      turns_eq cfg source (common ++ (first ++ r :: rest') :: later') started.host
    refine ⟨congrArg (started.deeds ++ ·) ?_, ?_⟩
    · exact done.trans ((congrArg (journaled cfg · started.host.session) script).trans done'.symm)
    · exact session.trans ((congrArg (after cfg · started.host.session) script).trans session'.symm)

/-- A player who presses play in the first frame and escape in the second sees one tick, and what is
pressed behind escape makes no difference. -/
theorem cadence_of_play_and_escape :
    let cfg : Config := { resolution := ⟨2, 1⟩, pixelSize := 1, defaultTitle := none }
    let machine : StandIn.Tape := { frame := #[0, 0] }
    let display : StandIn.Monitor := {}
    let played := play cfg (.ofPrograms []) true 6 machine display
    let play : Report := .key { code := .char ' ' }
    let escape : Report := .key { code := .escape }
    let one := played [[play], [escape]]
    let other := played [[play], [escape, play], [play]]
    escape.quits = true ∧ (one.turns.map fun p => (calls p.deeds, p.quit)) =
        [([.tick], false), ([], true)] ∧
      (one.turns.map fun p => p.host.session.machine.made) = [[.tick], [.tick]] ∧
      one.deeds = other.deeds ∧ one.final.session = other.final.session := by
  intro cfg machine display played play escape one other
  have quits : escape.quits = true := rfl
  have same := (cadence_of_frames cfg (.ofPrograms []) true 6 machine display).2
    [[play]] [] escape [] [play] [] [[play]] quits
  exact ⟨quits, by decide +kernel, by decide +kernel, same⟩

end HexPlayer.Host
