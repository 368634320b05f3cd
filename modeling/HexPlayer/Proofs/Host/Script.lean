import HexPlayer.Host
import HexPlayer.Proofs.Session.Devices
import HexPlayer.Proofs.Terminal.Quitting

/-!
# The script of a host

A host does nothing to its session but carry out operations: in each frame it serves the open
requests, handles the events that it hears, and refreshes if a refresh is due. `frame_eq` says so of
a frame and `turns_eq` of all of them, whose script is one run of the session. `effects_frame` and
`effects_upto` tie what they do to the machine and the display.
-/

namespace HexPlayer.Host

open Session (Config Deed Effects Operation Outcome after deviceDeeds stages)
open Cartridge (Source)
open Terminal (Command Keyboard Report heard)

/-- A list is what comes before an element, the element, and what comes behind it. -/
theorem eq_append_of_getElem? {α : Type} {l : List α} {i : Nat} {x : α} (isNth : l[i]? = some x) :
    l = l.take i ++ x :: l.drop (i + 1) := by
  obtain ⟨bound, rfl⟩ := List.getElem?_eq_some_iff.mp isNth
  rw [← List.drop_eq_getElem_cons bound, List.take_append_drop]

variable {M D : Type} [Machine M] [Display D]

/-- What operations do, with each failure in the journal. -/
def journaled (cfg : Config) (ops : List Operation) (s : Session M D) : List Deed :=
  (stages cfg ops s).flatMap fun stage => (stage.outcome.recordError .operationFailed).deeds

theorem journaled_cons (cfg : Config) (op : Operation) (ops : List Operation) (s : Session M D) :
    journaled cfg (op :: ops) s =
      ((s.operate cfg op).recordError .operationFailed).deeds ++
        journaled cfg ops (s.operate cfg op).session := rfl

theorem journaled_append (cfg : Config) (first second : List Operation) (s : Session M D) :
    journaled cfg (first ++ second) s =
      journaled cfg first s ++ journaled cfg second (after cfg first s) := by
  simp only [journaled, Session.stages_append, List.flatMap_append]

/-- The journal is no device. -/
theorem deviceDeeds_journaled (cfg : Config) (ops : List Operation) (s : Session M D) :
    deviceDeeds (journaled cfg ops s) = deviceDeeds (Session.deeds cfg ops s) := by
  induction ops generalizing s with
  | nil => rfl
  | cons op ops ih =>
    rw [journaled_cons, Session.deeds_cons, Session.deviceDeeds_append,
      Session.deviceDeeds_append, ih, Session.deviceDeeds_recordError]

theorem view_journaled {α : Type} {view : Deed → Option α}
    (onDevice : ∀ deed, deed.isOnDevice = false → view deed = none) (cfg : Config)
    (ops : List Operation) (s : Session M D) :
    (journaled cfg ops s).filterMap view = (Session.deeds cfg ops s).filterMap view := by
  rw [← Session.view_deviceDeeds onDevice, deviceDeeds_journaled,
    Session.view_deviceDeeds onDevice]

/-- The deeds of operations are their effects, whatever goes into the journal. -/
theorem effects_journaled (cfg : Config) (ops : List Operation) (s : Session M D) :
    Effects s (journaled cfg ops s) (after cfg ops s) :=
  (Session.effects_after cfg ops s).of_deviceDeeds_eq (deviceDeeds_journaled cfg ops s)

/-- A host starts with the session booted. -/
theorem session_start (cfg : Config) (reportsReleases : Bool) (holdFrames : Nat) (machine : M)
    (display : D) :
    (start cfg reportsReleases holdFrames machine display).host.session =
      after cfg [.boot] (Session.fresh cfg machine display) := by
  simp [start, Session.operate]

/-- What a host does to start has the effects of booting. -/
theorem effects_start (cfg : Config) (reportsReleases : Bool) (holdFrames : Nat) (machine : M)
    (display : D) :
    let started := start cfg reportsReleases holdFrames machine display
    Effects (Session.fresh cfg machine display) started.deeds started.host.session := by
  intro started
  have warned : deviceDeeds (if reportsReleases then [] else [.recorded .releasesUnreported]) =
      [] := by
    cases reportsReleases <;> rfl
  have booted :
      deviceDeeds (((Session.fresh cfg machine display).boot cfg).recordError .bootFailed).deeds =
        deviceDeeds (Session.deeds cfg [.boot] (.fresh cfg machine display)) := by
    rw [Session.deviceDeeds_recordError, Session.deeds_cons, Session.deeds_nil, List.append_nil]
    rfl
  rw [show started.host.session = _ from session_start ..]
  refine (Session.effects_after cfg [.boot] _).of_deviceDeeds_eq ?_
  exact (Session.deviceDeeds_append ..).trans (by rw [warned, booted, List.nil_append])

/-- The operations of a frame before its refresh: the open requests are served, and then the events
that the host hears are handled. -/
def inputs (source : Source) (reports : List Report) (h : Host M D) : List Operation :=
  .serveAll source :: (heard (h.keyboard.forFrame reports).1).map .handle

/-- A refresh if one is due. -/
def refreshOf (s : Session M D) : List Operation :=
  if s.desk.transport.refreshDue then [.handle .refresh] else []

/-- The operations of a frame; one that quits has no refresh. -/
def operations (cfg : Config) (source : Source) (reports : List Report) (h : Host M D) :
    List Operation :=
  h.inputs source reports ++
    if reports.any Report.quits then []
    else refreshOf (after cfg (h.inputs source reports) h.session)

/-- The operations of frames, up to the one that quits. -/
def script (cfg : Config) (source : Source) : List (List Report) → Host M D → List Operation
  | [], _ => []
  | reports :: rest, h =>
    h.operations cfg source reports ++
      if reports.any Report.quits then []
      else script cfg source rest (h.frame cfg source reports).host

/-- An operation of the host is one of its session. -/
theorem ofOutcome_operate (cfg : Config) (s : Session M D) (op : Operation) (keyboard : Keyboard) :
    Progress.ofOutcome keyboard (s.operate cfg op) =
      ⟨⟨after cfg [op] s, keyboard⟩, journaled cfg [op] s, false⟩ := by
  simp [Progress.ofOutcome, journaled, stages]

/-- Commands are carried out as the events that are heard of them. -/
theorem obey_eq (cfg : Config) (commands : List Command) (h : Host M D) :
    obey cfg commands h =
      ⟨⟨after cfg ((heard commands).map .handle) h.session, h.keyboard⟩,
        journaled cfg ((heard commands).map .handle) h.session,
        commands.any Command.isQuit⟩ := by
  induction commands generalizing h with
  | nil => rfl
  | cons command rest ih =>
    cases command with
    | quit => rfl
    | event event =>
      have first : h.handle cfg event =
          ⟨⟨after cfg [.handle event] h.session, h.keyboard⟩,
            journaled cfg [.handle event] h.session, false⟩ :=
        ofOutcome_operate cfg h.session (.handle event) h.keyboard
      have goesOn : (h.handle cfg event).quit = false := by rw [first]
      rw [obey, Progress.andThen, if_neg (by simp [goesOn]), ih, first]
      simp only [← journaled_append, ← Session.after_append]
      rfl

/-- The host handles the events that it hears of a frame. -/
theorem listen_eq (cfg : Config) (reports : List Report) (h : Host M D) :
    h.listen cfg reports =
      ⟨⟨after cfg ((heard (h.keyboard.forFrame reports).1).map .handle) h.session,
          (h.keyboard.forFrame reports).2⟩,
        journaled cfg ((heard (h.keyboard.forFrame reports).1).map .handle) h.session,
        reports.any Report.quits⟩ := by
  rw [← Keyboard.any_isQuit_forFrame h.keyboard reports]
  exact obey_eq cfg _ _

/-- A refresh that is due is one more operation. -/
theorem refresh_eq (cfg : Config) (h : Host M D) :
    h.refresh cfg =
      ⟨⟨after cfg (refreshOf h.session) h.session, h.keyboard⟩,
        journaled cfg (refreshOf h.session) h.session, false⟩ := by
  unfold refresh refreshOf
  split
  next due => exact ofOutcome_operate cfg h.session (.handle .refresh) h.keyboard
  next => rfl

/-- A frame carries out its operations. -/
theorem frame_eq (cfg : Config) (source : Source) (reports : List Report) (h : Host M D) :
    h.frame cfg source reports =
      ⟨⟨after cfg (h.operations cfg source reports) h.session,
          (h.keyboard.forFrame reports).2⟩,
        journaled cfg (h.operations cfg source reports) h.session,
        reports.any Report.quits⟩ := by
  have served : h.serve cfg source =
      ⟨⟨after cfg [.serveAll source] h.session, h.keyboard⟩,
        journaled cfg [.serveAll source] h.session, false⟩ :=
    ofOutcome_operate cfg h.session (.serveAll source) h.keyboard
  have goesOn : (h.serve cfg source).quit = false := by rw [served]
  have listened : (h.serve cfg source).andThen (listen cfg reports) =
      ⟨⟨after cfg (h.inputs source reports) h.session, (h.keyboard.forFrame reports).2⟩,
        journaled cfg (h.inputs source reports) h.session, reports.any Report.quits⟩ := by
    rw [Progress.andThen, if_neg (by simp [goesOn]), listen_eq, served]
    simp only [← journaled_append, ← Session.after_append]
    rfl
  rw [frame, listened, Progress.andThen, operations]
  cases reports.any Report.quits with
  | true => simp
  | false => simp [refresh_eq, journaled_append, Session.after_append]

theorem session_frame (cfg : Config) (source : Source) (reports : List Report) (h : Host M D) :
    (h.frame cfg source reports).host.session =
      after cfg (h.operations cfg source reports) h.session := by
  rw [frame_eq]

theorem deeds_frame (cfg : Config) (source : Source) (reports : List Report) (h : Host M D) :
    (h.frame cfg source reports).deeds =
      journaled cfg (h.operations cfg source reports) h.session := by
  rw [frame_eq]

theorem quit_frame (cfg : Config) (source : Source) (reports : List Report) (h : Host M D) :
    (h.frame cfg source reports).quit = reports.any Report.quits := by
  rw [frame_eq]

/-- The deeds of a frame are its effects. -/
theorem effects_frame (cfg : Config) (source : Source) (reports : List Report) (h : Host M D) :
    let p := h.frame cfg source reports
    Effects h.session p.deeds p.host.session := by
  intro p
  rw [session_frame, deeds_frame]
  exact effects_journaled cfg _ _

/-- A frame that does not quit is followed by the turns of the host that it leads to. -/
theorem turns_cons_of_goesOn (cfg : Config) (source : Source) {reports : List Report}
    (goesOn : reports.any Report.quits = false) (rest : List (List Report)) (h : Host M D) :
    h.turns cfg source (reports :: rest) =
      h.frame cfg source reports :: (h.frame cfg source reports).host.turns cfg source rest := by
  rw [turns, quit_frame, goesOn, if_neg Bool.false_ne_true]

omit [Machine M] [Display D] in
theorem afterTurns_cons (h : Host M D) (p : Progress M D) (rest : List (Progress M D)) :
    h.afterTurns (p :: rest) = p.host.afterTurns rest := by
  unfold afterTurns
  rw [List.getLast?_cons]
  cases rest.getLast? <;> rfl

/-- The turns of a host carry out its script. -/
theorem turns_eq (cfg : Config) (source : Source) (frames : List (List Report)) (h : Host M D) :
    (h.afterTurns (h.turns cfg source frames)).session =
        after cfg (h.script cfg source frames) h.session ∧
      (h.turns cfg source frames).flatMap Progress.deeds =
        journaled cfg (h.script cfg source frames) h.session := by
  induction frames generalizing h with
  | nil => exact ⟨rfl, rfl⟩
  | cons reports rest ih =>
    obtain ⟨session, done⟩ := ih (h.frame cfg source reports).host
    rw [turns, script, afterTurns_cons, Session.after_append, journaled_append,
      List.flatMap_cons, quit_frame, deeds_frame, ← session_frame]
    cases reports.any Report.quits with
    | true => exact ⟨rfl, rfl⟩
    | false => exact ⟨session, congrArg _ done⟩

/-- The script of frames that do not quit goes on with the operations of the next. -/
theorem script_concat (cfg : Config) (source : Source) {before : List (List Report)}
    (goOn : ∀ reports ∈ before, reports.any Report.quits = false) (reports : List Report)
    (h : Host M D) :
    h.script cfg source (before ++ [reports]) =
      h.script cfg source before ++
        (h.afterTurns (h.turns cfg source before)).operations cfg source reports := by
  induction before generalizing h with
  | nil => simp [script, turns, afterTurns]
  | cons first before ih =>
    have goesOn := goOn first List.mem_cons_self
    have later := ih (fun other member => goOn other (List.mem_cons_of_mem _ member))
      (h.frame cfg source first).host
    simp only [List.cons_append, script, goesOn, turns_cons_of_goesOn cfg source goesOn,
      afterTurns_cons, later, List.append_assoc, Bool.false_eq_true, if_false]

/-- A turn is the frame of the host that the turns before it lead to. -/
theorem eq_of_turns_eq {cfg : Config} {source : Source} {frames : List (List Report)}
    {h : Host M D} {earlier later : List (Progress M D)} {p : Progress M D}
    (split : h.turns cfg source frames = earlier ++ p :: later) :
    ∃ before reports rest, frames = before ++ reports :: rest ∧
      earlier = h.turns cfg source before ∧ earlier.length = before.length ∧
      (∀ reports ∈ before, reports.any Report.quits = false) ∧
      p = (h.afterTurns earlier).frame cfg source reports ∧
      later = if p.quit then [] else p.host.turns cfg source rest := by
  induction earlier generalizing frames h with
  | nil =>
    cases frames with
    | nil => cases split
    | cons reports frames =>
      obtain ⟨rfl, rfl⟩ := List.cons.inj split
      exact ⟨[], reports, frames, rfl, rfl, rfl, nofun, rfl, rfl⟩
  | cons first earlier ih =>
    cases frames with
    | nil => cases split
    | cons reports frames =>
      obtain ⟨rfl, others⟩ := List.cons.inj split
      have quits := h.quit_frame cfg source reports
      cases goesOn : reports.any Report.quits with
      | true => simp [quits, goesOn] at others
      | false =>
        rw [quits, goesOn] at others
        obtain ⟨before, next, rest, rfl, rfl, length, goOn, rfl, rfl⟩ := ih others
        refine ⟨reports :: before, next, rest, rfl, ?_, ?_, ?_, ?_, rfl⟩
        · rw [turns_cons_of_goesOn cfg source goesOn]
        · simp [length]
        · exact List.forall_mem_cons.mpr ⟨goesOn, goOn⟩
        · rw [afterTurns_cons]

/-- The deeds of a turn take the devices from where the turns before it have left them. -/
theorem effects_turn {cfg : Config} {source : Source} {frames : List (List Report)}
    {h : Host M D} {earlier later : List (Progress M D)} {p : Progress M D}
    (split : h.turns cfg source frames = earlier ++ p :: later) :
    Effects (h.afterTurns earlier).session p.deeds p.host.session := by
  obtain ⟨-, reports, -, -, -, -, -, rfl, -⟩ := eq_of_turns_eq split
  exact effects_frame cfg source reports _

/-- What every frame that does not quit keeps of a host, its turns keep. -/
theorem keeps_afterTurns {cfg : Config} {source : Source} (keeps : Host M D → Prop)
    (frame : ∀ h reports, keeps h → reports.any Report.quits = false →
      keeps (h.frame cfg source reports).host)
    {before : List (List Report)} (goOn : ∀ reports ∈ before, reports.any Report.quits = false)
    {h : Host M D} (kept : keeps h) : keeps (h.afterTurns (h.turns cfg source before)) := by
  induction before generalizing h with
  | nil => exact kept
  | cons first before ih =>
    have goesOn := goOn first List.mem_cons_self
    rw [turns_cons_of_goesOn cfg source goesOn, afterTurns_cons]
    exact ih (fun other member => goOn other (List.mem_cons_of_mem _ member))
      (frame h first kept goesOn)

/-- The turns of the first frames are the first turns. -/
theorem turns_take (cfg : Config) (source : Source) (count : Nat) (frames : List (List Report))
    (h : Host M D) :
    h.turns cfg source (frames.take count) = (h.turns cfg source frames).take count := by
  induction count generalizing frames h with
  | zero => rfl
  | succ count ih =>
    cases frames with
    | nil => rfl
    | cons reports rest =>
      simp only [List.take_succ_cons, turns, ih]
      split
      next => rw [List.take_nil]
      next => rfl

/-- The turns up to one of them carry out the script of their frames. -/
theorem turns_upto_eq {cfg : Config} {source : Source} {frames : List (List Report)}
    {h : Host M D} {earlier later : List (Progress M D)} {p : Progress M D}
    (split : h.turns cfg source frames = earlier ++ p :: later) :
    let ops := h.script cfg source (frames.take (earlier.length + 1))
    p.host.session = after cfg ops h.session ∧
      (earlier ++ [p]).flatMap Progress.deeds = journaled cfg ops h.session := by
  intro ops
  have turned : h.turns cfg source (frames.take (earlier.length + 1)) = earlier ++ [p] := by
    rw [turns_take, split]
    exact List.take_length_add_append 1
  have ended : h.afterTurns (earlier ++ [p]) = p.host := by simp [afterTurns]
  obtain ⟨session, done⟩ := turns_eq cfg source (frames.take (earlier.length + 1)) h
  rw [turned] at session done
  rw [ended] at session
  exact ⟨session, done⟩

/-- All that a show has done up to a turn are the effects on its devices. -/
theorem effects_upto {cfg : Config} {source : Source} {frames : List (List Report)}
    {reportsReleases : Bool} {holdFrames : Nat} {machine : M} {display : D}
    {earlier later : List (Progress M D)} {p : Progress M D}
    (split : (play cfg source reportsReleases holdFrames machine display frames).turns =
      earlier ++ p :: later) :
    let started := start cfg reportsReleases holdFrames machine display
    Effects (Session.fresh cfg machine display) (Show.deeds ⟨started, earlier ++ [p]⟩)
      p.host.session := by
  intro started
  obtain ⟨session, done⟩ := turns_upto_eq split
  rw [Show.deeds, session, done]
  exact (effects_start cfg reportsReleases holdFrames machine display).append
    (effects_journaled cfg _ _)

/-- The script up to a turn that goes on ends with the refresh of its frame. -/
theorem script_take_of_goesOn {cfg : Config} {source : Source} {frames : List (List Report)}
    {h : Host M D} {earlier later : List (Progress M D)} {p : Progress M D}
    (split : h.turns cfg source frames = earlier ++ p :: later) (goesOn : p.quit = false) :
    ∃ ops, h.script cfg source (frames.take (earlier.length + 1)) =
      ops ++ refreshOf (after cfg ops h.session) := by
  obtain ⟨before, reports, rest, rfl, rfl, length, goOn, isFrame, -⟩ := eq_of_turns_eq split
  have noQuit : reports.any Report.quits = false := by rw [← goesOn, isFrame, quit_frame]
  have taken : (before ++ reports :: rest).take (before.length + 1) = before ++ [reports] :=
    List.take_length_add_append 1
  refine ⟨h.script cfg source before ++
    (h.afterTurns (h.turns cfg source before)).inputs source reports, ?_⟩
  rw [length, taken, script_concat cfg source goOn, operations, noQuit, List.append_assoc,
    Session.after_append, (turns_eq cfg source before h).1]
  rfl

/-- There are turns up to the first frame that quits. -/
theorem length_turns (cfg : Config) (source : Source) (frames : List (List Report))
    (h : Host M D) :
    (h.turns cfg source frames).length =
      min (frames.findIdx (·.any Report.quits) + 1) frames.length := by
  induction frames generalizing h with
  | nil => rfl
  | cons reports rest ih =>
    rw [turns, List.length_cons, List.findIdx_cons, List.length_cons, quit_frame]
    cases reports.any Report.quits with
    | true => simp
    | false =>
      have later := ih (h.frame cfg source reports).host
      simp only [Bool.false_eq_true, if_false, later, cond_false]
      omega

end HexPlayer.Host
