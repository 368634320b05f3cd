import HexPlayer.Proofs.Terminal.Answers

/-!
# Reports that quit

A frame of reports asks the host to quit if one of them does. What the host hears of the frame is
what it would hear if the frame had ended before that report: first the releases that are due, and
then what the reports before it ask for.
-/

namespace HexPlayer.Terminal

open Session (Event)

/-- The report asks the host to quit: escape goes down, or control and the letter `c` in any
phase. -/
def Report.quits : Report → Bool
  | .key ⟨.escape, phase, _⟩ => phase == .press
  | .key ⟨.char c, _, modifiers⟩ => c == 'c' && modifiers.control
  | _ => false

/-- The command is to quit. -/
def Command.isQuit : Command → Bool
  | .quit => true
  | .event _ => false

/-- The events that come before the first quit. -/
def heard : List Command → List Event
  | [] => []
  | .quit :: _ => []
  | .event event :: rest => event :: heard rest

/-- The reports before the first that quits. -/
def beforeQuit (rs : List Report) : List Report := rs.takeWhile fun r => !r.quits

theorem heard_events_append (events : List Event) (rest : List Command) :
    heard (events.map .event ++ rest) = events ++ heard rest := by
  induction events with
  | nil => rfl
  | cons event events ih => exact congrArg (event :: ·) ih

theorem beforeQuit_cons_of_quits {r : Report} (quits : r.quits = true) (rest : List Report) :
    beforeQuit (r :: rest) = [] := by
  simp [beforeQuit, quits]

theorem beforeQuit_append_of_quits {r : Report} (quits : r.quits = true)
    (first rest : List Report) : beforeQuit (first ++ r :: rest) = beforeQuit first := by
  induction first with
  | nil => exact beforeQuit_cons_of_quits quits rest
  | cons other first ih =>
    unfold beforeQuit at ih ⊢
    simp only [List.cons_append, List.takeWhile_cons, ih]

namespace Keyboard

/-- A stroke asks for its edge or for nothing. -/
theorem strike_fst (kb : Keyboard) (c : Char) (phase : Phase) :
    (kb.strike c phase).1 = none ∨
      (kb.strike c phase).1 = some (.event (.key c (edgeOf phase))) := by
  unfold strike
  split
  next => exact .inr rfl
  next =>
    dsimp only
    split
    next => exact .inl rfl
    next => exact .inr rfl

/-- Of the command keys only escape quits, and none refreshes. -/
theorem command_fst (kb : Keyboard) (code : KeyCode) :
    ((kb.command code).1 = some .quit ↔ code = .escape) ∧
      (kb.command code).1 ≠ some (.event .refresh) := by
  unfold command
  split
  next => simp
  next => simp
  next => simp
  next => simp
  next => simp [select]
  next => simp [select]
  next notEscape _ _ _ _ _ => simpa using notEscape

/-- A report asks to quit exactly if it is one that quits. -/
theorem report_eq_quit_iff (kb : Keyboard) (r : Report) :
    (kb.report r).1 = some .quit ↔ r.quits = true := by
  cases r with
  | key stroke =>
    obtain ⟨code, phase, modifiers⟩ := stroke
    cases code with
    | char c =>
      simp only [report, keystroke, Report.quits]
      by_cases interrupt : c = 'c' ∧ modifiers.control = true
      · simp [interrupt]
      · have noQuit : (c == 'c' && modifiers.control) = false := by simpa using interrupt
        have noInterrupt : ¬ (KeyCode.char c = .char 'c' && modifiers.control) = true := by
          simpa using interrupt
        rw [noQuit, if_neg noInterrupt]
        split
        next =>
          split
          next => simp [(kb.command_fst _).1]
          next => simp
        next struck _ _ =>
          rcases strike_fst kb struck.toLower phase with asked | asked <;> simp [asked]
        next => split <;> simp [(kb.command_fst _).1]
    | escape => cases phase <;> simp [report, keystroke, Report.quits, (kb.command_fst _).1]
    | _ => cases phase <;> simp [report, keystroke, Report.quits, (kb.command_fst _).1]
  | _ => simp [report, Report.quits]

/-- No report asks for a refresh. -/
theorem report_ne_refresh (kb : Keyboard) (r : Report) :
    (kb.report r).1 ≠ some (.event .refresh) := by
  have struck (c : Char) (phase : Phase) : (kb.strike c phase).1 ≠ some (.event .refresh) := by
    rcases strike_fst kb c phase with asked | asked <;> simp [asked]
  unfold report keystroke
  split
  next k =>
    split
    next => simp
    next =>
      split
      next =>
        split
        next => exact (kb.command_fst _).2
        next => simp
      next => exact struck _ _
      next =>
        split
        next => exact (kb.command_fst _).2
        next => simp
  next => simp

/-- Reports ask to quit exactly if one of them quits. -/
theorem any_isQuit_reports (kb : Keyboard) (rs : List Report) :
    (kb.reports rs).1.any Command.isQuit = rs.any Report.quits := by
  induction rs generalizing kb with
  | nil => rfl
  | cons r rest ih =>
    have asks : (kb.report r).1.toList.any Command.isQuit = r.quits := by
      rw [Bool.eq_iff_iff, ← report_eq_quit_iff kb r]
      cases (kb.report r).1 with
      | none => simp
      | some command => cases command <;> simp [Command.isQuit]
    simp only [reports, List.any_append, List.any_cons, asks, ih]

/-- What is heard of reports is what those before the first that quits ask for. -/
theorem map_event_heard_reports (kb : Keyboard) (rs : List Report) :
    (heard (kb.reports rs).1).map .event = (kb.reports (beforeQuit rs)).1 := by
  induction rs generalizing kb with
  | nil => rfl
  | cons r rest ih =>
    cases quits : r.quits with
    | true =>
      have asked : (kb.report r).1 = some .quit := (report_eq_quit_iff kb r).mpr quits
      rw [beforeQuit_cons_of_quits quits]
      simp only [reports, asked]
      rfl
    | false =>
      have goesOn : (kb.report r).1 ≠ some .quit := fun asked => by
        rw [(report_eq_quit_iff kb r).mp asked] at quits
        cases quits
      have later : beforeQuit (r :: rest) = r :: beforeQuit rest := by
        simp [beforeQuit, quits]
      rw [later]
      simp only [reports, ← ih]
      cases asked : (kb.report r).1 with
      | none => rfl
      | some command =>
        cases command with
        | quit => exact absurd asked goesOn
        | event event => rfl

/-- A frame asks to quit exactly if one of its reports quits. -/
theorem any_isQuit_forFrame (kb : Keyboard) (rs : List Report) :
    (kb.forFrame rs).1.any Command.isQuit = rs.any Report.quits := by
  have held : kb.releases.any Command.isQuit = false := by simp [releases, Command.isQuit]
  have asked := any_isQuit_reports kb.wake rs
  rw [← asked, forFrame, List.any_append, held, Bool.false_or]
  rfl

/-- What is heard of a frame: the releases that are due, and then what the reports before the first
that quits ask for. -/
theorem map_event_heard_forFrame (kb : Keyboard) (rs : List Report) :
    (heard (kb.forFrame rs).1).map .event =
      kb.releases ++ (kb.wake.reports (beforeQuit rs)).1 := by
  have due : kb.releases = (kb.holds.due.map fun c => Event.key c .released).map .event := by
    rw [releases, List.map_map]
    rfl
  rw [← map_event_heard_reports kb.wake rs, forFrame, due, heard_events_append, List.map_append]
  rfl

/-- No frame asks for a refresh. -/
theorem refresh_not_mem_heard (kb : Keyboard) (rs : List Report) :
    .refresh ∉ heard (kb.forFrame rs).1 := by
  have notAsked (kb : Keyboard) (rs : List Report) :
      Command.event .refresh ∉ (kb.reports rs).1 := by
    induction rs generalizing kb with
    | nil => simp [reports]
    | cons r rest ih =>
      have first := report_ne_refresh kb r
      simp [reports, ih, Option.mem_toList, first]
  intro hears
  have told := List.mem_map_of_mem (f := Command.event) hears
  rw [map_event_heard_forFrame, List.mem_append] at told
  rcases told with release | asked
  · simp [releases] at release
  · exact notAsked _ _ asked

/-- What is heard of a frame that quits does not depend on the reports behind the first that
does. -/
theorem heard_forFrame_of_quits (kb : Keyboard) {r : Report} (quits : r.quits = true)
    (first rest rest' : List Report) :
    heard (kb.forFrame (first ++ r :: rest)).1 = heard (kb.forFrame (first ++ r :: rest')).1 := by
  have same : (heard (kb.forFrame (first ++ r :: rest)).1).map Command.event =
      (heard (kb.forFrame (first ++ r :: rest')).1).map Command.event := by
    rw [map_event_heard_forFrame, map_event_heard_forFrame, beforeQuit_append_of_quits quits,
      beforeQuit_append_of_quits quits]
  exact (List.map_inj_right fun _ _ equal => Command.event.inj equal).mp same

end Keyboard

end HexPlayer.Terminal
