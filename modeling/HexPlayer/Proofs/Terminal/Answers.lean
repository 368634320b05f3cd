import HexPlayer.Terminal.Keyboard

/-!
# Reports and their answers

Each report asks the host for one thing at most. `report_of_strike` and `report_of_no_strike` tell
the reports that strike a character from the others, and `answers` keeps the reports that ask for
nothing in place, so that an answer stands where its report does.
-/

namespace HexPlayer.Terminal

/-- The character that a report strikes and the phase of the stroke, if it strikes one. -/
def Report.strike? : Report → Option (Char × Phase)
  | .key ⟨.char c, phase, modifiers⟩ =>
    if c = ' ' ∨ c = 'c' ∧ modifiers.control then none else some (c.toLower, phase)
  | _ => none

/-- A report strikes a character exactly if it is about one, other than the blank and the
interrupt. -/
theorem strike?_eq_some_iff {r : Report} {c : Char} {phase : Phase} :
    r.strike? = some (c, phase) ↔
      ∃ d modifiers, r = .key ⟨.char d, phase, modifiers⟩ ∧ d ≠ ' ' ∧
        ¬ (d = 'c' ∧ modifiers.control = true) ∧ c = d.toLower := by
  constructor
  · intro strike
    unfold Report.strike? at strike
    split at strike
    next d told modifiers =>
      split at strike
      next => cases strike
      next isStruck =>
        obtain ⟨notBlank, notInterrupt⟩ := not_or.mp isStruck
        obtain ⟨rfl, rfl⟩ := Prod.mk.inj (Option.some.inj strike)
        exact ⟨d, modifiers, rfl, notBlank, notInterrupt, rfl⟩
    next => cases strike
  · rintro ⟨d, modifiers, rfl, notBlank, notInterrupt, rfl⟩
    exact if_neg (not_or.mpr ⟨notBlank, notInterrupt⟩)

/-- The report strikes this character, in whatever phase. -/
def Report.touches (c : Char) (r : Report) : Bool := (r.strike?.map Prod.fst) == some c

theorem touches_of_strike {r : Report} {struck : Char} {phase : Phase}
    (strike : r.strike? = some (struck, phase)) (c : Char) : r.touches c = (struck == c) := by
  simp [Report.touches, strike]

theorem touches_of_no_strike {r : Report} (strike : r.strike? = none) (c : Char) :
    r.touches c = false := by
  simp [Report.touches, strike]

/-- The character that goes down or comes up, if the command is an edge. -/
def Command.edge? : Command → Option (Char × Edge)
  | .event (.key c edge) => some (c, edge)
  | _ => none

theorem edge?_eq_some_iff {command : Command} {c : Char} {edge : Edge} :
    command.edge? = some (c, edge) ↔ command = .event (.key c edge) := by
  unfold Command.edge?
  split
  · simp
  next notEdge =>
    constructor
    · intro none
      cases none
    · intro isEdge
      exact absurd isEdge (notEdge c edge)

/-- The edges of releases are those releases. -/
theorem edges_releases (chars : List Char) :
    (chars.map fun c => Command.event (.key c .released)).filterMap Command.edge? =
      chars.map fun c => (c, .released) := by
  rw [List.filterMap_map, ← List.filterMap_eq_map]
  rfl

theorem mem_edges_iff {answers : List (Option Command)} {c : Char} {edge : Edge} :
    (c, edge) ∈ (answers.filterMap id).filterMap Command.edge? ↔
      ∃ k : Nat, answers[k]? = some (some (.event (.key c edge))) := by
  simp only [List.mem_filterMap, edge?_eq_some_iff, exists_eq_right, id, ← List.mem_iff_getElem?]

/-- Edges that each stand in one place only are distinct. -/
theorem nodup_edges {answers : List (Option Command)}
    (once : ∀ (i k : Nat) c edge, answers[i]? = some (some (.event (.key c edge))) →
      answers[k]? = some (some (.event (.key c edge))) → i = k) :
    ((answers.filterMap id).filterMap Command.edge?).Nodup := by
  rw [List.filterMap_filterMap, List.Nodup, List.pairwise_filterMap, List.pairwise_iff_getElem]
  intro i k iBound kBound less edge first other second same
  subst same
  obtain ⟨c, edge⟩ := edge
  simp only [id, Option.bind_eq_some_iff, edge?_eq_some_iff, exists_eq_right] at first second
  rw [← Option.some.injEq, ← List.getElem?_eq_getElem] at first second
  exact Nat.ne_of_lt less (once i k c edge first second)

namespace Keyboard

/-- The keyboard at the start of a frame, when everything that is held has one frame less. -/
def wake (kb : Keyboard) : Keyboard := { kb with holds := kb.holds.countdown }

/-- What each report asks of the host. -/
def answers (kb : Keyboard) : List Report → List (Option Command)
  | [] => []
  | r :: rest => (kb.report r).1 :: (kb.report r).2.answers rest

/-- The keyboard after frames of reports. -/
def afterFrames (kb : Keyboard) (frames : List (List Report)) : Keyboard :=
  frames.foldl (fun kb rs => (kb.forFrame rs).2) kb

/-- What the host is asked for, frame by frame. -/
def commandsOf (kb : Keyboard) : List (List Report) → List (List Command)
  | [] => []
  | rs :: rest => (kb.forFrame rs).1 :: (kb.forFrame rs).2.commandsOf rest

/-- A report that strikes a character is nothing but the stroke. -/
theorem report_of_strike (kb : Keyboard) {r : Report} {c : Char} {phase : Phase}
    (strike : r.strike? = some (c, phase)) : kb.report r = kb.strike c phase := by
  obtain ⟨d, modifiers, rfl, notBlank, notInterrupt, rfl⟩ := strike?_eq_some_iff.mp strike
  have noQuit : ¬ (KeyCode.char d = .char 'c' && modifiers.control) = true := by
    simpa using notInterrupt
  simp only [report, keystroke]
  rw [if_neg noQuit]

/-- A report that strikes no character sets the title at most. -/
theorem report_of_no_strike (kb : Keyboard) {r : Report} (strike : r.strike? = none) :
    (∃ title, (kb.report r).2 = { kb with title }) ∧
      ∀ code edge, (kb.report r).1 ≠ some (.event (.key code edge)) := by
  have commanded (code : KeyCode) : (∃ title, (kb.command code).2 = { kb with title }) ∧
      ∀ c edge, (kb.command code).1 ≠ some (.event (.key c edge)) := by
    unfold command
    split <;> exact ⟨⟨_, rfl⟩, by simp [select]⟩
  have silent : (∃ title, kb = { kb with title }) ∧
      ∀ c edge, (none : Option Command) ≠ some (.event (.key c edge)) :=
    ⟨⟨kb.title, rfl⟩, by simp⟩
  unfold report keystroke
  split
  next k =>
    split
    next quit => exact ⟨⟨kb.title, rfl⟩, by simp⟩
    next noQuit =>
      split
      next =>
        split
        next => exact commanded _
        next => exact silent
      next c notBlank equal =>
        obtain ⟨code, phase, modifiers⟩ := k
        have quits : c = 'c' ∧ modifiers.control := by
          simp only [show code = .char c from equal, Report.strike?] at strike
          split at strike
          next skipped => exact skipped.resolve_left notBlank
          next => cases strike
        exact absurd (by simp [show code = .char c from equal, quits]) noQuit
      next =>
        split
        next => exact commanded _
        next => exact silent
  next => exact silent

@[simp]
theorem reportsReleases_report (kb : Keyboard) (r : Report) :
    (kb.report r).2.reportsReleases = kb.reportsReleases := by
  cases strike : r.strike? with
  | none =>
    obtain ⟨title, same⟩ := (report_of_no_strike kb strike).1
    rw [same]
  | some stroke =>
    rw [report_of_strike kb strike, Keyboard.strike]
    split <;> rfl

@[simp]
theorem holdFrames_report (kb : Keyboard) (r : Report) :
    (kb.report r).2.holdFrames = kb.holdFrames := by
  cases strike : r.strike? with
  | none =>
    obtain ⟨title, same⟩ := (report_of_no_strike kb strike).1
    rw [same]
  | some stroke =>
    rw [report_of_strike kb strike, Keyboard.strike]
    split <;> rfl

/-- What reports ask for are their answers, without those that ask for nothing. -/
theorem reports_eq (kb : Keyboard) (rs : List Report) :
    kb.reports rs = ((kb.answers rs).filterMap id, rs.foldl (fun kb r => (kb.report r).2) kb) := by
  induction rs generalizing kb with
  | nil => rfl
  | cons r rest ih =>
    simp only [reports, answers, List.foldl_cons, ih]
    cases (kb.report r).1 <;> rfl

@[simp]
theorem reportsReleases_reports (kb : Keyboard) (rs : List Report) :
    (kb.reports rs).2.reportsReleases = kb.reportsReleases := by
  induction rs generalizing kb with
  | nil => rfl
  | cons r rest ih => simp [reports, ih]

@[simp]
theorem holdFrames_reports (kb : Keyboard) (rs : List Report) :
    (kb.reports rs).2.holdFrames = kb.holdFrames := by
  induction rs generalizing kb with
  | nil => rfl
  | cons r rest ih => simp [reports, ih]

theorem forFrame_eq (kb : Keyboard) (rs : List Report) :
    kb.forFrame rs =
      (kb.releases ++ (kb.wake.answers rs).filterMap id, (kb.wake.reports rs).2) := by
  simp [forFrame, wake, reports_eq]

/-- The commands of a frame are asked for by the keyboard after the frames before it. -/
theorem getElem?_commandsOf (kb : Keyboard) (frames : List (List Report)) (j : Nat) :
    (kb.commandsOf frames)[j]? =
      frames[j]?.map fun rs => ((kb.afterFrames (frames.take j)).forFrame rs).1 := by
  induction frames generalizing kb j with
  | nil => rfl
  | cons rs rest ih =>
    cases j with
    | zero => rfl
    | succ j => simp [commandsOf, afterFrames, ih]

end Keyboard

end HexPlayer.Terminal
