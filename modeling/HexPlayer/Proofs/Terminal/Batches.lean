import HexPlayer.Proofs.Terminal.Moves

/-!
# Reports in batches

Where a terminal reports releases, nothing is ever held, and a frame asks for what its reports ask
for. All that a report leaves behind is the title that moves count from, and a frame hands it on to
the next (`Eager.frames`). So it makes no difference where a list of reports is cut into frames, and
every command has a report of its own.
-/

namespace HexPlayer.Terminal

namespace Keyboard

section Reports

variable (kb : Keyboard)

/-- Every report has one answer. -/
theorem length_answers (rs : List Report) : (kb.answers rs).length = rs.length := by
  induction rs generalizing kb with
  | nil => rfl
  | cons r rest ih => rw [answers, List.length_cons, List.length_cons, ih]

/-- Reports go on from the keyboard that those before them leave. -/
theorem reports_append (first second : List Report) :
    kb.reports (first ++ second) =
      ((kb.reports first).1 ++ ((kb.reports first).2.reports second).1,
        ((kb.reports first).2.reports second).2) := by
  induction first generalizing kb with
  | nil => rfl
  | cons r rest ih => simp [reports, ih]

end Reports

/-- The terminal reports releases and nothing is held. -/
structure Eager (kb : Keyboard) : Prop where
  reportsReleases : kb.reportsReleases = true
  holds : kb.holds = .empty

namespace Eager

theorem fresh (holdFrames : Nat) (title : Option String) :
    Eager (fresh true holdFrames title) := ⟨rfl, rfl⟩

variable {kb : Keyboard} (eager : Eager kb)
include eager

/-- The title has no part in it. -/
theorem withTitle (title : Option String) : Eager { kb with title } :=
  ⟨eager.reportsReleases, eager.holds⟩

/-- A stroke is passed on at once. -/
theorem strike (c : Char) (phase : Phase) :
    kb.strike c phase = (some (.event (.key c (edgeOf phase))), kb) := by
  rw [Keyboard.strike, if_pos eager.reportsReleases]

/-- A report sets the title at most. -/
theorem report (r : Report) : ∃ title, (kb.report r).2 = { kb with title } := by
  cases strike : r.strike? with
  | none => exact (report_of_no_strike kb strike).1
  | some stroke => exact ⟨kb.title, by rw [report_of_strike kb strike, eager.strike]⟩

/-- Reports leave the last title that they move to, and change nothing else. -/
theorem reports (rs : List Report) :
    (kb.reports rs).2 =
      { kb with title :=
          (Catalog.course kb.title (rs.filterMap Report.step?)).getLast?.or kb.title } := by
  have titled : ∃ title, (kb.reports rs).2 = { kb with title } := by
    induction rs generalizing kb with
    | nil => exact ⟨kb.title, rfl⟩
    | cons r rest ih =>
      obtain ⟨title, first⟩ := eager.report r
      obtain ⟨last, later⟩ := ih (eager.withTitle title)
      exact ⟨last, by simp only [Keyboard.reports, first, later]⟩
  obtain ⟨title, same⟩ := titled
  have last := (titles_reports kb rs).2
  rw [same] at last ⊢
  rw [← last]

/-- Nothing is released, as nothing is held. -/
theorem releases : kb.releases = [] := by
  rw [Keyboard.releases, eager.holds]
  rfl

/-- Nothing comes before the reports of a frame. -/
theorem forFrame (rs : List Report) : kb.forFrame rs = kb.reports rs := by
  have same : { kb with holds := kb.holds.countdown } = kb := by
    obtain ⟨reportsReleases, holdFrames, holds, title⟩ := kb
    obtain rfl : holds = .empty := eager.holds
    rfl
  simp [Keyboard.forFrame, eager.releases, same]

/-- Frames ask for what their reports ask for, one after the other. -/
theorem frames (frames : List (List Report)) :
    (kb.commandsOf frames).flatten = (kb.reports frames.flatten).1 ∧
      kb.afterFrames frames = (kb.reports frames.flatten).2 := by
  induction frames generalizing kb with
  | nil => exact ⟨rfl, rfl⟩
  | cons rs rest ih =>
    have still : Eager (kb.reports rs).2 := by
      rw [eager.reports]
      exact eager.withTitle _
    obtain ⟨asked, last⟩ := ih still
    rw [List.flatten_cons, reports_append, commandsOf, eager.forFrame, List.flatten_cons, asked,
      ← last]
    exact ⟨rfl, by rw [afterFrames, List.foldl_cons, eager.forFrame]; rfl⟩

/-- Frames leave the keyboard as it is but for its title. -/
theorem afterFrames (frames : List (List Report)) : Eager (kb.afterFrames frames) := by
  rw [(eager.frames frames).2, eager.reports]
  exact eager.withTitle _

/-- A report asks for the edge of its stroke, if it has one, and for no other. -/
theorem edge?_report (r : Report) :
    (kb.report r).1.bind Command.edge? =
      r.strike?.map fun stroke => (stroke.1, edgeOf stroke.2) := by
  cases strike : r.strike? with
  | some stroke =>
    rw [report_of_strike kb strike, eager.strike]
    rfl
  | none =>
    obtain ⟨-, noEdge⟩ := report_of_no_strike kb strike
    rw [Option.map_none, Option.bind_eq_none_iff]
    intro command asked
    refine Option.eq_none_iff_forall_ne_some.mpr fun stroke isEdge => ?_
    exact noEdge stroke.1 stroke.2 (asked.trans (congrArg some (edge?_eq_some_iff.mp isEdge)))

/-- Each report asks for the edge of its stroke. -/
theorem edges_answers (rs : List Report) :
    (kb.answers rs).map (·.bind Command.edge?) =
      rs.map fun r => r.strike?.map fun stroke => (stroke.1, edgeOf stroke.2) := by
  induction rs generalizing kb with
  | nil => rfl
  | cons r rest ih =>
    obtain ⟨title, same⟩ := eager.report r
    have later := ih (same ▸ eager.withTitle title : Eager (kb.report r).2)
    rw [answers, List.map_cons, List.map_cons, eager.edge?_report, later]

/-- An answer is an edge exactly if its report tells of it. -/
theorem getElem?_answers_eq_edge_iff (rs : List Report) (k : Nat) (code : Char) (edge : Edge) :
    (kb.answers rs)[k]? = some (some (.event (.key code edge))) ↔
      ∃ c phase modifiers, rs[k]? = some (.key ⟨.char c, phase, modifiers⟩) ∧ c ≠ ' ' ∧
        ¬ (c = 'c' ∧ modifiers.control = true) ∧ code = c.toLower ∧ edge = edgeOf phase := by
  have isEdge (answer : Option (Option Command)) :
      answer = some (some (.event (.key code edge))) ↔
        answer.map (·.bind Command.edge?) = some (some (code, edge)) := by
    rcases answer with _ | _ | command <;> simp [edge?_eq_some_iff]
  have told := congrArg (fun edges => edges[k]?) (eager.edges_answers rs)
  simp only [List.getElem?_map] at told
  rw [isEdge, told]
  simp only [Option.map_eq_some_iff, Prod.exists, Prod.mk.injEq]
  constructor
  · rintro ⟨r, isReport, c, phase, strike, rfl, rfl⟩
    obtain ⟨d, modifiers, rfl, notBlank, notInterrupt, rfl⟩ := strike?_eq_some_iff.mp strike
    exact ⟨d, phase, modifiers, isReport, notBlank, notInterrupt, rfl, rfl⟩
  · rintro ⟨d, phase, modifiers, isReport, notBlank, notInterrupt, rfl, rfl⟩
    exact ⟨_, isReport, _, phase, strike?_eq_some_iff.mpr
      ⟨d, modifiers, rfl, notBlank, notInterrupt, rfl⟩, rfl, rfl⟩

end Eager

/-- A keyboard of a terminal that reports releases is asked frame by frame. Where the reports are
cut into frames makes no difference to what they ask for and to the keyboard afterwards, which has
another title at most. Nothing is ever held or released, every report has one answer, and an answer
is an edge exactly if its report is about a character, other than the blank and the interrupt. -/
theorem batches_do_not_matter (holdFrames : Nat) (title : Option String)
    (earlier frames : List (List Report)) :
    let kb := (fresh true holdFrames title).afterFrames earlier
    let rs := frames.flatten
    let asked := (kb.commandsOf frames).flatten
    asked = (kb.answers rs).filterMap id ∧
    (∀ other : List (List Report), other.flatten = rs →
      (kb.commandsOf other).flatten = asked ∧ kb.afterFrames other = kb.afterFrames frames) ∧
    kb.afterFrames frames =
      { kb with title :=
          (Catalog.course kb.title (rs.filterMap Report.step?)).getLast?.or kb.title } ∧
    (∀ j, (kb.afterFrames (frames.take j)).holds = .empty ∧
      (kb.afterFrames (frames.take j)).releases = []) ∧
    (kb.answers rs).length = rs.length ∧
    ∀ (k : Nat) (code : Char) (edge : Edge),
      (kb.answers rs)[k]? = some (some (.event (.key code edge))) ↔
        ∃ c phase modifiers, rs[k]? = some (.key ⟨.char c, phase, modifiers⟩) ∧ c ≠ ' ' ∧
          ¬ (c = 'c' ∧ modifiers.control = true) ∧ code = c.toLower ∧ edge = edgeOf phase := by
  intro kb rs asked
  have eager : Eager kb := (Eager.fresh holdFrames title).afterFrames earlier
  obtain ⟨commands, last⟩ := eager.frames frames
  refine ⟨?_, fun other same => ?_, ?_, fun j => ?_, kb.length_answers rs,
    eager.getElem?_answers_eq_edge_iff rs⟩
  · exact commands.trans (congrArg Prod.fst (kb.reports_eq rs))
  · obtain ⟨otherCommands, otherLast⟩ := eager.frames other
    rw [same] at otherCommands otherLast
    exact ⟨otherCommands.trans commands.symm, otherLast.trans last.symm⟩
  · exact last.trans (eager.reports rs)
  · have still := eager.afterFrames (frames.take j)
    exact ⟨still.holds, still.releases⟩

/-- A key goes down, is repeated and comes up while the keyboard moves in the catalog. -/
theorem batches_of_repeated_key :
    let kb := (fresh true 6 (some "PONG")).afterFrames []
    let down : Report := .key ⟨.char 'W', .press, {}⟩
    let again : Report := .key ⟨.char 'w', .again, {}⟩
    let up : Report := .key ⟨.char 'w', .release, {}⟩
    let next : Report := .key ⟨.down, .press, {}⟩
    let cut := [[down], [], [again, next], [up]]
    let whole := [[down, again, next, up]]
    cut.flatten = whole.flatten ∧
      (kb.commandsOf cut).flatten = (kb.commandsOf whole).flatten ∧
      (kb.commandsOf cut).flatten.filterMap Command.edge? =
        [('w', .pressed), ('w', .pressed), ('w', .released)] ∧
      kb.afterFrames cut = kb.afterFrames whole := by
  intro kb down again up next cut whole
  obtain ⟨-, same, -⟩ := batches_do_not_matter 6 (some "PONG") [] whole
  obtain ⟨commands, last⟩ := same cut rfl
  exact ⟨rfl, commands, by decide +kernel, last⟩

end Keyboard

end HexPlayer.Terminal
