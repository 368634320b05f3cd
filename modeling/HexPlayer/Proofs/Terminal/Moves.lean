import HexPlayer.Proofs.Session.Selections
import HexPlayer.Proofs.Terminal.Quitting
import Mathlib.Data.List.TakeWhile

/-!
# Moves in the catalog

The up and down keys move in the catalog, each by one place from the title that was selected last.
All moves of a frame are made before the host hears of the first, so that the titles it hears are
the course of those moves. Whatever else it hears of a frame selects nothing.
-/

namespace HexPlayer

/-- The titles that moves lead to one after the other. -/
def Catalog.course (start : Option String) : List Int → List String
  | [] => []
  | step :: steps => move start step :: course (some (move start step)) steps

/-- A position in the catalog, counted round from any number. -/
def Catalog.index (position : Int) : Nat := (position % titles.length).toNat

theorem Catalog.index_lt (position : Int) : index position < titles.length := by
  have positive : (0 : Int) < titles.length := by decide
  have small := Int.emod_lt_of_pos position positive
  unfold index
  omega

/-- The entry of a position is the title that stands there. -/
theorem Catalog.getElem?_titles (position : Int) :
    titles[index position]? = some (entry position) := by
  have inRange := index_lt position
  rw [entry, ← index, List.getD_eq_getElem?_getD, List.getElem?_eq_getElem inRange,
    Option.getD_some]

theorem Catalog.isListed_entry (position : Int) : isListed (entry position) = true := by
  rw [isListed, List.contains_iff_mem]
  exact List.mem_of_getElem? (getElem?_titles position)

/-- Every move leads to a title on offer. -/
theorem Catalog.isListed_move (title : Option String) (step : Int) :
    isListed (move title step) = true := by
  unfold move
  split <;> exact isListed_entry _

namespace Terminal

open Session (Event)

/-- How far the report moves in the catalog, if it is a move. -/
def Report.step? : Report → Option Int
  | .key ⟨.up, .press, _⟩ => some (-1)
  | .key ⟨.down, .press, _⟩ => some 1
  | _ => none

/-- A report moves by one place. -/
theorem Report.step?_eq_some {r : Report} {step : Int} (moves : r.step? = some step) :
    step = -1 ∨ step = 1 := by
  unfold step? at moves
  split at moves
  next => exact .inl (Option.some.inj moves).symm
  next => exact .inr (Option.some.inj moves).symm
  next => cases moves

/-- If no report quits, all of them come before a quit. -/
theorem beforeQuit_of_goesOn {rs : List Report} (goesOn : rs.any Report.quits = false) :
    beforeQuit rs = rs := by
  simpa [beforeQuit, List.takeWhile_eq_self_iff] using goesOn

/-- The title that a command selects, if it selects one. -/
def Command.title? : Command → Option String
  | .event asked => asked.title?
  | .quit => none

/-- The command quits or has a plain event. -/
def Command.isPlain : Command → Bool
  | .event asked => asked.isPlain
  | .quit => true

namespace Keyboard

/-- A move selects the title that it leads to. -/
theorem report_of_step (kb : Keyboard) {r : Report} {step : Int} (moves : r.step? = some step) :
    kb.report r = kb.select step := by
  unfold Report.step? at moves
  split at moves
  next => exact Option.some.inj moves ▸ rfl
  next => exact Option.some.inj moves ▸ rfl
  next => cases moves

/-- A report that is no move leaves the title alone and selects none. -/
theorem report_of_no_step (kb : Keyboard) {r : Report} (still : r.step? = none) :
    (kb.report r).2.title = kb.title ∧
      ∀ command ∈ (kb.report r).1, command.isPlain = true ∧ command.title? = none := by
  have struck (c : Char) (phase : Phase) : (kb.strike c phase).2.title = kb.title ∧
      ∀ command ∈ (kb.strike c phase).1, command.isPlain = true ∧ command.title? = none := by
    constructor
    · unfold strike
      dsimp only
      split <;> rfl
    · rcases strike_fst kb c phase with silent | edge
      · simp [silent]
      · simp [edge, Command.isPlain, Command.title?, Event.isPlain, Event.title?]
  have commanded (code : KeyCode) (other : code ≠ .up ∧ code ≠ .down) :
      (kb.command code).2.title = kb.title ∧
        ∀ command ∈ (kb.command code).1, command.isPlain = true ∧ command.title? = none := by
    unfold command
    split <;> simp_all [Command.isPlain, Command.title?, Event.isPlain, Event.title?]
  cases r with
  | key stroke =>
    obtain ⟨code, phase, modifiers⟩ := stroke
    simp only [report, keystroke]
    split
    next => simp [Command.isPlain, Command.title?]
    next =>
      split
      next =>
        split
        next => exact commanded _ (by simp)
        next => simp
      next c _ _ => exact struck _ _
      next =>
        split
        next isPress =>
          refine commanded _ ⟨?_, ?_⟩ <;> rintro rfl <;> simp_all [Report.step?]
        next => simp
  | _ => simp [report]

/-- All that reports ask for is plain. -/
theorem isPlain_reports (kb : Keyboard) (rs : List Report) :
    ∀ command ∈ (kb.reports rs).1, command.isPlain = true := by
  induction rs generalizing kb with
  | nil => nofun
  | cons r rest ih =>
    have first : ∀ command ∈ (kb.report r).1, command.isPlain = true := by
      cases moves : r.step? with
      | none => exact fun command asked => ((kb.report_of_no_step moves).2 command asked).1
      | some step =>
        rw [report_of_step kb moves]
        simp [select, Command.isPlain, Event.isPlain, Catalog.isListed_move]
    intro command asked
    rw [reports, List.mem_append, Option.mem_toList] at asked
    exact asked.elim (first command) (ih _ command)

/-- The titles that reports select are the course of their moves, and the last of them is the one
that the keyboard goes on from. -/
theorem titles_reports (kb : Keyboard) (rs : List Report) :
    (kb.reports rs).1.filterMap Command.title? =
        Catalog.course kb.title (rs.filterMap Report.step?) ∧
      (kb.reports rs).2.title =
        (Catalog.course kb.title (rs.filterMap Report.step?)).getLast?.or kb.title := by
  induction rs generalizing kb with
  | nil => exact ⟨rfl, rfl⟩
  | cons r rest ih =>
    obtain ⟨titles, last⟩ := ih (kb.report r).2
    rw [reports, List.filterMap_append, titles]
    cases moves : r.step? with
    | none =>
      obtain ⟨title, asked⟩ := kb.report_of_no_step moves
      have none : (kb.report r).1.toList.filterMap Command.title? = [] := by
        simpa [List.filterMap_eq_nil_iff] using fun command isAsked => (asked command isAsked).2
      rw [List.filterMap_cons_none moves, none, ← title]
      exact ⟨rfl, last⟩
    | some step =>
      have moved : (kb.select step).2.title = some (Catalog.move kb.title step) := rfl
      rw [report_of_step kb moves, moved] at last ⊢
      rw [List.filterMap_cons_some moves, Catalog.course, List.getLast?_cons]
      refine ⟨rfl, last.trans ?_⟩
      cases (Catalog.course (some (Catalog.move kb.title step))
        (rest.filterMap Report.step?)).getLast? <;> rfl

/-- A release selects nothing. -/
theorem titles_releases (kb : Keyboard) : kb.releases.filterMap Command.title? = [] := by
  simp [releases, Command.title?, Event.title?]

/-- The titles that the host hears of a frame are the course of the moves before it quits. -/
theorem titles_heard (kb : Keyboard) (rs : List Report) :
    (heard (kb.forFrame rs).1).filterMap Event.title? =
      Catalog.course kb.title ((beforeQuit rs).filterMap Report.step?) := by
  have told : ((heard (kb.forFrame rs).1).map Command.event).filterMap Command.title? =
      (heard (kb.forFrame rs).1).filterMap Event.title? := by
    rw [List.filterMap_map]
    rfl
  rw [← told, map_event_heard_forFrame, List.filterMap_append, titles_releases,
    List.nil_append]
  exact (titles_reports kb.wake _).1

/-- A frame that does not quit leaves the keyboard with the last title that the host hears. -/
theorem title_forFrame (kb : Keyboard) {rs : List Report} (goesOn : rs.any Report.quits = false) :
    (kb.forFrame rs).2.title =
      ((heard (kb.forFrame rs).1).filterMap Event.title?).getLast?.or kb.title := by
  rw [titles_heard, beforeQuit_of_goesOn goesOn]
  exact (titles_reports kb.wake rs).2

/-- All that the host hears of a frame is plain. -/
theorem isPlain_of_mem_heard (kb : Keyboard) (rs : List Report) {event : Event}
    (hears : event ∈ heard (kb.forFrame rs).1) : event.isPlain = true := by
  have told := List.mem_map_of_mem (f := Command.event) hears
  rw [map_event_heard_forFrame, List.mem_append] at told
  rcases told with release | asked
  · obtain ⟨c, -, rfl⟩ : ∃ c ∈ kb.holds.due, .key c .released = event := by
      simpa [releases] using release
    rfl
  · exact isPlain_reports kb.wake _ _ asked

end Keyboard

end Terminal

end HexPlayer
