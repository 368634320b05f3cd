import HexPlayer.Proofs.Terminal.Answers
import Mathlib.Data.List.Induction

/-!
# How long a character is held

A terminal that never reports releases only says that a character was touched. The keyboard lets the
character go once `holdFrames` frames have passed since the last touch, and asks for another press
only after that. `Timed` says how many frames are left for each character after any frames; from it
`edges_iff_touched` tells in which frame each edge of each character is asked for, and where in
that frame it stands.
-/

namespace HexPlayer.Terminal

/-- Some report of frame `i` strikes the character. -/
def TouchedIn (frames : List (List Report)) (c : Char) (i : Nat) : Prop :=
  ∃ rs, frames[i]? = some rs ∧ rs.any (Report.touches c)

/-- Frame `i` touches the character and no later one does. -/
def LastTouchedIn (frames : List (List Report)) (c : Char) (i : Nat) : Prop :=
  TouchedIn frames c i ∧ ∀ k, i < k → ¬ TouchedIn frames c k

theorem TouchedIn.lt_length {frames : List (List Report)} {c : Char} {i : Nat}
    (touched : TouchedIn frames c i) : i < frames.length := by
  obtain ⟨rs, frame, -⟩ := touched
  exact (List.getElem?_eq_some_iff.mp frame).1

theorem touchedIn_concat {frames : List (List Report)} {rs : List Report} {c : Char} {i : Nat} :
    TouchedIn (frames ++ [rs]) c i ↔
      TouchedIn frames c i ∨ i = frames.length ∧ rs.any (Report.touches c) := by
  unfold TouchedIn
  rcases Nat.lt_trichotomy i frames.length with earlier | rfl | later
  · simp [List.getElem?_append_left earlier, Nat.ne_of_lt earlier]
  · simp
  · have beyond : (frames ++ [rs]).length ≤ i := by
      rw [List.length_append, List.length_singleton]
      exact later
    simp [List.getElem?_eq_none beyond, List.getElem?_eq_none (Nat.le_of_lt later),
      Nat.ne_of_gt later]

theorem touchedIn_take {frames : List (List Report)} {c : Char} {i j : Nat} :
    TouchedIn (frames.take j) c i ↔ i < j ∧ TouchedIn frames c i := by
  unfold TouchedIn
  rw [List.getElem?_take]
  by_cases before : i < j
  · simp [before]
  · simp [before]

/-- A frame touches the character if one of its reports is the first to do so. -/
theorem touchedIn_iff_findIdx? {frames : List (List Report)} {rs : List Report} {c : Char} {j : Nat}
    (frame : frames[j]? = some rs) :
    TouchedIn frames c j ↔ ∃ k, rs.findIdx? (Report.touches c) = some k := by
  simp only [TouchedIn, frame, Option.some.injEq, exists_eq_left', ← List.findIdx?_isSome,
    Option.isSome_iff_exists]

/-- A frame that touches the character is the last so far. -/
theorem lastTouchedIn_concat_of_touched {frames : List (List Report)} {rs : List Report} {c : Char}
    (now : rs.any (Report.touches c)) {i : Nat} :
    LastTouchedIn (frames ++ [rs]) c i ↔ i = frames.length := by
  unfold LastTouchedIn
  simp only [touchedIn_concat, now, and_true]
  constructor
  · intro last
    obtain ⟨before | isLast, newest⟩ := last
    · exact absurd (.inr rfl) (newest frames.length before.lt_length)
    · exact isLast
  · intro isLength
    subst isLength
    refine ⟨.inr rfl, fun k after touched => ?_⟩
    rcases touched with before | isLast
    · exact Nat.lt_asymm after before.lt_length
    · exact Nat.ne_of_gt after isLast

theorem lastTouchedIn_concat_of_untouched {frames : List (List Report)} {rs : List Report}
    {c : Char} (now : ¬ rs.any (Report.touches c)) {i : Nat} :
    LastTouchedIn (frames ++ [rs]) c i ↔ LastTouchedIn frames c i := by
  simp [LastTouchedIn, touchedIn_concat, now]

/-- A character that was touched was touched for the last time in some frame. -/
theorem exists_lastTouchedIn {frames : List (List Report)} {c : Char} {i : Nat}
    (touched : TouchedIn frames c i) : ∃ last, i ≤ last ∧ LastTouchedIn frames c last := by
  induction frames using List.reverseRecOn with
  | nil => exact absurd touched.lt_length (Nat.not_lt_zero i)
  | append_singleton frames rs ih =>
    by_cases now : rs.any (Report.touches c)
    · simp only [lastTouchedIn_concat_of_touched now, exists_eq_right]
      have inRange := touched.lt_length
      rw [List.length_append, List.length_singleton] at inRange
      exact Nat.le_of_lt_succ inRange
    · simp only [lastTouchedIn_concat_of_untouched now]
      rw [touchedIn_concat] at touched
      exact ih (touched.resolve_right fun isNow => now isNow.2)

namespace Keyboard

/-- Where releases are not reported, a touch holds the character anew, and nothing else does. -/
theorem left?_report {kb : Keyboard} (legacy : kb.reportsReleases = false) (r : Report)
    (c : Char) : (kb.report r).2.holds.left? c =
      if r.touches c then some (max kb.holdFrames 1) else kb.holds.left? c := by
  cases strike : r.strike? with
  | none =>
    obtain ⟨title, same⟩ := (report_of_no_strike kb strike).1
    rw [same, touches_of_no_strike strike]
    rfl
  | some stroke =>
    obtain ⟨struck, phase⟩ := stroke
    rw [report_of_strike kb strike, touches_of_strike strike]
    apply Option.ext
    intro frames
    simp only [Keyboard.strike, legacy, Bool.false_eq_true, if_false,
      HoldTable.left?_insert_eq_some_iff, beq_iff_eq, eq_comm (a := c)]
    split
    · rw [Option.some.injEq, eq_comm]
    · rfl

theorem left?_reports {kb : Keyboard} (legacy : kb.reportsReleases = false) (rs : List Report)
    (c : Char) : (kb.reports rs).2.holds.left? c =
      if rs.any (Report.touches c) then some (max kb.holdFrames 1) else kb.holds.left? c := by
  rw [reports_eq]
  induction rs generalizing kb with
  | nil => rfl
  | cons r rest ih =>
    have still : (kb.report r).2.reportsReleases = false := by simp [legacy]
    simp only [List.foldl_cons, List.any_cons, ih still, left?_report legacy, holdFrames_report]
    by_cases now : r.touches c
    · simp [now]
    · simp [now]

/-- An edge is asked for by the first report that touches a character that is not held. -/
theorem getElem?_answers {kb : Keyboard} (legacy : kb.reportsReleases = false) {rs : List Report}
    (unreleased : ∀ r ∈ rs, ∀ c, r.strike? ≠ some (c, .release)) {k : Nat} {c : Char}
    {edge : Edge} :
    (kb.answers rs)[k]? = some (some (.event (.key c edge))) ↔
      edge = .pressed ∧ kb.holds.left? c = none ∧ rs.findIdx? (Report.touches c) = some k := by
  induction rs generalizing kb k with
  | nil => simp [answers]
  | cons r rest ih =>
    have still : (kb.report r).2.reportsReleases = false := by simp [legacy]
    have later := ih still (k := k - 1) fun r member => unreleased r (List.mem_cons_of_mem _ member)
    rw [left?_report legacy] at later
    rw [answers, List.findIdx?_cons]
    -- place zero is the answer to this report, and all other places are about the keyboard after it
    cases strike : r.strike? with
    | none =>
      have noEdge := (report_of_no_strike kb strike).2 c edge
      rw [touches_of_no_strike strike] at later ⊢
      cases k with
      | zero => simp [noEdge]
      | succ k => simpa using later
    | some stroke =>
      obtain ⟨struck, phase⟩ := stroke
      have goesDown : edgeOf phase = .pressed := by
        cases phase with
        | press => rfl
        | again => rfl
        | release => exact absurd strike (unreleased r List.mem_cons_self struck)
      have asked : (kb.report r).1 = if (kb.holds.left? struck).isSome then none
          else some (.event (.key struck .pressed)) := by
        rw [report_of_strike kb strike]
        simp [Keyboard.strike, legacy, goesDown]
      rw [touches_of_strike strike] at later ⊢
      by_cases isStruck : struck = c
      · subst isStruck
        cases k with
        | zero => cases held : kb.holds.left? struck <;> simp [asked, held, eq_comm]
        | succ k => simpa using later
      · cases k with
        | zero => simp [asked, isStruck]
        | succ k => simpa [isStruck] using later

end Keyboard

/-- The keyboard of a terminal that reports no releases, after frames: a character that was touched
`span` frames ago or later is held, with one frame less for each frame since. -/
structure Timed (span : Nat) (frames : List (List Report)) (kb : Keyboard) : Prop where
  legacy : kb.reportsReleases = false
  span_eq : max kb.holdFrames 1 = span
  left : ∀ c n, kb.holds.left? c = some n ↔
    0 < n ∧ ∃ last, LastTouchedIn frames c last ∧ n + frames.length = last + span + 1

namespace Timed

open Keyboard

variable {span : Nat} {frames : List (List Report)} {kb : Keyboard}

theorem fresh (holdFrames : Nat) (title : Option String) :
    Timed (max holdFrames 1) [] (Keyboard.fresh false holdFrames title) where
  legacy := rfl
  span_eq := rfl
  left c n := by
    constructor
    · intro held
      cases held
    · intro touched
      obtain ⟨-, last, ⟨touched, -⟩, -⟩ := touched
      exact absurd touched.lt_length (Nat.not_lt_zero last)

/-- A character is held over the start of a frame if it was touched less than `span` frames ago. -/
theorem wake_left?_eq_none_iff (timed : Timed span frames kb) (c : Char) :
    kb.wake.holds.left? c = none ↔
      ¬ ∃ i, frames.length < i + span ∧ TouchedIn frames c i := by
  rw [Option.eq_none_iff_forall_ne_some]
  constructor
  · intro none recently
    obtain ⟨i, recent, touched⟩ := recently
    obtain ⟨last, after, lastTouched⟩ := exists_lastTouchedIn touched
    apply none (last + span - frames.length)
    rw [wake, HoldTable.left?_countdown_eq_some_iff, timed.left]
    exact ⟨by omega, by omega, last, lastTouched, by omega⟩
  · intro notRecent n held
    rw [wake, HoldTable.left?_countdown_eq_some_iff, timed.left] at held
    obtain ⟨positive, -, last, lastTouched, remaining⟩ := held
    exact notRecent ⟨last, by omega, lastTouched.1⟩

/-- A character is let go `span` frames after it was touched for the last time. -/
theorem mem_due_iff (timed : Timed span frames kb) (c : Char) :
    c ∈ kb.holds.due ↔ (∃ i, i + span = frames.length ∧ TouchedIn frames c i) ∧
      ¬ ∃ i, frames.length < i + span ∧ TouchedIn frames c i := by
  simp only [HoldTable.mem_due_iff, timed.left]
  constructor
  · intro due
    obtain ⟨n, ⟨positive, last, ⟨touched, newest⟩, remaining⟩, atMostOne⟩ := due
    refine ⟨⟨last, by omega, touched⟩, fun recently => ?_⟩
    obtain ⟨i, recent, touchedLater⟩ := recently
    exact newest i (by omega) touchedLater
  · intro ended
    obtain ⟨⟨i, ago, touched⟩, notRecent⟩ := ended
    obtain ⟨last, after, lastTouched⟩ := exists_lastTouchedIn touched
    have notLater : ¬ frames.length < last + span := fun recent =>
      notRecent ⟨last, recent, lastTouched.1⟩
    exact ⟨1, ⟨Nat.one_pos, last, lastTouched, by omega⟩, Nat.le_refl 1⟩

/-- A character goes down with the first report that touches it, if it is not held any more. -/
theorem getElem?_answers (timed : Timed span frames kb) {rs : List Report}
    (unreleased : ∀ r ∈ rs, ∀ c, r.strike? ≠ some (c, .release)) (k : Nat) (c : Char)
    (edge : Edge) :
    (kb.wake.answers rs)[k]? = some (some (.event (.key c edge))) ↔
      edge = .pressed ∧ (¬ ∃ i, frames.length < i + span ∧ TouchedIn frames c i) ∧
        rs.findIdx? (Report.touches c) = some k := by
  have legacy : kb.wake.reportsReleases = false := timed.legacy
  rw [← timed.wake_left?_eq_none_iff]
  exact Keyboard.getElem?_answers legacy unreleased

/-- No edge comes twice in a frame. -/
theorem nodup_edges_forFrame (timed : Timed span frames kb) {rs : List Report}
    (unreleased : ∀ r ∈ rs, ∀ c, r.strike? ≠ some (c, .release)) :
    ((kb.forFrame rs).1.filterMap Command.edge?).Nodup := by
  have isAnswer := timed.getElem?_answers unreleased
  rw [forFrame_eq, List.filterMap_append, releases, edges_releases, List.nodup_append]
  refine ⟨?_, nodup_edges fun i k c edge first second => ?_, ?_⟩
  · refine List.pairwise_map.mpr (kb.holds.ascending_due.imp fun less same => ?_)
    rw [(Prod.mk.inj same).1] at less
    exact Nat.lt_irrefl _ less
  · have here := ((isAnswer i c edge).mp first).2.2
    have there := ((isAnswer k c edge).mp second).2.2
    exact Option.some.inj (here.symm.trans there)
  · intro released isRelease pressed isAnswerEdge same
    obtain ⟨c, -, rfl⟩ := List.mem_map.mp isRelease
    rw [← same] at isAnswerEdge
    obtain ⟨k, answer⟩ := mem_edges_iff.mp isAnswerEdge
    cases ((isAnswer k c .released).mp answer).1

/-- A frame of reports keeps the time. -/
theorem forFrame (timed : Timed span frames kb) (rs : List Report) :
    Timed span (frames ++ [rs]) (kb.forFrame rs).2 := by
  rw [forFrame_eq]
  refine ⟨?_, ?_, fun c n => ?_⟩
  · rw [reportsReleases_reports]
    exact timed.legacy
  · rw [holdFrames_reports]
    exact timed.span_eq
  · have positive : 0 < span := timed.span_eq ▸ Nat.le_max_right ..
    have legacy : kb.wake.reportsReleases = false := timed.legacy
    rw [left?_reports legacy, List.length_append, List.length_singleton]
    -- a touch starts over; else the frame that goes by is the one that the countdown takes
    by_cases now : rs.any (Report.touches c)
    · have spanned : max kb.wake.holdFrames 1 = span := timed.span_eq
      rw [if_pos now, spanned]
      simp only [lastTouchedIn_concat_of_touched now, exists_eq_left, Option.some.injEq]
      omega
    · rw [if_neg now, wake, HoldTable.left?_countdown_eq_some_iff, timed.left]
      simp only [lastTouchedIn_concat_of_untouched now]
      constructor
      · intro held
        obtain ⟨left, -, last, lastTouched, remaining⟩ := held
        exact ⟨left, last, lastTouched, by omega⟩
      · intro touched
        obtain ⟨left, last, lastTouched, remaining⟩ := touched
        exact ⟨left, Nat.succ_pos n, last, lastTouched, by omega⟩

/-- Frames of reports keep the time. -/
theorem afterFrames (timed : Timed span frames kb) (later : List (List Report)) :
    Timed span (frames ++ later) (kb.afterFrames later) := by
  induction later generalizing frames kb with
  | nil => rwa [List.append_nil]
  | cons rs rest ih =>
    have next := ih (timed.forFrame rs)
    rwa [List.append_assoc, List.singleton_append] at next

end Timed

/-- The edges of all characters on a terminal that reports no releases, for any frames of reports.
Frame `j` lets a character go if it was touched `span` frames before and not since, and the first
report of the frame that touches it presses it if it was not touched in fewer than `span` frames;
there are no other edges, and none comes twice. -/
theorem edges_iff_touched (holdFrames : Nat) (title : Option String) (frames : List (List Report))
    (unreleased : ∀ rs ∈ frames, ∀ r ∈ rs, ∀ c, r.strike? ≠ some (c, .release)) {j : Nat}
    {rs : List Report} (frame : frames[j]? = some rs) :
    let span := max holdFrames 1
    let kb := Keyboard.fresh false holdFrames title
    let due := (kb.afterFrames (frames.take j)).holds.due
    let answers := (kb.afterFrames (frames.take j)).wake.answers rs
    let recent := fun c => ∃ i, i < j ∧ j < i + span ∧ TouchedIn frames c i
    ∃ commands, (kb.commandsOf frames)[j]? = some commands ∧
      (∀ c, (c, .released) ∈ commands.filterMap Command.edge? ↔
        (∃ i, i + span = j ∧ TouchedIn frames c i) ∧ ¬ recent c) ∧
      (∀ c, (c, .pressed) ∈ commands.filterMap Command.edge? ↔
        TouchedIn frames c j ∧ ¬ recent c) ∧
      (commands.filterMap Command.edge?).Nodup ∧
      commands = due.map (fun c => .event (.key c .released)) ++ answers.filterMap id ∧
      due.Pairwise (· < ·) ∧
      ∀ k c edge, answers[k]? = some (some (.event (.key c edge))) ↔
        edge = .pressed ∧ ¬ recent c ∧ rs.findIdx? (Report.touches c) = some k := by
  intro span kb due answers recent
  have inRange : j < frames.length := (List.getElem?_eq_some_iff.mp frame).1
  have length : (frames.take j).length = j := by
    rw [List.length_take]
    exact Nat.min_eq_left (Nat.le_of_lt inRange)
  have timed : Timed span (frames.take j) (kb.afterFrames (frames.take j)) :=
    (Timed.fresh holdFrames title).afterFrames _
  have isRecent (c : Char) : (∃ i, (frames.take j).length < i + span ∧
      TouchedIn (frames.take j) c i) ↔ recent c := by
    simp only [recent, length, touchedIn_take, and_left_comm]
  have isDue (c : Char) : c ∈ due ↔ (∃ i, i + span = j ∧ TouchedIn frames c i) ∧ ¬ recent c := by
    have spanned : 0 < span := Nat.lt_of_lt_of_le Nat.one_pos (Nat.le_max_right holdFrames 1)
    rw [timed.mem_due_iff, isRecent, length]
    simp only [touchedIn_take]
    refine and_congr_left fun _ => exists_congr fun i => and_congr_right fun ago => ?_
    exact and_iff_right (by omega)
  have downOnly := unreleased rs (List.mem_of_getElem? frame)
  have isAnswer (k : Nat) (c : Char) (edge : Edge) :
      answers[k]? = some (some (.event (.key c edge))) ↔
        edge = .pressed ∧ ¬ recent c ∧ rs.findIdx? (Report.touches c) = some k := by
    rw [← isRecent]
    exact timed.getElem?_answers downOnly k c edge
  have told : ((kb.afterFrames (frames.take j)).forFrame rs).1 =
      due.map (fun c => .event (.key c .released)) ++ answers.filterMap id := by
    rw [Keyboard.forFrame_eq]
    rfl
  have distinct := timed.nodup_edges_forFrame downOnly
  rw [told] at distinct
  refine ⟨_, ?_, fun c => ?_, fun c => ?_, distinct, rfl, HoldTable.ascending_due _, isAnswer⟩
  · rw [Keyboard.getElem?_commandsOf, frame, Option.map_some, told]
  · rw [List.filterMap_append, List.mem_append, edges_releases, mem_edges_iff]
    simp [isAnswer, isDue]
  · rw [List.filterMap_append, List.mem_append, edges_releases, mem_edges_iff]
    simp [isAnswer, touchedIn_iff_findIdx? frame, and_comm]

/-- The letter `a` in every other frame, in either case. -/
def everyOther : List (List Report) :=
  [[.key { code := .char 'a' }], [], [.focusLost, .key { code := .char 'A', phase := .again }], []]

/-- A character that is touched again when its time is over comes up and goes down in one frame. -/
theorem edges_everyOther :
    (∀ rs ∈ everyOther, ∀ r ∈ rs, ∀ c, r.strike? ≠ some (c, .release)) ∧
      ((Keyboard.fresh false 2 none).commandsOf everyOther)[2]? =
        some [.event (.key 'a' .released), .event (.key 'a' .pressed)] ∧
      TouchedIn everyOther 'a' 0 := by
  have unreleased : ∀ rs ∈ everyOther, ∀ r ∈ rs, ∀ c, r.strike? ≠ some (c, .release) := by
    simp [everyOther, Report.strike?]
  obtain ⟨commands, asked, released, -⟩ :=
    edges_iff_touched 2 none everyOther unreleased (j := 2) rfl
  have shown : commands = [.event (.key 'a' .released), .event (.key 'a' .pressed)] :=
    Option.some.inj (asked.symm.trans rfl)
  rw [shown] at asked released
  obtain ⟨i, ago, touched⟩ := ((released 'a').mp (by simp [Command.edge?])).1
  obtain rfl : i = 0 := by simpa using ago
  exact ⟨unreleased, asked, touched⟩

end HexPlayer.Terminal
