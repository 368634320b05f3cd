import HexPlayer.Proofs.Terminal.Alternation
import HexPlayer.Proofs.Terminal.Quitting
import Mathlib

/-!
# Touches and holds

Frames in which every report presses or repeats a character ask the host for nothing but edges, all
of them of characters in ASCII lower case. On a terminal that reports no releases each touch renews
the hold of its character, so that a hold is a chain of frames with gaps below `span`. From the
first frame of the chain to `span` frames after the last one the character is recent, and no longer.
-/

namespace HexPlayer.Terminal

open Session (Event)

/-- The report is about a character and not its release. -/
def Report.IsTouch (r : Report) : Prop :=
  ∃ c phase, r.strike? = some (c, phase) ∧ phase ≠ .release

/-- Frame `b` touches the character in fewer than `span` frames after frame `a`. -/
def Continues (span : Nat) (frames : List (List Report)) (c : Char) (a b : Nat) : Prop :=
  a < b ∧ b < a + span ∧ TouchedIn frames c b

/-- A hold that begins in frame `i` is renewed for the last time in frame `m`. -/
structure HoldEnds (span : Nat) (frames : List (List Report)) (c : Char) (i m : Nat) : Prop where
  chain : Relation.ReflTransGen (Continues span frames c) i m
  last : ∀ b, ¬ Continues span frames c m b

section Chains

variable {span : Nat} {frames : List (List Report)} {c : Char} {i m : Nat}

theorem le_of_chain (chain : Relation.ReflTransGen (Continues span frames c) i m) : i ≤ m := by
  induction chain with
  | refl => exact Nat.le_refl i
  | tail _ continues ih => exact Nat.le_trans ih (Nat.le_of_lt continues.1)

theorem touchedIn_of_chain (touched : TouchedIn frames c i)
    (chain : Relation.ReflTransGen (Continues span frames c) i m) : TouchedIn frames c m := by
  induction chain with
  | refl => exact touched
  | tail _ continues _ => exact continues.2.2

/-- Every hold ends, since the frames do. -/
theorem exists_holdEnds (span : Nat) (frames : List (List Report)) (c : Char) (i : Nat) :
    ∃ m, HoldEnds span frames c i m := by
  by_cases goesOn : ∃ b, Continues span frames c i b
  · obtain ⟨b, continues⟩ := goesOn
    have inRange := continues.2.2.lt_length
    have later := continues.1
    obtain ⟨m, chain, last⟩ := exists_holdEnds span frames c b
    exact ⟨m, .head continues chain, last⟩
  · exact ⟨i, .refl, fun b continues => goesOn ⟨b, continues⟩⟩
termination_by frames.length - i

/-- From its first frame on to `span` frames after its last one, a hold is recent. -/
theorem recentIn_of_chain (touched : TouchedIn frames c i)
    (chain : Relation.ReflTransGen (Continues span frames c) i m) {j : Nat} (after : i < j)
    (before : j < m + span) : RecentIn span frames c j := by
  induction chain with
  | refl => exact ⟨i, after, before, touched⟩
  | @tail a b _ continues ih =>
    by_cases sooner : j < a + span
    · exact ih sooner
    · have renewed := continues.2.1
      exact ⟨b, by omega, before, continues.2.2⟩

theorem touchedIn_append (lead frames : List (List Report)) (c : Char) (i : Nat) :
    TouchedIn (lead ++ frames) c (lead.length + i) ↔ TouchedIn frames c i := by
  simp [TouchedIn, List.getElem?_append_right]

/-- What is recent stays so with frames ahead. -/
theorem RecentIn.append_left {j : Nat} (recent : RecentIn span frames c j)
    (lead : List (List Report)) : RecentIn span (lead ++ frames) c (lead.length + j) := by
  obtain ⟨t, before, near, touched⟩ := recent
  exact ⟨lead.length + t, by omega, by omega, (touchedIn_append lead frames c t).mpr touched⟩

/-- When a hold has ended, its character was not touched recently, whatever frames are ahead. -/
theorem HoldEnds.not_recentIn (ends : HoldEnds span frames c i m) (lead : List (List Report)) :
    ¬ RecentIn span (lead ++ frames) c (lead.length + (m + span)) := by
  rintro ⟨t, before, near, touched⟩
  obtain ⟨b, rfl⟩ := Nat.exists_eq_add_of_le (show lead.length ≤ t by omega)
  rw [touchedIn_append] at touched
  exact ends.last b ⟨by omega, by omega, touched⟩

end Chains

section Commands

variable {kb : Keyboard} {rs : List Report}

/-- A character that is touched is in ASCII lower case. -/
theorem toLower_of_touches {c : Char} {r : Report} (touches : r.touches c = true) :
    c.toLower = c := by
  obtain ⟨stroke, strike, rfl⟩ : ∃ stroke, r.strike? = some stroke ∧ stroke.1 = c := by
    simpa [Report.touches] using touches
  obtain ⟨d, modifiers, -, -, -, isLower⟩ := strike?_eq_some_iff.mp strike
  rw [isLower, Char.toLower_toLower_eq_toLower]

theorem TouchedIn.toLower {frames : List (List Report)} {c : Char} {i : Nat}
    (touched : TouchedIn frames c i) : c.toLower = c := by
  obtain ⟨rs, -, some⟩ := touched
  obtain ⟨r, -, touches⟩ := List.any_eq_true.mp some
  exact toLower_of_touches touches

/-- The characters of a frame's edges are in ASCII lower case. -/
theorem toLower_of_mem_forFrame {span : Nat} {frames : List (List Report)}
    (timed : Timed span frames kb) {d : Char} {edge : Edge}
    (asked : .event (.key d edge) ∈ (kb.forFrame rs).1) : d.toLower = d := by
  have told : edge ∈ edgesOf d (kb.forFrame rs).1 :=
    List.mem_filterMap.mpr ⟨_, asked, by simp [Command.edgeOf?]⟩
  rw [Keyboard.edgesOf_forFrame timed.legacy, List.mem_append] at told
  rcases told with expired | answered
  · have due : d ∈ kb.holds.due := by
      by_contra notDue
      simp [notDue] at expired
    obtain ⟨⟨i, -, touched⟩, -⟩ := (timed.mem_due_iff d).mp due
    exact touched.toLower
  · have first : firstEdge? d rs = some edge := by
      split at answered
      next => cases answered
      next => exact Option.mem_toList.mp answered
    have some := firstEdge?_isSome d rs
    rw [first, Option.isSome_some] at some
    obtain ⟨r, -, touches⟩ := List.any_eq_true.mp some.symm
    exact toLower_of_touches touches

theorem mem_of_mem_heard {commands : List Command} {event : Event}
    (isHeard : event ∈ heard commands) : .event event ∈ commands := by
  induction commands with
  | nil => cases isHeard
  | cons command rest ih =>
    cases command with
    | quit => cases isHeard
    | event first =>
      rcases List.mem_cons.mp isHeard with rfl | later
      · exact List.mem_cons_self
      · exact List.mem_cons_of_mem _ (ih later)

/-- What is asked for in answer to reports is asked for by one of them. -/
theorem exists_report_of_mem_answers {command : Command}
    (asked : command ∈ (kb.answers rs).filterMap id) :
    ∃ r ∈ rs, ∃ kb : Keyboard, (kb.report r).1 = some command := by
  induction rs generalizing kb with
  | nil => simp [Keyboard.answers] at asked
  | cons r rest ih =>
    have later (member : command ∈ ((kb.report r).2.answers rest).filterMap id) :
        ∃ other ∈ r :: rest, ∃ kb : Keyboard, (kb.report other).1 = some command := by
      obtain ⟨other, isLater, asks⟩ := ih member
      exact ⟨other, List.mem_cons_of_mem _ isLater, asks⟩
    rw [Keyboard.answers] at asked
    cases first : (kb.report r).1 with
    | none => exact later (by simpa [first] using asked)
    | some answer =>
      rw [first] at asked
      rcases List.mem_cons.mp asked with rfl | member
      · exact ⟨r, List.mem_cons_self, kb, first⟩
      · exact later member

/-- A frame of touches has edges only. -/
theorem exists_key_of_mem_forFrame (touches : ∀ r ∈ rs, r.IsTouch) {command : Command}
    (asked : command ∈ (kb.forFrame rs).1) : ∃ d edge, command = .event (.key d edge) := by
  rw [Keyboard.forFrame_eq, List.mem_append] at asked
  rcases asked with due | answer
  · obtain ⟨d, -, rfl⟩ := List.mem_map.mp due
    exact ⟨d, .released, rfl⟩
  · obtain ⟨r, member, kb, asked⟩ := exists_report_of_mem_answers answer
    obtain ⟨d, phase, strike, -⟩ := touches r member
    rw [Keyboard.report_of_strike kb strike] at asked
    rcases kb.strike_fst d phase with none | edge
    · rw [none] at asked
      cases asked
    · rw [edge] at asked
      exact ⟨d, _, (Option.some.inj asked).symm⟩

/-- A touch does not quit. -/
theorem Report.IsTouch.not_quits {r : Report} (touch : r.IsTouch) : r.quits = false := by
  obtain ⟨c, phase, strike, -⟩ := touch
  rw [Bool.eq_false_iff]
  intro quits
  have asked := (Keyboard.report_eq_quit_iff (.fresh false 0 none) r).mpr quits
  rw [Keyboard.report_of_strike _ strike] at asked
  rcases Keyboard.strike_fst (.fresh false 0 none) c phase with none | edge
  · rw [none] at asked
    cases asked
  · rw [edge] at asked
    cases asked

theorem any_quits_of_touches (touches : ∀ r ∈ rs, r.IsTouch) : rs.any Report.quits = false := by
  rw [List.any_eq_false]
  intro r member
  rw [(touches r member).not_quits]
  exact Bool.false_ne_true

/-- The first report of a frame of touches that is about a character tells of a press. -/
theorem firstEdge?_of_touches (touches : ∀ r ∈ rs, r.IsTouch) {c : Char} {edge : Edge}
    (first : firstEdge? c rs = some edge) : edge = .pressed := by
  obtain ⟨r, member, told⟩ := List.exists_of_findSome?_eq_some first
  obtain ⟨d, phase, strike, unreleased⟩ := touches r member
  simp only [Report.edgeOf?, strike, Option.ite_none_right_eq_some, Option.some.injEq] at told
  cases phase with
  | press => exact told.2.symm
  | again => exact told.2.symm
  | release => exact absurd rfl unreleased

end Commands

end HexPlayer.Terminal
