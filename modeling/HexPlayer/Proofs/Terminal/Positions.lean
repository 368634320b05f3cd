import HexPlayer.Proofs.Terminal.Moves
import Mathlib.Data.Int.ModEq

/-!
# Positions in the catalog

A move counts round the catalog, so moves add up, and two of them lead to the same title if and only
if they differ by whole rounds. A keyboard therefore ends as many places from where it starts as
there are presses of the down key more than of the up key, whatever else it is told and however that
is cut into frames.
-/

namespace HexPlayer

namespace Catalog

theorem nodup_titles : titles.Nodup := by decide

theorem cast_index (position : Int) : (index position : Int) = position % titles.length := by
  have notZero : (titles.length : Int) ≠ 0 := by decide
  exact Int.toNat_of_nonneg (Int.emod_nonneg position notZero)

/-- A title stands at one position only. -/
theorem idxOf?_entry (position : Int) : titles.idxOf? (entry position) = some (index position) := by
  obtain ⟨inRange, found⟩ := List.getElem?_eq_some_iff.mp (getElem?_titles position)
  refine List.idxOf?_eq_some_iff.mpr ⟨inRange, found, fun earlier isEarlier same => ?_⟩
  have one := nodup_titles.getElem_inj_iff.mp (same.trans found.symm)
  exact absurd one (Nat.ne_of_lt isEarlier)

/-- Every title on offer has a position. -/
theorem exists_entry_of_isListed {title : String} (listed : isListed title = true) :
    ∃ position, entry position = title := by
  obtain ⟨place, inRange, rfl⟩ := List.getElem_of_mem (List.contains_iff_mem.mp listed)
  have same : index place = place := by
    rw [index, ← Int.natCast_emod, Int.toNat_natCast, Nat.mod_eq_of_lt inRange]
  have found := getElem?_titles place
  rw [same, List.getElem?_eq_getElem inRange] at found
  exact ⟨place, (Option.some.inj found).symm⟩

/-- Two positions have the same title if and only if they differ by whole rounds. -/
theorem entry_eq_entry_iff (a b : Int) : entry a = entry b ↔ a ≡ b [ZMOD titles.length] := by
  rw [Int.ModEq, ← cast_index, ← cast_index]
  constructor
  · intro same
    have found := idxOf?_entry a
    rw [same, idxOf?_entry] at found
    rw [Option.some.inj found]
  · intro same
    have found := getElem?_titles a
    rw [Int.ofNat.inj same, getElem?_titles] at found
    exact (Option.some.inj found).symm

/-- A move from a position goes on counting from there. -/
theorem move_entry (position step : Int) :
    move (some (entry position)) step = entry (position + step) := by
  have found : (some (entry position)).bind (titles.idxOf? ·) = some (index position) :=
    idxOf?_entry position
  simp only [move, found]
  rw [entry_eq_entry_iff, cast_index]
  exact (Int.mod_modEq position _).add_right step

/-- Moves from a title on offer add up. -/
theorem move_move {title : String} (listed : isListed title = true) (a b : Int) :
    move (some (move (some title) a)) b = move (some title) (a + b) := by
  obtain ⟨position, rfl⟩ := exists_entry_of_isListed listed
  rw [move_entry, move_entry, move_entry, Int.add_assoc]

/-- Two moves from a title on offer lead to the same title if and only if they differ by whole
rounds. -/
theorem move_eq_move_iff {title : String} (listed : isListed title = true) (a b : Int) :
    move (some title) a = move (some title) b ↔ a ≡ b [ZMOD titles.length] := by
  obtain ⟨position, rfl⟩ := exists_entry_of_isListed listed
  rw [move_entry, move_entry, entry_eq_entry_iff]
  exact ⟨Int.ModEq.add_left_cancel' position, Int.ModEq.add_left position⟩

/-- Titles that steps from a position lead to, one after the other, and the one they end with. -/
structure CountsFrom (position : Int) (steps : List Int) (selected : List String)
    (last : Option String) : Prop where
  each : ∀ k : Nat, selected[k]? =
    steps[k]?.map fun step => entry (position + (steps.take k).sum + step)
  last : last = some (entry (position + steps.sum))

/-- The course of steps from a position counts from there. -/
theorem countsFrom_course (position : Int) (steps : List Int) :
    CountsFrom position steps (course (some (entry position)) steps)
      ((course (some (entry position)) steps).getLast?.or (some (entry position))) := by
  induction steps generalizing position with
  | nil => exact ⟨fun k => rfl, by simp [course]⟩
  | cons step rest ih =>
    obtain ⟨each, last⟩ := ih (position + step)
    rw [course, move_entry]
    constructor
    · intro k
      cases k with
      | zero => simp
      | succ k =>
        simp only [List.getElem?_cons_succ, each, List.take_succ_cons, List.sum_cons,
          Int.add_assoc]
    · rw [List.getLast?_cons, List.sum_cons, ← Int.add_assoc, ← last]
      cases (course (some (entry (position + step))) rest).getLast? <;> rfl

/-- Steps go on from the title that those before them lead to. -/
theorem course_append (start : Option String) (first second : List Int) :
    course start (first ++ second) =
      course start first ++ course ((course start first).getLast?.or start) second := by
  induction first generalizing start with
  | nil => rfl
  | cons step rest ih =>
    rw [List.cons_append, course, ih, course, List.cons_append, List.getLast?_cons]
    cases (course (some (move start step)) rest).getLast? <;> rfl

theorem length_course (start : Option String) (steps : List Int) :
    (course start steps).length = steps.length := by
  induction steps generalizing start with
  | nil => rfl
  | cons step rest ih => rw [course, List.length_cons, List.length_cons, ih]

end Catalog

namespace Terminal

open Catalog (course CountsFrom)

/-- What a keyboard is told at once: the reports of a frame, or a report by itself. -/
inductive Feed where
  | frame (reports : List Report)
  | single (report : Report)

/-- The reports of a feed. -/
def Feed.reports : Feed → List Report
  | .frame reports => reports
  | .single report => [report]

/-- The report is a press of the key. -/
def Report.presses (code : KeyCode) : Report → Bool
  | .key stroke => stroke.code == code && stroke.phase == .press
  | _ => false

/-- The reports of feeds that are presses of the key. -/
def presses (code : KeyCode) (feeds : List Feed) : Nat :=
  (feeds.flatMap Feed.reports).countP (Report.presses code)

/-- The moves that feeds ask for. -/
def stepsOf (feeds : List Feed) : List Int :=
  (feeds.flatMap Feed.reports).filterMap Report.step?

/-- A press of the down key is a step forward, a press of the up key is one back, and nothing else
is a step. -/
theorem Report.step?_eq (r : Report) :
    r.step? = if r.presses .down then some 1 else if r.presses .up then some (-1) else none := by
  cases r with
  | key stroke =>
    obtain ⟨code, phase, modifiers⟩ := stroke
    cases code <;> cases phase <;> rfl
  | _ => rfl

/-- The down key is not the up key. -/
theorem Report.not_presses_up {r : Report} (down : r.presses .down = true) :
    r.presses .up = false := by
  cases r with
  | key stroke =>
    obtain ⟨isDown, -⟩ := Bool.and_eq_true_iff.mp down
    simp [Report.presses, beq_iff_eq.mp isDown]
  | _ => rfl

/-- There are as many steps as presses, and they add up to the presses of the down key less those of
the up key. -/
theorem stepsOf_counts (feeds : List Feed) :
    (stepsOf feeds).length = presses .down feeds + presses .up feeds ∧
      (stepsOf feeds).sum = presses .down feeds - presses .up feeds := by
  unfold stepsOf presses
  induction feeds.flatMap Feed.reports with
  | nil => exact ⟨rfl, rfl⟩
  | cons r rest ih =>
    obtain ⟨count, total⟩ := ih
    rw [List.filterMap_cons, r.step?_eq]
    by_cases down : r.presses .down = true
    · have notUp : ¬ r.presses .up = true := by simp [Report.not_presses_up down]
      rw [if_pos down, List.countP_cons_of_pos down, List.countP_cons_of_neg notUp,
        List.length_cons, List.sum_cons]
      omega
    · rw [if_neg down, List.countP_cons_of_neg down]
      by_cases up : r.presses .up = true
      · rw [if_pos up, List.countP_cons_of_pos up, List.length_cons, List.sum_cons]
        omega
      · rw [if_neg up, List.countP_cons_of_neg up]
        exact ⟨count, total⟩

/-- Every step is by one place. -/
theorem eq_or_eq_of_mem_stepsOf {feeds : List Feed} {step : Int} (taken : step ∈ stepsOf feeds) :
    step = -1 ∨ step = 1 := by
  obtain ⟨r, -, moves⟩ := List.mem_filterMap.mp taken
  exact r.step?_eq_some moves

namespace Keyboard

/-- What a feed asks of the host. -/
def feed (kb : Keyboard) : Feed → List Command × Keyboard
  | .frame reports => kb.forFrame reports
  | .single report => ((kb.report report).1.toList, (kb.report report).2)

/-- What feeds ask of the host, one after the other. -/
def feedAll (kb : Keyboard) : List Feed → List (List Command) × Keyboard
  | [] => ([], kb)
  | told :: rest =>
    let (commands, next) := kb.feed told
    let (later, last) := next.feedAll rest
    (commands :: later, last)

/-- A feed selects the titles that its moves lead to. -/
theorem titles_feed (kb : Keyboard) (told : Feed) :
    (kb.feed told).1.filterMap Command.title? = course kb.title (stepsOf [told]) ∧
      (kb.feed told).2.title = (course kb.title (stepsOf [told])).getLast?.or kb.title := by
  have steps : stepsOf [told] = told.reports.filterMap Report.step? := by
    simp [stepsOf]
  rw [steps]
  cases told with
  | frame reports =>
    obtain ⟨titles, last⟩ := titles_reports kb.wake reports
    refine ⟨?_, last⟩
    calc (kb.forFrame reports).1.filterMap Command.title?
        = (kb.releases ++ (kb.wake.reports reports).1).filterMap Command.title? := rfl
      _ = (kb.wake.reports reports).1.filterMap Command.title? := by
        rw [List.filterMap_append, titles_releases, List.nil_append]
      _ = _ := titles
  | single report =>
    obtain ⟨titles, last⟩ := titles_reports kb [report]
    refine ⟨Eq.trans ?_ titles, last⟩
    simp [reports, feed]

/-- Feeds select the titles that all their moves lead to. -/
theorem titles_feedAll (kb : Keyboard) (feeds : List Feed) :
    (kb.feedAll feeds).1.flatten.filterMap Command.title? = course kb.title (stepsOf feeds) ∧
      (kb.feedAll feeds).2.title = (course kb.title (stepsOf feeds)).getLast?.or kb.title := by
  induction feeds generalizing kb with
  | nil => exact ⟨rfl, rfl⟩
  | cons told rest ih =>
    obtain ⟨first, next⟩ := kb.titles_feed told
    obtain ⟨later, last⟩ := ih (kb.feed told).2
    have steps : stepsOf (told :: rest) = stepsOf [told] ++ stepsOf rest := by
      simp [stepsOf]
    rw [feedAll]
    dsimp only
    rw [List.flatten_cons, List.filterMap_append, first, later, last, next, steps,
      Catalog.course_append, List.getLast?_append, Option.or_assoc]
    exact ⟨rfl, rfl⟩

/-- A feed selects as many titles as it has presses of the down key and the up key. -/
theorem length_titles_feed (kb : Keyboard) (told : Feed) :
    ((kb.feed told).1.filterMap Command.title?).length =
      presses .down [told] + presses .up [told] := by
  rw [(kb.titles_feed told).1, Catalog.length_course, (stepsOf_counts [told]).1]

theorem lengths_titles_feedAll (kb : Keyboard) (feeds : List Feed) :
    (kb.feedAll feeds).1.map (fun commands => (commands.filterMap Command.title?).length) =
      feeds.map fun told => presses .down [told] + presses .up [told] := by
  induction feeds generalizing kb with
  | nil => rfl
  | cons told rest ih =>
    rw [feedAll, List.map_cons, List.map_cons, length_titles_feed, ih]

/-- A report selects a title if and only if it is a press of the down key or the up key, and then
the next title in that direction. -/
theorem report_eq_select_iff (kb : Keyboard) (r : Report) (title : String) :
    (kb.report r).1 = some (.event (.select title)) ↔
      (r.presses .down = true ∧ Catalog.move kb.title 1 = title) ∨
        (r.presses .up = true ∧ Catalog.move kb.title (-1) = title) := by
  have step := r.step?_eq
  by_cases down : r.presses .down = true
  · rw [if_pos down] at step
    rw [report_of_step kb step]
    simp [select, down, Report.not_presses_up down]
  · rw [if_neg down] at step
    by_cases up : r.presses .up = true
    · rw [if_pos up] at step
      rw [report_of_step kb step]
      simp [select, down, up]
    · rw [if_neg up] at step
      constructor
      · intro asked
        have none := ((kb.report_of_no_step step).2 _ asked).2
        cases none
      · rintro (⟨isDown, -⟩ | ⟨isUp, -⟩)
        · exact absurd isDown down
        · exact absurd isUp up

/-- Feeds with a title to start from lead to the position that their presses add up to. -/
theorem countsFrom_feedAll (kb : Keyboard) (feeds : List Feed) {position : Int}
    (start : kb.title = some (Catalog.entry position)) :
    CountsFrom position (stepsOf feeds) ((kb.feedAll feeds).1.flatten.filterMap Command.title?)
        (kb.feedAll feeds).2.title ∧
      (kb.feedAll feeds).2.title.bind (Catalog.titles.idxOf? ·) =
        some (Catalog.index (position + presses .down feeds - presses .up feeds)) := by
  obtain ⟨titles, last⟩ := kb.titles_feedAll feeds
  have counts := Catalog.countsFrom_course position (stepsOf feeds)
  rw [← start, ← last, ← titles] at counts
  refine ⟨counts, ?_⟩
  rw [counts.last, Option.bind_some, Catalog.idxOf?_entry, (stepsOf_counts feeds).2,
    ← Int.add_sub_assoc]

/-- Feeds without a title to start from lead nowhere unless a key is pressed, and then on from the
first title. -/
theorem countsFrom_feedAll_of_none (kb : Keyboard) (feeds : List Feed) (start : kb.title = none) :
    (stepsOf feeds = [] → (kb.feedAll feeds).2.title = none) ∧
      ∀ first rest, stepsOf feeds = first :: rest →
        ∃ later, (kb.feedAll feeds).1.flatten.filterMap Command.title? =
            Catalog.entry 0 :: later ∧
          CountsFrom 0 rest later (kb.feedAll feeds).2.title := by
  obtain ⟨titles, last⟩ := kb.titles_feedAll feeds
  rw [start] at titles last
  constructor
  · intro none
    rw [last, none]
    rfl
  · intro first rest steps
    have counts := Catalog.countsFrom_course 0 rest
    -- without a title the first step leads to the first title, whatever step it is
    have course : course none (first :: rest) =
        Catalog.entry 0 :: course (some (Catalog.entry 0)) rest := rfl
    rw [steps, course] at titles last
    refine ⟨_, titles, ?_⟩
    rwa [last, List.getLast?_cons, Option.or_none, ← Option.or_some]

/-- Moves add up round the catalog. A keyboard selects one title for each press of the down key or
the up key, the next one in that direction, and ends at the position that they add up to. If there
is no title to start from, the first press selects the first title, whichever key it is of, and the
rest count from there. -/
theorem positions_of_presses :
    (∀ title, Catalog.isListed title = true →
      (∀ a b, Catalog.move (some (Catalog.move (some title) a)) b =
        Catalog.move (some title) (a + b)) ∧
      (∀ a, Catalog.isListed (Catalog.move (some title) a) = true) ∧
      ∀ a b, Catalog.move (some title) a = Catalog.move (some title) b ↔
        a ≡ b [ZMOD Catalog.titles.length]) ∧
    (∀ (kb : Keyboard) r title, (kb.report r).1 = some (.event (.select title)) ↔
      (r.presses .down = true ∧ Catalog.move kb.title 1 = title) ∨
        (r.presses .up = true ∧ Catalog.move kb.title (-1) = title)) ∧
    ∀ (kb last : Keyboard) (feeds : List Feed) (asked : List (List Command)),
      kb.feedAll feeds = (asked, last) →
      (asked.flatten.filterMap Command.title?).length =
        presses .down feeds + presses .up feeds ∧
      asked.map (fun commands => (commands.filterMap Command.title?).length) =
        feeds.map (fun told => presses .down [told] + presses .up [told]) ∧
      (∀ step ∈ stepsOf feeds, step = -1 ∨ step = 1) ∧
      (∀ position, kb.title = some (Catalog.entry position) →
        CountsFrom position (stepsOf feeds) (asked.flatten.filterMap Command.title?) last.title ∧
        last.title.bind (Catalog.titles.idxOf? ·) =
          some ((position + presses .down feeds - presses .up feeds) %
            Catalog.titles.length).toNat) ∧
      (kb.title = none →
        (stepsOf feeds = [] → last.title = none) ∧
        ∀ first rest, stepsOf feeds = first :: rest →
          ∃ later, asked.flatten.filterMap Command.title? = Catalog.entry 0 :: later ∧
            CountsFrom 0 rest later last.title) := by
  refine ⟨fun title listed => ⟨?_, ?_, ?_⟩, report_eq_select_iff, ?_⟩
  · exact Catalog.move_move listed
  · exact fun a => Catalog.isListed_move _ a
  · exact Catalog.move_eq_move_iff listed
  · intro kb last feeds asked fed
    obtain ⟨rfl, rfl⟩ := Prod.mk.inj fed
    refine ⟨?_, kb.lengths_titles_feedAll feeds, fun _ => eq_or_eq_of_mem_stepsOf,
      fun position => kb.countsFrom_feedAll feeds, kb.countsFrom_feedAll_of_none feeds⟩
    rw [(kb.titles_feedAll feeds).1, Catalog.length_course, (stepsOf_counts feeds).1]

/-- Two feeds with a press of the down key, a release of it, a character and two presses of the up
key. -/
def someFeeds : List Feed :=
  [.frame [.key { code := .down }, .key { code := .char 'q' },
      .key { code := .down, phase := .release }, .key { code := .up }],
    .single (.key { code := .up })]

/-- From the first title they lead back by one, to position 22. From none the first press leads to
the first title, and the others back by two. -/
theorem positions_of_some_feeds :
    (Catalog.move (some (Catalog.move (some "PONG") 30)) (-8) = Catalog.move (some "PONG") 22 ∧
      Catalog.move (some "PONG") 22 = Catalog.move (some "PONG") (-1)) ∧
    (((fresh false 2 (some "PONG")).feedAll someFeeds).1.flatten.filterMap
        Command.title?).length = 3 ∧
      ((fresh false 2 (some "PONG")).feedAll someFeeds).2.title.bind (Catalog.titles.idxOf? ·) =
        some 22 ∧
      ((fresh true 0 none).feedAll someFeeds).2.title = some "VBRIX" := by
  obtain ⟨catalog, -, keyboards⟩ := positions_of_presses
  obtain ⟨addUp, -, rounds⟩ := catalog "PONG" (by decide)
  obtain ⟨count, -, -, listed, -⟩ := keyboards (fresh false 2 (some "PONG")) _ someFeeds _ rfl
  obtain ⟨-, -, -, -, unlisted⟩ := keyboards (fresh true 0 none) _ someFeeds _ rfl
  obtain ⟨-, place⟩ := listed 0 (by decide)
  obtain ⟨later, -, counts⟩ := (unlisted rfl).2 1 [-1, -1] (by decide)
  refine ⟨⟨addUp 30 (-8), (rounds 22 (-1)).mpr (by decide)⟩, count.trans (by decide),
    place.trans (by decide), counts.last.trans (by decide)⟩

end Keyboard

end Terminal

end HexPlayer
