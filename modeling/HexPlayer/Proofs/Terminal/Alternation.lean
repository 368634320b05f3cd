import HexPlayer.Proofs.Terminal.Holding
import Mathlib.Algebra.Group.Nat.Even
import Mathlib.Data.List.Infix

/-!
# Edges in turn

A terminal that is said to report no releases may report them all the same. The keyboard takes any
report about a character that is not held for an edge and holds the character from then on, so that
a reported release is passed on without a press before it, and another one follows when the hold is
over. The edges of a character alternate exactly in those runs that have no such release.
-/

namespace HexPlayer.Terminal

/-- The edge of a character, if the command is one. -/
def Command.edgeOf? (c : Char) : Command → Option Edge
  | .event (.key d edge) => if d = c then some edge else none
  | _ => none

/-- The edges of a character among commands, in order. -/
def edgesOf (c : Char) (commands : List Command) : List Edge :=
  commands.filterMap (Command.edgeOf? c)

/-- The edge that a report tells of a character, if it touches it. -/
def Report.edgeOf? (c : Char) (r : Report) : Option Edge :=
  match r.strike? with
  | some (d, phase) => if d = c then some (Keyboard.edgeOf phase) else none
  | none => none

/-- The edge that the first report about a character tells. -/
def firstEdge? (c : Char) (rs : List Report) : Option Edge := rs.findSome? (Report.edgeOf? c)

/-- The edges go down and up in turn, the first one down. -/
def Alternating (edges : List Edge) : Prop :=
  ∀ (i : Nat) (edge : Edge), edges[i]? = some edge → (edge = .pressed ↔ Even i)

/-- No beginning of the edges has more releases than presses. -/
def Balanced (edges : List Edge) : Prop :=
  ∀ front, front <+: edges → front.count .released ≤ front.count .pressed

/-- The character was touched in fewer than `span` frames before frame `j`. -/
def RecentIn (span : Nat) (frames : List (List Report)) (c : Char) (j : Nat) : Prop :=
  ∃ i, i < j ∧ j < i + span ∧ TouchedIn frames c i

/-- Frame `j` tells of a release first, and the character was not touched recently. -/
def StrayIn (span : Nat) (frames : List (List Report)) (c : Char) (j : Nat) : Prop :=
  (∃ rs, frames[j]? = some rs ∧ firstEdge? c rs = some .released) ∧ ¬ RecentIn span frames c j

section Turns

theorem Alternating.of_append {first second : List Edge}
    (alternating : Alternating (first ++ second)) : Alternating first := by
  intro i edge isEdge
  refine alternating i edge ?_
  rw [List.getElem?_append_left (List.getElem?_eq_some_iff.mp isEdge).1, isEdge]

theorem alternating_concat {edges : List Edge} {edge : Edge} :
    Alternating (edges ++ [edge]) ↔
      Alternating edges ∧ (edge = .pressed ↔ Even edges.length) := by
  constructor
  · intro alternating
    exact ⟨alternating.of_append, alternating _ edge (by simp)⟩
  · rintro ⟨before, now⟩ i other isEdge
    rcases Nat.lt_or_ge i edges.length with earlier | later
    · rw [List.getElem?_append_left earlier] at isEdge
      exact before i other isEdge
    · obtain ⟨inRange, -⟩ := List.getElem?_eq_some_iff.mp isEdge
      rw [List.length_append, List.length_singleton] at inRange
      obtain rfl : i = edges.length := by omega
      obtain rfl : edge = other := by simpa using isEdge
      exact now

theorem balanced_concat {edges : List Edge} {edge : Edge} :
    Balanced (edges ++ [edge]) ↔ Balanced edges ∧
      (edges ++ [edge]).count .released ≤ (edges ++ [edge]).count .pressed := by
  simp only [Balanced, List.prefix_concat_iff, or_imp, forall_and, forall_eq, and_comm]

theorem Balanced.of_append {first second : List Edge} (balanced : Balanced (first ++ second)) :
    Balanced first := fun front isFront => balanced front (isFront.trans (List.prefix_append ..))

/-- The edges so far alternate, and leave the character down or not. -/
structure InTurn (edges : List Edge) (down : Bool) : Prop where
  alternating : Alternating edges
  count_eq : edges.count .pressed = edges.count .released + down.toNat
  length_eq : edges.length % 2 = down.toNat
  balanced : Balanced edges

namespace InTurn

variable {edges : List Edge}

theorem nil : InTurn [] false where
  alternating := by simp [Alternating]
  count_eq := rfl
  length_eq := rfl
  balanced := by simp [Balanced]

/-- A character that is down comes up, and one that is up goes down. -/
theorem next {down : Bool} (inTurn : InTurn edges down) :
    InTurn (edges ++ [if down then .released else .pressed]) (!down) := by
  have count := inTurn.count_eq
  have parity := inTurn.length_eq
  refine ⟨alternating_concat.mpr ⟨inTurn.alternating, ?_⟩, ?_, ?_,
    balanced_concat.mpr ⟨inTurn.balanced, ?_⟩⟩
  · cases down <;> simp_all [Nat.even_iff]
  · cases down <;> simp_all
  · cases down <;> simp_all <;> omega
  · cases down <;> simp_all

theorem press (inTurn : InTurn edges false) : InTurn (edges ++ [.pressed]) true := inTurn.next

theorem release (inTurn : InTurn edges true) : InTurn (edges ++ [.released]) false := inTurn.next

/-- A release of a character that is up is one too many. -/
theorem not_balanced_release (inTurn : InTurn edges false) :
    ¬ Balanced (edges ++ [.released]) := by
  intro balanced
  have more := (balanced_concat.mp balanced).2
  have one : [Edge.released].count .released = 1 := rfl
  have none : [Edge.released].count .pressed = 0 := rfl
  rw [List.count_append, List.count_append, one, none, inTurn.count_eq, Bool.toNat_false] at more
  omega

/-- A release of a character that is up breaks the alternation. -/
theorem not_alternating_release (inTurn : InTurn edges false) :
    ¬ Alternating (edges ++ [.released]) := by
  intro alternating
  have isOdd := (alternating_concat.mp alternating).2
  have isEven := inTurn.length_eq
  simp [Nat.even_iff, isEven] at isOdd

end InTurn

end Turns

@[simp]
theorem edgesOf_append (c : Char) (first second : List Command) :
    edgesOf c (first ++ second) = edgesOf c first ++ edgesOf c second :=
  List.filterMap_append

/-- A report tells an edge of a character exactly if it touches it. -/
theorem edgeOf?_isSome (c : Char) (r : Report) : (r.edgeOf? c).isSome = r.touches c := by
  unfold Report.edgeOf? Report.touches
  cases r.strike? with
  | none => rfl
  | some stroke => by_cases same : stroke.1 = c <;> simp [same]

theorem firstEdge?_isSome (c : Char) (rs : List Report) :
    (firstEdge? c rs).isSome = rs.any (Report.touches c) := by
  simp only [firstEdge?, List.isSome_findSome?, edgeOf?_isSome]

/-- Of different characters that are released, each is released once. -/
theorem edgesOf_releases {chars : List Char} (distinct : chars.Nodup) (c : Char) :
    edgesOf c (chars.map fun d => .event (.key d .released)) =
      if c ∈ chars then [.released] else [] := by
  induction chars with
  | nil => rfl
  | cons d chars ih =>
    obtain ⟨absent, others⟩ := List.nodup_cons.mp distinct
    have later := ih others
    by_cases same : d = c
    · subst same
      rw [if_neg absent] at later
      simpa [edgesOf, Command.edgeOf?] using later
    · have other : c ≠ d := fun equal => same equal.symm
      simpa [edgesOf, Command.edgeOf?, same, other] using later

namespace Keyboard

/-- A report about a character that is not held is answered with its edge, and one about a held
character is not. -/
theorem edgeOf?_report {kb : Keyboard} (legacy : kb.reportsReleases = false) (c : Char)
    (r : Report) : (kb.report r).1.bind (Command.edgeOf? c) =
      if (kb.holds.left? c).isSome then none else r.edgeOf? c := by
  unfold Report.edgeOf?
  cases strike : r.strike? with
  | none =>
    have noEdge := (report_of_no_strike kb strike).2
    cases asked : (kb.report r).1 with
    | none => simp
    | some command =>
      cases command with
      | quit => simp [Command.edgeOf?]
      | event event =>
        cases event with
        | key d edge => exact absurd asked (noEdge d edge)
        | _ => simp [Command.edgeOf?]
  | some stroke =>
    obtain ⟨d, phase⟩ := stroke
    rw [report_of_strike kb strike]
    by_cases same : d = c
    · subst same
      cases held : kb.holds.left? d <;> simp [Keyboard.strike, legacy, held, Command.edgeOf?]
    · cases held : kb.holds.left? d <;>
        simp [Keyboard.strike, legacy, held, Command.edgeOf?, same]

/-- The first report about a character that is not held is answered with its edge, and no other
report about the character is. -/
theorem edgesOf_answers {kb : Keyboard} (legacy : kb.reportsReleases = false) (c : Char)
    (rs : List Report) : edgesOf c ((kb.answers rs).filterMap id) =
      if (kb.holds.left? c).isSome then [] else (firstEdge? c rs).toList := by
  induction rs generalizing kb with
  | nil => simp [answers, edgesOf, firstEdge?]
  | cons r rest ih =>
    have still : (kb.report r).2.reportsReleases = false := by simp [legacy]
    have later := ih still
    have first := edgeOf?_report legacy c r
    have both : edgesOf c ((kb.answers (r :: rest)).filterMap id) =
        ((kb.report r).1.bind (Command.edgeOf? c)).toList ++
          edgesOf c (((kb.report r).2.answers rest).filterMap id) := by
      cases asked : (kb.report r).1 with
      | none => simp [answers, edgesOf, asked]
      | some command =>
        cases edge : command.edgeOf? c <;> simp [answers, edgesOf, asked, edge]
    have cut : firstEdge? c (r :: rest) = (r.edgeOf? c).or (firstEdge? c rest) := by
      rw [firstEdge?, List.findSome?_cons]
      cases r.edgeOf? c <;> rfl
    rw [both, first, later, left?_report legacy, ← edgeOf?_isSome, cut]
    -- a report about the character holds it, so that those behind it have no edge
    cases held : (kb.holds.left? c).isSome <;> cases r.edgeOf? c <;> simp [held]

/-- The edges of a character in a frame: its release, if it is due, and the edge of the first report
about it, if it is not held over the start of the frame. -/
theorem edgesOf_forFrame {kb : Keyboard} (legacy : kb.reportsReleases = false) (c : Char)
    (rs : List Report) : edgesOf c (kb.forFrame rs).1 =
      (if c ∈ kb.holds.due then [.released] else []) ++
        if (kb.wake.holds.left? c).isSome then [] else (firstEdge? c rs).toList := by
  have distinct : kb.holds.due.Nodup := by
    refine kb.holds.ascending_due.imp fun less same => ?_
    rw [same] at less
    exact Nat.lt_irrefl _ less
  have legacy : kb.wake.reportsReleases = false := legacy
  rw [forFrame_eq, edgesOf_append, releases, edgesOf_releases distinct, edgesOf_answers legacy]

end Keyboard

section Frames

variable {span : Nat} {frames : List (List Report)} {kb : Keyboard} {c : Char}

theorem afterFrames_concat (kb : Keyboard) (frames : List (List Report)) (rs : List Report) :
    kb.afterFrames (frames ++ [rs]) = ((kb.afterFrames frames).forFrame rs).2 := by
  simp [Keyboard.afterFrames]

theorem commandsOf_concat (kb : Keyboard) (frames : List (List Report)) (rs : List Report) :
    kb.commandsOf (frames ++ [rs]) =
      kb.commandsOf frames ++ [((kb.afterFrames frames).forFrame rs).1] := by
  induction frames generalizing kb with
  | nil => rfl
  | cons first rest ih => simp [Keyboard.commandsOf, Keyboard.afterFrames, ih]

theorem recentIn_concat {rs : List Report} {j : Nat} (inRange : j ≤ frames.length) :
    RecentIn span (frames ++ [rs]) c j ↔ RecentIn span frames c j := by
  unfold RecentIn
  simp only [touchedIn_concat]
  refine exists_congr fun i => and_congr_right fun before => and_congr_right fun _ => ?_
  exact or_iff_left fun last => Nat.ne_of_lt (Nat.lt_of_lt_of_le before inRange) last.1

theorem recentIn_length :
    RecentIn span frames c frames.length ↔
      ∃ i, frames.length < i + span ∧ TouchedIn frames c i := by
  unfold RecentIn
  refine exists_congr fun i => ⟨And.right, fun recent => ⟨recent.2.lt_length, recent⟩⟩

/-- A stray release is one of the frames before the last or one of the last frame. -/
theorem strayIn_concat {rs : List Report} {j : Nat} :
    StrayIn span (frames ++ [rs]) c j ↔ StrayIn span frames c j ∨
      j = frames.length ∧ firstEdge? c rs = some .released ∧
        ¬ ∃ i, frames.length < i + span ∧ TouchedIn frames c i := by
  unfold StrayIn
  rcases Nat.lt_trichotomy j frames.length with earlier | rfl | later
  · rw [List.getElem?_append_left earlier, recentIn_concat (Nat.le_of_lt earlier)]
    simp [Nat.ne_of_lt earlier]
  · rw [recentIn_concat (Nat.le_refl _), recentIn_length]
    simp
  · have beyond : (frames ++ [rs]).length ≤ j := by
      rw [List.length_append, List.length_singleton]
      exact later
    simp [List.getElem?_eq_none beyond, List.getElem?_eq_none (Nat.le_of_lt later),
      Nat.ne_of_gt later]

/-- A character is held over the countdown if it is held and not due. -/
theorem HoldTable.isSome_left?_countdown (t : HoldTable) (c : Char) :
    (t.countdown.left? c).isSome ↔ (t.left? c).isSome ∧ c ∉ t.due := by
  simp only [Option.isSome_iff_exists, left?_countdown_eq_some_iff, mem_due_iff]
  constructor
  · rintro ⟨n, positive, held⟩
    exact ⟨⟨_, held⟩, by simpa [held] using Nat.ne_of_gt positive⟩
  · rintro ⟨⟨n, held⟩, notDue⟩
    have more : 1 < n := by simpa [held] using notDue
    exact ⟨n - 1, by omega, by rw [held]; congr 1; omega⟩

namespace InTurn

variable {edges : List Edge}

/-- The release of a character that is due leaves the edges in turn. -/
theorem wake (inTurn : InTurn edges (kb.holds.left? c).isSome) :
    InTurn (edges ++ if c ∈ kb.holds.due then [.released] else [])
      (kb.wake.holds.left? c).isSome := by
  have held := kb.holds.isSome_left?_countdown c
  by_cases due : c ∈ kb.holds.due
  · have down : (kb.holds.left? c).isSome = true := by
      obtain ⟨n, isHeld, -⟩ := HoldTable.mem_due_iff.mp due
      rw [isHeld, Option.isSome_some]
    have up : (kb.wake.holds.left? c).isSome = false := by
      rw [Bool.eq_false_iff]
      exact fun still => (held.mp still).2 due
    rw [down] at inTurn
    rw [if_pos due, up]
    exact inTurn.release
  · have same : (kb.wake.holds.left? c).isSome = (kb.holds.left? c).isSome :=
      Bool.eq_iff_iff.mpr (held.trans (and_iff_left due))
    rwa [if_neg due, List.append_nil, same]

/-- A frame leaves the edges in turn, unless it first tells of a release and finds the character
up. -/
theorem frame (inTurn : InTurn edges (kb.holds.left? c).isSome)
    (legacy : kb.reportsReleases = false) {rs : List Report}
    (noStray : firstEdge? c rs = some .released → kb.wake.holds.left? c ≠ none) :
    InTurn (edges ++ edgesOf c (kb.forFrame rs).1)
      ((kb.forFrame rs).2.holds.left? c).isSome := by
  have woken := inTurn.wake
  have legacyWake : kb.wake.reportsReleases = false := legacy
  rw [Keyboard.edgesOf_forFrame legacy, Keyboard.forFrame_eq, Keyboard.left?_reports legacyWake,
    ← firstEdge?_isSome, ← List.append_assoc]
  cases held : kb.wake.holds.left? c with
  | some n =>
    rw [held] at woken
    cases firstEdge? c rs <;> simpa using woken
  | none =>
    rw [held] at woken
    cases first : firstEdge? c rs with
    | none => simpa using woken
    | some edge =>
      cases edge with
      | pressed => simpa using woken.press
      | released => exact absurd held (noStray first)

/-- A frame that first tells of a release and finds the character up puts the edges out of turn. -/
theorem stray (inTurn : InTurn edges (kb.holds.left? c).isSome)
    (legacy : kb.reportsReleases = false) {rs : List Report}
    (release : firstEdge? c rs = some .released) (up : kb.wake.holds.left? c = none) :
    ¬ Alternating (edges ++ edgesOf c (kb.forFrame rs).1) ∧
      ¬ Balanced (edges ++ edgesOf c (kb.forFrame rs).1) := by
  have woken := inTurn.wake
  rw [up, Option.isSome_none] at woken
  rw [Keyboard.edgesOf_forFrame legacy, up, release, ← List.append_assoc]
  exact ⟨woken.not_alternating_release, woken.not_balanced_release⟩

end InTurn

/-- The edges of a run are in turn as long as no release is stray, and out of turn from the first
stray one on. -/
theorem inTurn_of_frames (holdFrames : Nat) (title : Option String) (frames : List (List Report))
    (c : Char) :
    let span := max holdFrames 1
    let kb := Keyboard.fresh false holdFrames title
    let edges := edgesOf c (kb.commandsOf frames).flatten
    ((∀ j, ¬ StrayIn span frames c j) →
      InTurn edges ((kb.afterFrames frames).holds.left? c).isSome) ∧
    ∀ j, StrayIn span frames c j → ¬ Alternating edges ∧ ¬ Balanced edges := by
  intro span kb edges
  induction frames using List.reverseRecOn with
  | nil => exact ⟨fun _ => .nil, fun j stray => by simp [StrayIn] at stray⟩
  | append_singleton frames rs ih =>
    obtain ⟨tidy, untidy⟩ := ih
    have timed : Timed span frames (kb.afterFrames frames) :=
      (Timed.fresh holdFrames title).afterFrames _
    have told : edges = edgesOf c (kb.commandsOf frames).flatten ++
        edgesOf c ((kb.afterFrames frames).forFrame rs).1 := by
      simp only [edges, commandsOf_concat, List.flatten_append, List.flatten_singleton,
        edgesOf_append]
    rw [told, afterFrames_concat]
    simp only [strayIn_concat]
    constructor
    · intro noStray
      have inTurn := tidy fun j stray => noStray j (.inl stray)
      refine inTurn.frame timed.legacy fun release up => noStray frames.length ?_
      exact .inr ⟨rfl, release, (timed.wake_left?_eq_none_iff c).mp up⟩
    · intro j stray
      by_cases before : ∃ j, StrayIn span frames c j
      · obtain ⟨i, isStray⟩ := before
        obtain ⟨unalternating, unbalanced⟩ := untidy i isStray
        exact ⟨fun alternating => unalternating alternating.of_append,
          fun balanced => unbalanced balanced.of_append⟩
      · have inTurn := tidy fun i isStray => before ⟨i, isStray⟩
        obtain ⟨-, release, up⟩ := stray.resolve_left fun isStray => before ⟨j, isStray⟩
        exact inTurn.stray timed.legacy release ((timed.wake_left?_eq_none_iff c).mpr up)

/-- The edges of a frame: the release of the character, if it was touched `span` frames before and
not since, and the edge of the first report about it, if it was not touched in fewer frames. -/
theorem edgesOf_frame (holdFrames : Nat) (title : Option String) {frames : List (List Report)}
    (c : Char) {j : Nat} {rs : List Report} (isFrame : frames[j]? = some rs) :
    let span := max holdFrames 1
    let kb := Keyboard.fresh false holdFrames title
    ∃ told expired answered, (kb.commandsOf frames)[j]? = some told ∧
      edgesOf c told = Option.toList expired ++ Option.toList answered ∧
      (∀ edge, expired = some edge ↔ edge = .released ∧
        (∃ i, i + span = j ∧ TouchedIn frames c i) ∧ ¬ RecentIn span frames c j) ∧
      ∀ edge, answered = some edge ↔
        firstEdge? c rs = some edge ∧ ¬ RecentIn span frames c j := by
  intro span kb
  let before := kb.afterFrames (frames.take j)
  have length : (frames.take j).length = j := by
    rw [List.length_take]
    exact Nat.min_eq_left (Nat.le_of_lt (List.getElem?_eq_some_iff.mp isFrame).1)
  have timed : Timed span (frames.take j) before := (Timed.fresh holdFrames title).afterFrames _
  have isRecent : (∃ i, (frames.take j).length < i + span ∧ TouchedIn (frames.take j) c i) ↔
      RecentIn span frames c j := by
    simp only [RecentIn, length, touchedIn_take, and_left_comm]
  have isDue : c ∈ before.holds.due ↔
      (∃ i, i + span = j ∧ TouchedIn frames c i) ∧ ¬ RecentIn span frames c j := by
    have spanned : 0 < span := Nat.lt_of_lt_of_le Nat.one_pos (Nat.le_max_right holdFrames 1)
    rw [timed.mem_due_iff, isRecent, length]
    simp only [touchedIn_take]
    refine and_congr_left fun _ => exists_congr fun i => and_congr_right fun ago => ?_
    exact and_iff_right (by omega)
  have isUp : before.wake.holds.left? c = none ↔ ¬ RecentIn span frames c j := by
    rw [timed.wake_left?_eq_none_iff, isRecent]
  refine ⟨(before.forFrame rs).1, if c ∈ before.holds.due then some .released else none,
    if (before.wake.holds.left? c).isSome then none else firstEdge? c rs, ?_, ?_, ?_, ?_⟩
  · rw [Keyboard.getElem?_commandsOf, isFrame, Option.map_some]
  · rw [Keyboard.edgesOf_forFrame timed.legacy]
    split <;> split <;> rfl
  · intro edge
    rw [← isDue]
    by_cases due : c ∈ before.holds.due <;> simp [due, eq_comm]
  · intro edge
    simp only [← isUp, ← Option.not_isSome_iff_eq_none]
    split <;> simp [*]

/-- The edges of a character on a terminal that is said to report no releases, whatever it reports.
In frame `j` the character is released if it was touched `span` frames before and not since. After
that the first report about it is passed on as its edge, be it a press or a release, if the
character was not touched in fewer than `span` frames. So the edges alternate exactly if no release
is stray, and a stray one leaves more releases than presses in some beginning of the edges. -/
theorem edges_alternate_iff (holdFrames : Nat) (title : Option String)
    (frames : List (List Report)) (c : Char) :
    let span := max holdFrames 1
    let commands := (Keyboard.fresh false holdFrames title).commandsOf frames
    let edges := edgesOf c commands.flatten
    (∀ (j : Nat) rs, frames[j]? = some rs → ∃ told expired answered, commands[j]? = some told ∧
      edgesOf c told = Option.toList expired ++ Option.toList answered ∧
      (∀ edge, expired = some edge ↔ edge = .released ∧
        (∃ i, i + span = j ∧ TouchedIn frames c i) ∧ ¬ RecentIn span frames c j) ∧
      ∀ edge, answered = some edge ↔
        firstEdge? c rs = some edge ∧ ¬ RecentIn span frames c j) ∧
    (Alternating edges ↔ ∀ j, ¬ StrayIn span frames c j) ∧
    (Balanced edges ↔ ∀ j, ¬ StrayIn span frames c j) := by
  intro span commands edges
  obtain ⟨tidy, untidy⟩ := inTurn_of_frames holdFrames title frames c
  refine ⟨fun j rs isFrame => edgesOf_frame holdFrames title c isFrame, ⟨?_, ?_⟩, ⟨?_, ?_⟩⟩
  · intro alternating j stray
    exact (untidy j stray).1 alternating
  · intro noStray
    exact (tidy noStray).alternating
  · intro balanced j stray
    exact (untidy j stray).2 balanced
  · intro noStray
    exact (tidy noStray).balanced

/-- The letter `q` goes down, its hold ends, and then the terminal reports its release. -/
def lateRelease : List (List Report) :=
  [[.key { code := .char 'q' }], [], [.key { code := .char 'q', phase := .release }], []]

/-- The release is passed on although `q` is up, and one frame later `q` is released once more. -/
theorem edges_lateRelease :
    let edges := edgesOf 'q' ((Keyboard.fresh false 1 none).commandsOf lateRelease).flatten
    edges = [.pressed, .released, .released, .released] ∧ ¬ Alternating edges ∧
      ¬ Balanced edges := by
  intro edges
  have told : edges = [.pressed, .released, .released, .released] := by decide +kernel
  refine ⟨told, fun alternating => ?_, fun balanced => ?_⟩
  · have third := alternating 2 .released (by rw [told]; rfl)
    exact absurd (third.mpr (by decide)) nofun
  · have more := balanced [.pressed, .released, .released] (by rw [told]; decide)
    exact absurd more (by decide)

end Frames

end HexPlayer.Terminal
