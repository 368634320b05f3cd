import HexPlayer.Proofs.Host.Cadence
import HexPlayer.Proofs.Session.Strokes
import HexPlayer.Proofs.Terminal.Touches

/-!
# How long the machine sees a key held

On a terminal that reports no releases a key stays down from the first frame that touches its
character to `span` frames after the last one that renews the hold. In a running session every frame
ticks the machine, the frame of the press after the press and the frame of the release after the
release. So the machine sees the key down for as many ticks as there are frames in between.
-/

namespace HexPlayer

/-- The call ticks the machine, or presses or releases this key. -/
def Call.concerns (k : Key) : Call → Bool
  | .tick => true
  | .press key | .release key => key == k
  | .reset | .load _ => false

/-- Without ticks, the calls that concern a key are its strokes. -/
theorem filter_concerns_of_no_tick {calls : List Call} (unticked : .tick ∉ calls) (k : Key) :
    calls.filter (Call.concerns k) =
      ((calls.filterMap Call.stroke?).filter fun s => s.key == k).map Call.ofStroke := by
  induction calls with
  | nil => rfl
  | cons call calls ih =>
    obtain ⟨notTick, others⟩ := not_or.mp (List.mem_cons.not.mp unticked)
    have later := ih others
    cases call with
    | reset => exact later
    | load program => exact later
    | tick => exact absurd rfl notTick
    | press key =>
      by_cases same : key = k <;> simp [Call.concerns, Call.stroke?, same, later, Call.ofStroke]
    | release key =>
      by_cases same : key = k <;> simp [Call.concerns, Call.stroke?, same, later, Call.ofStroke]

/-- Calls whose concern with a key is a row of ticks do not press or release it. -/
theorem ticks_of_filter_concerns {k : Key} {made : List Call} {count : Nat}
    (ticks : made.filter (Call.concerns k) = List.replicate count .tick) :
    .press k ∉ made ∧ .release k ∉ made ∧ made.count .tick = count := by
  have isTick {call : Call} (member : call ∈ made) (concerns : call.concerns k = true) :
      call = .tick := by
    have isSeen := List.mem_filter.mpr ⟨member, concerns⟩
    rw [ticks] at isSeen
    exact List.eq_of_mem_replicate isSeen
  refine ⟨fun pressed => ?_, fun released => ?_, ?_⟩
  · cases isTick pressed (by simp [Call.concerns])
  · cases isTick released (by simp [Call.concerns])
  · have same : (made.filter (Call.concerns k)).count .tick = made.count .tick :=
      List.count_filter rfl
    rw [← same, ticks, List.count_replicate_self]

namespace Session

variable {M D : Type} [Machine M] [Display D]

/-- A session runs on through operations that neither select nor toggle. -/
theorem running_after {s : Session M D} (running : s.desk.transport.state = .running)
    (cfg : Config) {ops : List Operation}
    (steady : ∀ op ∈ ops, op.isSwap = false ∧ op.isToggle = false) :
    (after cfg ops s).desk.transport.state = .running := by
  induction ops generalizing s with
  | nil => exact running
  | cons op ops ih =>
    obtain ⟨noSwap, noToggle⟩ := steady op List.mem_cons_self
    apply ih ?_ fun other member => steady other (List.mem_cons_of_mem _ member)
    rw [transport_operate, state_turn, noSwap, noToggle]
    exact running

/-- Operations that neither refresh nor step do not tick the machine. -/
theorem tick_not_mem_deeds (cfg : Config) {ops : List Operation}
    (calm : ∀ op ∈ ops, op.isRefresh = false ∧ op.isSingleStep = false) (s : Session M D) :
    .tick ∉ calls (deeds cfg ops s) := by
  rw [← List.count_eq_zero, count_tick_deeds, List.countP_eq_zero]
  intro stage member
  obtain ⟨before, op, rest, rfl, rfl⟩ := exists_of_mem_stages member
  obtain ⟨noRefresh, noStep⟩ := calm op (by simp)
  simp [Stage.isAdvance, noRefresh, noStep]

end Session

namespace Host

open Session (Config Event Operation after calls deeds fresh)
open Cartridge (Source)
open Terminal (Command HoldEnds Keyboard RecentIn Report Timed TouchedIn edgesOf heard)

/-- The strokes of a key that a session makes of what it hears are the edges of its character. -/
theorem strokes_heard {layout : Layout} {k : Key} {c : Char}
    (bound : ∀ d, layout.key? d = some k ↔ d.toLower = c) {commands : List Command}
    (keys : ∀ command ∈ commands, ∃ d edge, command = .event (.key d edge) ∧ d.toLower = d) :
    (((heard commands).map Operation.handle).filterMap (Operation.stroke? layout)).filter
        (fun s => s.key == k) =
      (edgesOf c commands).map (Stroke.mk k) := by
  induction commands with
  | nil => rfl
  | cons command rest ih =>
    obtain ⟨d, edge, rfl, lower⟩ := keys command List.mem_cons_self
    have later := ih fun other member => keys other (List.mem_cons_of_mem _ member)
    by_cases same : d = c
    · subst same
      have isBound := (bound d).mpr lower
      simpa [heard, edgesOf, Command.edgeOf?, Operation.stroke?, Layout.stroke?, isBound]
        using later
    · have unbound : layout.key? d ≠ some k := fun isBound =>
        same (lower.symm.trans ((bound d).mp isBound))
      cases key : layout.key? d with
      | none =>
        simpa [heard, edgesOf, Command.edgeOf?, Operation.stroke?, Layout.stroke?, key, same]
          using later
      | some other =>
        have differs : other ≠ k := fun equal => unbound (equal ▸ key)
        simpa [heard, edgesOf, Command.edgeOf?, Operation.stroke?, Layout.stroke?, key, same,
          differs] using later

/-- The session of the host runs, and the keyboard has been through the frames. -/
structure Holding {M D : Type} (kb : Keyboard) (before : List (List Report)) (h : Host M D) :
    Prop where
  keyboard : h.keyboard = kb.afterFrames before
  kept : h.session.desk.transport.Kept
  running : h.session.desk.transport.state = .running

section Frames

variable {M D : Type} [Machine M] [Display D] {cfg : Config} {k : Key} {c : Char}
  {holdFrames : Nat} {title : Option String} {before : List (List Report)} {rs : List Report}
  {h : Host M D}

omit [Machine M] [Display D] in
/-- In a frame of touches nothing is selected, toggled, refreshed or stepped before the refresh. -/
theorem calm_inputs (touches : ∀ r ∈ rs, r.IsTouch) (h : Host M D) (source : Source) :
    ∀ op ∈ h.inputs source rs, (op.isSwap = false ∧ op.isToggle = false) ∧
      op.isRefresh = false ∧ op.isSingleStep = false := by
  intro op member
  rcases List.mem_cons.mp member with rfl | handled
  · exact ⟨⟨rfl, rfl⟩, rfl, rfl⟩
  · obtain ⟨event, isHeard, rfl⟩ := List.mem_map.mp handled
    obtain ⟨d, edge, isKey⟩ := Terminal.exists_key_of_mem_forFrame touches
      (Terminal.mem_of_mem_heard isHeard)
    cases isKey
    exact ⟨⟨rfl, rfl⟩, rfl, rfl⟩

/-- Before the refresh of a frame of touches, the calls that concern a key are the edges of its
character. -/
theorem filter_concerns_inputs (timed : Timed (max holdFrames 1) before h.keyboard)
    (bound : ∀ d, cfg.layout.key? d = some k ↔ d.toLower = c) (touches : ∀ r ∈ rs, r.IsTouch)
    (source : Source) :
    (calls (deeds cfg (h.inputs source rs) h.session)).filter (Call.concerns k) =
      (edgesOf c (h.keyboard.forFrame rs).1).map fun edge => .ofStroke ⟨k, edge⟩ := by
  have unticked := Session.tick_not_mem_deeds cfg
    (fun op member => (calm_inputs touches h source op member).2) h.session
  have struck : (calls (deeds cfg (h.inputs source rs) h.session)).filterMap Call.stroke? =
      ((heard (h.keyboard.forFrame rs).1).map Operation.handle).filterMap
        (Operation.stroke? cfg.layout) :=
    Session.strokes_deeds cfg (h.inputs source rs) h.session
  have keys : ∀ command ∈ (h.keyboard.forFrame rs).1,
      ∃ d edge, command = .event (.key d edge) ∧ d.toLower = d := by
    intro command asked
    obtain ⟨d, edge, rfl⟩ := Terminal.exists_key_of_mem_forFrame touches asked
    exact ⟨d, edge, rfl, Terminal.toLower_of_mem_forFrame timed asked⟩
  rw [filter_concerns_of_no_tick unticked, struck, strokes_heard bound keys, List.map_map]
  rfl

/-- A frame of touches keeps a running host running. Among the calls that concern a key are the
edges of its character, and one tick comes after them. -/
theorem Holding.frame (holding : Holding (.fresh false holdFrames title) before h)
    (bound : ∀ d, cfg.layout.key? d = some k ↔ d.toLower = c) (touches : ∀ r ∈ rs, r.IsTouch)
    (source : Source) :
    let p := h.frame cfg source rs
    p.quit = false ∧ Holding (.fresh false holdFrames title) (before ++ [rs]) p.host ∧
      (calls p.deeds).filter (Call.concerns k) =
        (edgesOf c (h.keyboard.forFrame rs).1).map (fun edge => .ofStroke ⟨k, edge⟩) ++
          [.tick] := by
  intro p
  have paced := paced_frame holding.kept cfg source rs
  have goesOn : p.quit = false := paced.quit.trans (Terminal.any_quits_of_touches touches)
  have runsOn := Session.running_after holding.running cfg
    fun op member => (calm_inputs touches h source op member).1
  refine ⟨goesOn, ⟨?_, ?_, ?_⟩, ?_⟩
  · rw [Terminal.afterFrames_concat, ← holding.keyboard]
    exact congrArg (fun p => p.host.keyboard) (frame_eq cfg source rs h)
  · rw [paced.session]
    exact Session.kept_after holding.kept cfg _
  · rw [paced.session, goesOn, if_neg Bool.false_ne_true, Session.after_append]
    refine Session.running_after runsOn cfg fun op member => ?_
    unfold refreshOf at member
    split at member
    next =>
      rw [List.mem_singleton.mp member]
      exact ⟨rfl, rfl⟩
    next => cases member
  · -- the machine runs behind the inputs, so that the refresh of the frame ticks it
    have timed : Timed (max holdFrames 1) before h.keyboard :=
      holding.keyboard ▸ (Timed.fresh holdFrames title).afterFrames before
    rw [paced.made goesOn, if_pos runsOn, List.filter_append,
      filter_concerns_inputs timed bound touches source]
    rfl

/-- The turns of a running host that hears touches only. -/
theorem turns_held {frames : List (List Report)}
    (holding : Holding (.fresh false holdFrames title) before h)
    (bound : ∀ d, cfg.layout.key? d = some k ↔ d.toLower = c)
    (touches : ∀ rs ∈ frames, ∀ r ∈ rs, r.IsTouch) (source : Source) :
    (h.turns cfg source frames).length = frames.length ∧
      ∀ i p, (h.turns cfg source frames)[i]? = some p → ∃ rs, frames[i]? = some rs ∧
        (calls p.deeds).filter (Call.concerns k) =
          (edgesOf c (((Keyboard.fresh false holdFrames title).afterFrames
            (before ++ frames.take i)).forFrame rs).1).map (fun edge => .ofStroke ⟨k, edge⟩) ++
              [.tick] := by
  induction frames generalizing before h with
  | nil => exact ⟨rfl, fun i p isTurn => by cases isTurn⟩
  | cons rs rest ih =>
    have touchesNow := touches rs List.mem_cons_self
    have goesOn := Terminal.any_quits_of_touches touchesNow
    obtain ⟨-, holdingOn, made⟩ := holding.frame bound touchesNow source
    obtain ⟨length, later⟩ := ih holdingOn fun other member =>
      touches other (List.mem_cons_of_mem _ member)
    rw [turns_cons_of_goesOn cfg source goesOn]
    refine ⟨by simp [length], fun i p isTurn => ?_⟩
    cases i with
    | zero =>
      obtain rfl := Option.some.inj isTurn
      refine ⟨rs, rfl, ?_⟩
      rw [made, holding.keyboard, List.take_zero, List.append_nil]
    | succ i =>
      obtain ⟨reports, isFrame, seen⟩ := later i p isTurn
      refine ⟨reports, isFrame, ?_⟩
      rw [seen, List.take_succ_cons, List.append_assoc, List.singleton_append]

/-- What a machine sees of a key in frame `j` of touches. -/
structure Seen (span : Nat) (frames : List (List Report)) (k : Key) (c : Char) (j : Nat)
    (made : List Call) : Prop where
  /-- If the character was touched recently, a tick is all. -/
  quiet : RecentIn span frames c j → made.filter (Call.concerns k) = [.tick]
  /-- A press comes with the first touch and has the tick behind it. -/
  press : .press k ∈ made → TouchedIn frames c j ∧ ¬ RecentIn span frames c j ∧
    ∃ front, .press k ∉ front ∧ made.filter (Call.concerns k) = front ++ [.press k, .tick]
  /-- The release comes first when the time since the last touch is over. -/
  release : (∃ t, t + span = j ∧ TouchedIn frames c t) → ¬ RecentIn span frames c j →
    ∃ back, made.filter (Call.concerns k) = .release k :: back

theorem seen_of_turn {frames : List (List Report)}
    (holding : Holding (.fresh false holdFrames title) before h)
    (bound : ∀ d, cfg.layout.key? d = some k ↔ d.toLower = c)
    (touches : ∀ rs ∈ frames, ∀ r ∈ rs, r.IsTouch) {source : Source} {i : Nat} {p : Progress M D}
    (isTurn : (h.turns cfg source frames)[i]? = some p) :
    Seen (max holdFrames 1) (before ++ frames) k c (before.length + i) (calls p.deeds) := by
  obtain ⟨rs, isFrame, seen⟩ := (turns_held holding bound touches source).2 i p isTurn
  -- the keyboard has been through `before`, so that turn `i` is its frame `before.length + i`
  have isLater : (before ++ frames)[before.length + i]? = some rs := by
    rw [List.getElem?_append_right (Nat.le_add_right ..), Nat.add_sub_cancel_left, isFrame]
  obtain ⟨told, expired, answered, isTold, edges, isExpired, isAnswered⟩ :=
    Terminal.edgesOf_frame holdFrames title c isLater
  rw [Keyboard.getElem?_commandsOf, isLater, Option.map_some, List.take_length_add_append,
    Option.some.injEq] at isTold
  rw [isTold, edges] at seen
  have touched {edge : Edge} (answers : answered = some edge) :
      edge = .pressed ∧ TouchedIn (before ++ frames) c (before.length + i) ∧
        ¬ RecentIn (max holdFrames 1) (before ++ frames) c (before.length + i) := by
    obtain ⟨first, notRecent⟩ := (isAnswered edge).mp answers
    refine ⟨Terminal.firstEdge?_of_touches (touches rs (List.mem_of_getElem? isFrame)) first,
      ⟨rs, isLater, ?_⟩, notRecent⟩
    rw [← Terminal.firstEdge?_isSome, first, Option.isSome_some]
  refine ⟨fun recent => ?_, fun pressed => ?_, fun due notRecent => ?_⟩
  · have noRelease : expired = none := by
      rw [Option.eq_none_iff_forall_ne_some]
      exact fun edge expires => ((isExpired edge).mp expires).2.2 recent
    have noPress : answered = none := by
      rw [Option.eq_none_iff_forall_ne_some]
      exact fun edge answers => (touched answers).2.2 recent
    rw [seen, noRelease, noPress]
    rfl
  · have unpressed : .press k ∉ expired.toList.map fun edge => Call.ofStroke ⟨k, edge⟩ := by
      rw [List.mem_map]
      rintro ⟨edge, expires, isPress⟩
      obtain rfl := ((isExpired edge).mp (Option.mem_toList.mp expires)).1
      cases isPress
    have isSeen : .press k ∈ (calls p.deeds).filter (Call.concerns k) :=
      List.mem_filter.mpr ⟨pressed, by simp [Call.concerns]⟩
    rw [seen, List.map_append, List.append_assoc, List.mem_append] at isSeen
    have answers : answered = some .pressed := by
      cases answered with
      | none => simp [unpressed] at isSeen
      | some edge => rw [(touched rfl).1]
    obtain ⟨-, now, notRecent⟩ := touched answers
    refine ⟨now, notRecent, _, unpressed, ?_⟩
    rw [seen, answers, List.map_append, List.append_assoc]
    rfl
  · have expires := (isExpired .released).mpr ⟨rfl, due, notRecent⟩
    exact ⟨_, by rw [seen, expires]; rfl⟩

omit [Machine M] [Display D] in
/-- Turns in which all that concerns a key is a tick make a row of ticks. -/
theorem filter_concerns_turns {turns : List (Progress M D)}
    (quiet : ∀ p ∈ turns, (calls p.deeds).filter (Call.concerns k) = [.tick]) :
    (turns.flatMap fun p => calls p.deeds).filter (Call.concerns k) =
      List.replicate turns.length .tick := by
  induction turns with
  | nil => rfl
  | cons p turns ih =>
    rw [List.flatMap_cons, List.filter_append, quiet p List.mem_cons_self,
      ih fun other member => quiet other (List.mem_cons_of_mem _ member)]
    rfl

omit [Machine M] [Display D] in
/-- So do the turns behind one and before another. -/
theorem filter_concerns_between {turns : List (Progress M D)} {i stop : Nat}
    (quiet : ∀ j q, i < j → j < stop → turns[j]? = some q →
      (calls q.deeds).filter (Call.concerns k) = [.tick]) :
    (((turns.take stop).drop (i + 1)).flatMap fun p => calls p.deeds).filter (Call.concerns k) =
      List.replicate (min stop turns.length - (i + 1)) .tick := by
  rw [filter_concerns_turns, List.length_drop, List.length_take]
  intro q member
  obtain ⟨n, isTurn⟩ := List.mem_iff_getElem?.mp member
  rw [List.getElem?_drop, List.getElem?_take] at isTurn
  split at isTurn
  next sooner => exact quiet _ q (by omega) sooner isTurn
  next => cases isTurn

namespace Seen

variable {span j : Nat} {frames : List (List Report)} {made : List Call}

/-- Behind a press there is the tick of its frame. -/
theorem behind_press (seen : Seen span frames k c j made) {first rest : List Call}
    (isCall : made = first ++ .press k :: rest) : rest.filter (Call.concerns k) = [.tick] := by
  obtain ⟨-, -, front, unpressed, isSeen⟩ := seen.press (by simp [isCall])
  rw [isCall, List.filter_append, List.filter_cons_of_pos (by simp [Call.concerns])] at isSeen
  have once : Call.press k ∉ [.tick] := by simp
  exact ((List.append_cons_inj_of_notMem unpressed once).mp isSeen.symm).2.2.symm

/-- Before a release that is due there is nothing that concerns the key. -/
theorem before_release (seen : Seen span frames k c j made)
    (due : ∃ t, t + span = j ∧ TouchedIn frames c t) (notRecent : ¬ RecentIn span frames c j) :
    ∃ start finish, made = start ++ .release k :: finish ∧
      start.filter (Call.concerns k) = [] := by
  obtain ⟨back, released⟩ := seen.release due notRecent
  obtain ⟨start, finish, isCall, unseen, -, -⟩ := List.filter_eq_cons_iff.mp released
  exact ⟨start, finish, isCall, List.filter_eq_nil_iff.mpr unseen⟩

end Seen

/-- How long a running machine sees a key down whose one character is held on a terminal that
reports no releases. The machine gets the calls of every frame. A press of the key comes with a
touch of its character. If the hold is renewed for the last time in frame `m`, the key is released
in frame `m + span`, unless the frames stop before. In between it is neither pressed nor released,
and the machine ticks once for every frame from that of the press on, that of the release
excepted. -/
theorem ticks_while_held (cfg : Config) (source : Source) (machine : M) (display : D)
    (ops : List Operation) (holdFrames : Nat) (title : Option String)
    (lead frames : List (List Report)) (k : Key) (c : Char)
    (running : (after cfg ops (fresh cfg machine display)).desk.transport.state = .running)
    (bound : ∀ d, cfg.layout.key? d = some k ↔ d.toLower = c)
    (touches : ∀ rs ∈ frames, ∀ r ∈ rs, r.IsTouch) :
    let h : Host M D := ⟨after cfg ops (fresh cfg machine display),
      (Keyboard.fresh false holdFrames title).afterFrames lead⟩
    let span := max holdFrames 1
    let turns := h.turns cfg source frames
    turns.length = frames.length ∧
    (∀ i p, turns[i]? = some p → p.host.session.machine =
      Machine.afterCalls (calls p.deeds) (h.afterTurns (turns.take i)).session.machine) ∧
    ∀ i p first rest, turns[i]? = some p → calls p.deeds = first ++ .press k :: rest →
      TouchedIn frames c i ∧ (∃ m, HoldEnds span frames c i m) ∧
      ∀ m, HoldEnds span frames c i m →
        (∀ q, turns[m + span]? = some q → ∃ start finish,
          calls q.deeds = start ++ .release k :: finish ∧
          let between := rest ++ ((turns.take (m + span)).drop (i + 1)).flatMap
            (fun p => calls p.deeds) ++ start
          .press k ∉ between ∧ .release k ∉ between ∧ between.count .tick = m - i + span) ∧
        (turns.length ≤ m + span →
          let later := rest ++ (turns.drop (i + 1)).flatMap (fun p => calls p.deeds)
          .press k ∉ later ∧ .release k ∉ later) := by
  intro h span turns
  have kept : h.session.desk.transport.Kept := Session.kept_after_fresh cfg machine display ops
  have holding : Holding (.fresh false holdFrames title) lead h := ⟨rfl, kept, running⟩
  refine ⟨(turns_held holding bound touches source).1,
    fun i p isTurn => (effects_turn (eq_append_of_getElem? isTurn)).machine, ?_⟩
  intro i p first rest isTurn made
  have seen {j : Nat} {q : Progress M D} (isTurn : turns[j]? = some q) :
      Seen span (lead ++ frames) k c (lead.length + j) (calls q.deeds) :=
    seen_of_turn holding bound touches isTurn
  have behind := (seen isTurn).behind_press made
  have touched : TouchedIn frames c i := by
    rw [← Terminal.touchedIn_append lead]
    exact ((seen isTurn).press (by simp [made])).1
  refine ⟨touched, Terminal.exists_holdEnds span frames c i, fun m ends => ?_⟩
  -- up to `m + span` every frame behind that of the press finds the character touched recently
  have quiet : ∀ j q, i < j → j < m + span → turns[j]? = some q →
      (calls q.deeds).filter (Call.concerns k) = [.tick] := by
    intro j q later sooner isTurn
    have recent := Terminal.recentIn_of_chain touched ends.chain later sooner
    exact (seen isTurn).quiet (recent.append_left lead)
  have segment := filter_concerns_between quiet
  have notBefore : i ≤ m := Terminal.le_of_chain ends.chain
  constructor
  · intro q isLast
    have due : ∃ t, t + span = lead.length + (m + span) ∧ TouchedIn (lead ++ frames) c t := by
      have last := Terminal.touchedIn_of_chain touched ends.chain
      exact ⟨lead.length + m, by omega, (Terminal.touchedIn_append lead frames c m).mpr last⟩
    obtain ⟨start, finish, isCall, unseen⟩ :=
      (seen isLast).before_release due (ends.not_recentIn lead)
    refine ⟨start, finish, isCall, ?_⟩
    intro between
    have inRange : m + span < turns.length := (List.getElem?_eq_some_iff.mp isLast).1
    have spanned : 0 < span := Nat.lt_of_lt_of_le Nat.one_pos (Nat.le_max_right holdFrames 1)
    have count : min (m + span) turns.length - (i + 1) + 1 = m - i + span := by omega
    apply ticks_of_filter_concerns
    rw [← count, List.filter_append, List.filter_append, behind, segment, unseen,
      List.append_nil, List.singleton_append, List.replicate_succ]
  · intro stops later
    rw [List.take_of_length_le stops] at segment
    have ticks : later.filter (Call.concerns k) =
        List.replicate (min (m + span) turns.length - (i + 1) + 1) .tick := by
      rw [List.filter_append, behind, segment, List.singleton_append, List.replicate_succ]
    obtain ⟨unpressed, unreleased, -⟩ := ticks_of_filter_concerns ticks
    exact ⟨unpressed, unreleased⟩

end Frames

/-- Two letters, each the one of a key. -/
def letters : Config :=
  { resolution := ⟨2, 1⟩, pixelSize := 1, layout := .ofPairs [('q', 4), ('w', 5)] }

/-- The letter `q` goes down and is renewed once. -/
def renewed : List (List Report) :=
  [[.key { code := .char 'q' }], [.key { code := .char 'Q', phase := .again }], [], []]

/-- Held for two frames at a time, the key is seen down by three ticks. The letter `w`, which was
touched before, comes up in the meantime. -/
theorem ticks_renewed :
    let machine : StandIn.Marching := { frame := #[0, 0] }
    let s := after letters [.handle .playPause] (fresh letters machine ({} : StandIn.Monitor))
    let lead : List (List Report) := [[.key { code := .char 'w' }]]
    let h : Host _ _ := ⟨s, (Keyboard.fresh false 2 none).afterFrames lead⟩
    let turns := h.turns letters (.ofPrograms []) renewed
    s.desk.transport.state = .running ∧
      (∀ d, letters.layout.key? d = some 4 ↔ d.toLower = 'q') ∧
      (∀ rs ∈ renewed, ∀ r ∈ rs, r.IsTouch) ∧
      (turns.map fun p => calls p.deeds) =
        [[.press 4, .tick], [.release 5, .tick], [.tick], [.release 4, .tick]] ∧
      (turns.map fun p => (p.host.session.machine.keysDown, p.host.session.machine.ticks)) =
        [([4], 1), ([4], 2), ([4], 3), ([], 4)] ∧
      (∀ i p, turns[i]? = some p → p.host.session.machine =
        Machine.afterCalls (calls p.deeds) (h.afterTurns (turns.take i)).session.machine) ∧
      HoldEnds 2 renewed 'q' 0 1 ∧
      ∃ start finish, [Call.release 4, .tick] = start ++ .release 4 :: finish ∧
        ([Call.tick] ++ ((turns.take 3).drop 1).flatMap (fun p => calls p.deeds) ++ start).count
          .tick = 3 := by
  intro machine s lead h turns
  have running : s.desk.transport.state = .running := by decide +kernel
  have bound : ∀ d, letters.layout.key? d = some 4 ↔ d.toLower = 'q' := by
    intro d
    have lookup : letters.layout.key? d =
        if d.toLower = 'w' then some 5 else if d.toLower = 'q' then some 4 else none := by
      simp [letters, Layout.ofPairs, Layout.bindLine, Key.ofLine?, Layout.key?_bind]
    rw [lookup]
    by_cases isW : d.toLower = 'w'
    · simp [isW]
    · simp [isW]
  have touches : ∀ rs ∈ renewed, ∀ r ∈ rs, r.IsTouch := by
    simp [renewed, Report.IsTouch, Report.strike?]
  have made : (turns.map fun p => calls p.deeds) =
      [[.press 4, .tick], [.release 5, .tick], [.tick], [.release 4, .tick]] := by decide +kernel
  have ends : HoldEnds 2 renewed 'q' 0 1 := by
    refine ⟨.single ⟨by decide, by decide, _, rfl, by decide⟩, ?_⟩
    rintro b ⟨later, sooner, rs, isFrame, touched⟩
    obtain rfl : b = 2 := by omega
    cases isFrame
    cases touched
  obtain ⟨p, isFirst, pressed⟩ := Option.map_eq_some_iff.mp
    ((List.getElem?_map ..).symm.trans (congrArg (·[0]?) made))
  obtain ⟨q, isLast, released⟩ := Option.map_eq_some_iff.mp
    ((List.getElem?_map ..).symm.trans (congrArg (·[3]?) made))
  obtain ⟨-, reached, held⟩ := ticks_while_held letters (.ofPrograms []) machine
    ({} : StandIn.Monitor) [.handle .playPause] 2 none lead renewed 4 'q' running bound touches
  obtain ⟨start, finish, isCall, -, -, ticks⟩ :=
    ((held 0 p [] [.tick] isFirst pressed).2.2 1 ends).1 q isLast
  exact ⟨running, bound, touches, made, by decide +kernel, reached, ends, start, finish,
    released.symm.trans isCall, ticks⟩

end Host

end HexPlayer
