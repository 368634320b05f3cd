import HexPlayer.Proofs.Session.Motion
import HexPlayer.StandIn.Machines

/-!
# Strokes and key lines

A key edge of the host whose character has a key goes to the machine as one call, and no other
operation presses or releases a key. The lamps follow the same strokes. A machine lets go of its
keys in a reset, of which the lamps know nothing, so that lamp and line of a key part after a press
that a reset followed, and at no other time.
-/

namespace HexPlayer

/-- The stroke that a call passes on, if it passes one on. -/
def Call.stroke? : Call → Option Stroke
  | .press key => some ⟨key, .pressed⟩
  | .release key => some ⟨key, .released⟩
  | .reset | .load _ | .tick => none

@[simp]
theorem Call.stroke?_ofStroke (s : Stroke) : (Call.ofStroke s).stroke? = some s := by
  obtain ⟨key, edge⟩ := s
  cases edge <;> rfl

/-- Whether a key is down after a stroke. -/
def Stroke.drive (k : Key) (down : Bool) (s : Stroke) : Bool :=
  if s.key = k then s.edge == .pressed else down

theorem Lamps.isOn_register_eq (l : Lamps) (s : Stroke) (k : Key) :
    (l.register s).isOn k = s.drive k (l.isOn k) := by
  simp only [isOn_register, Stroke.drive, eq_comm]

namespace StandIn.Marching

theorem mem_keysDown {m : Marching} {k : Key} : k ∈ m.keysDown ↔ m.keys.get k = true := by
  simp [keysDown, Key.mem_all]

/-- A stroke drives the line of its key. -/
theorem get_keys_call_ofStroke (m : Marching) (s : Stroke) (k : Key) :
    (Machine.call (.ofStroke s) m).keys.get k = s.drive k (m.keys.get k) := by
  obtain ⟨key, edge⟩ := s
  have written (down : Bool) : (m.keys.setIfInBounds key down).get k =
      if key = k then down else m.keys.get k := by
    change (m.keys.setIfInBounds key down)[k] = if key = k then down else m.keys[k]
    simp only [Fin.getElem_fin, Vector.getElem_setIfInBounds, Fin.ext_iff]
  cases edge with
  | pressed => exact written true
  | released => exact written false

/-- A reset lets go of all keys. -/
theorem get_keys_call_reset (m : Marching) (k : Key) :
    (Machine.call .reset m).keys.get k = false := by
  change (Vector.replicate 16 false)[k] = false
  simp

end StandIn.Marching

namespace Session

open StandIn (Marching)

/-- The stroke that an operation makes under a layout: a key edge makes one if its character has a
key. -/
def Operation.stroke? (layout : Layout) : Operation → Option Stroke
  | .handle (.key code edge) => layout.stroke? code edge
  | _ => none

/-- The operation makes a stroke of the key. -/
def Operation.strikes (layout : Layout) (k : Key) (op : Operation) : Bool :=
  (op.stroke? layout).any fun stroke => stroke.key == k

/-- The operation resets the machine: it is a reset or selects a listed title. -/
def Operation.isReset : Operation → Bool
  | .handle .reset => true
  | op => op.isSwap

/-- The edge of the latest stroke of a key in a run. -/
def latestEdge? (layout : Layout) (k : Key) (ops : List Operation) : Option Edge :=
  ((ops.filterMap (Operation.stroke? layout)).filter fun stroke => stroke.key == k).getLast?.map
    Stroke.edge

/-- The operations of a run behind the latest stroke of a key. -/
def behindLatest (layout : Layout) (k : Key) (ops : List Operation) : List Operation :=
  ops.rtakeWhile fun op => !op.strikes layout k

/-- The strokes that were passed on to the machine. -/
def strokes (deeds : List Deed) : List Stroke := (calls deeds).filterMap Call.stroke?

@[simp]
theorem strokes_append (first second : List Deed) :
    strokes (first ++ second) = strokes first ++ strokes second := by
  simp [strokes]

/-- A step passes on the stroke that it makes, and the lamps register it. -/
theorem Takes.stroke {cfg : Config} {d : Desk} {step : Step} {decision : Decision}
    (takes : Takes cfg d step decision) :
    (callsOf decision.acts).filterMap Call.stroke? =
        (step.operation.stroke? cfg.layout).toList ∧
      decision.desk.lamps =
        (step.operation.stroke? cfg.layout).elim d.lamps d.lamps.register := by
  cases takes with
  | ignored unmapped => simp [Step.operation, Operation.stroke?, unmapped]
  | struck mapped => simp [Step.operation, Operation.stroke?, mapped]
  | _ => exact ⟨rfl, rfl⟩

/-- A step drives the key lines of the marching machine: a reset lets go of all keys, and a stroke
drives the line of its key. -/
theorem Takes.keys {cfg : Config} {d : Desk} {step : Step} {decision : Decision}
    (takes : Takes cfg d step decision) (m : Marching) (k : Key) :
    (Machine.afterCalls (callsOf decision.acts) m).keys.get k =
      if step.operation.isReset then false
      else (step.operation.stroke? cfg.layout).elim (m.keys.get k)
        (Stroke.drive k (m.keys.get k)) := by
  cases takes with
  | ignored unmapped =>
    simp [Step.operation, Operation.stroke?, Operation.isReset, Operation.isSwap, unmapped]
  | struck mapped =>
    simp [Step.operation, Operation.stroke?, Operation.isReset, Operation.isSwap, mapped,
      Marching.get_keys_call_ofStroke]
  | resetDrawn redraw => exact m.get_keys_call_reset k
  | resetUndrawn redraw => exact m.get_keys_call_reset k
  | selectedNothing =>
    simp [Step.operation, Operation.stroke?, Operation.isReset, Operation.isSwap, isListed_empty]
  | selectedUnlisted nonempty unlisted =>
    simp [Step.operation, Operation.stroke?, Operation.isReset, Operation.isSwap, unlisted]
  | selected listed =>
    simp [Step.operation, Operation.isReset, Operation.isSwap, listed,
      Marching.get_keys_call_reset]
  | _ => rfl

/-- Quiet acts pass no stroke on, and leave the key lines of the marching machine as they are. -/
theorem strokes_of_isQuiet {acts : List Act} (quiet : ∀ act ∈ acts, act.isQuiet = true) :
    (callsOf acts).filterMap Call.stroke? = [] ∧
      ∀ m : Marching, (Machine.afterCalls (callsOf acts) m).keys = m.keys := by
  induction acts with
  | nil => exact ⟨rfl, fun _ => rfl⟩
  | cons act acts ih =>
    have isQuiet := quiet act List.mem_cons_self
    have later := ih fun other member => quiet other (List.mem_cons_of_mem _ member)
    cases act with
    | call made =>
      cases made with
      | load program => exact later
      | _ => cases isQuiet
    | record entry => exact later
    | _ => cases isQuiet

section History

variable {layout : Layout} {k : Key} {ops : List Operation} {op : Operation}

theorem latestEdge?_concat :
    latestEdge? layout k (ops ++ [op]) =
      ((op.stroke? layout).filter fun stroke => stroke.key == k).elim (latestEdge? layout k ops)
        fun stroke => some stroke.edge := by
  cases struck : op.stroke? layout with
  | none => simp [latestEdge?, List.filterMap_append, struck]
  | some stroke =>
    by_cases same : stroke.key = k <;>
      simp [latestEdge?, List.filterMap_append, struck, same, Option.filter]

/-- A stroke of the key is the latest one, and nothing is behind it. -/
theorem behindLatest_concat :
    behindLatest layout k (ops ++ [op]) =
      if op.strikes layout k then [] else behindLatest layout k ops ++ [op] := by
  cases struck : op.strikes layout k <;> simp [behindLatest, struck]

/-- An operation that makes a stroke does not reset the machine. -/
theorem isReset_of_stroke {stroke : Stroke} (struck : op.stroke? layout = some stroke) :
    op.isReset = false := by
  cases op with
  | handle event => cases event <;> first | rfl | cases struck
  | _ => cases struck

end History

section Operate

variable {M D : Type} [Machine M] [Display D]

/-- The acts of serving the whole outbox are quiet. -/
theorem calls_serveAll (cfg : Config) (source : Cartridge.Source) (s : Session M D) :
    ∃ acts : List Act, (∀ act ∈ acts, act.isQuiet = true) ∧
      calls (s.operate cfg (.serveAll source)).deeds = callsOf acts := by
  have made := calls_deeds cfg [.serveAll source] s
  rw [deeds_cons, deeds_nil, List.append_nil] at made
  refine ⟨_, ?_, made⟩
  rw [Desk.actsOfRun, unroll, unroll, List.append_nil]
  exact isQuiet_acts cfg (fun _ => serves_of_mem_steps) s.desk

/-- An operation passes on the stroke that it makes. -/
theorem strokes_operate (cfg : Config) (s : Session M D) (op : Operation) :
    strokes (s.operate cfg op).deeds = (op.stroke? cfg.layout).toList := by
  rcases operation_eq op with ⟨step, rfl⟩ | ⟨source, rfl⟩
  · rw [strokes, calls_operate]
    exact (takes_take cfg s.desk step).stroke.1
  · obtain ⟨acts, quiet, made⟩ := calls_serveAll cfg source s
    rw [strokes, made]
    exact (strokes_of_isQuiet quiet).1

/-- The lamps register the stroke that an operation makes. -/
theorem lamps_operate (cfg : Config) (s : Session M D) (op : Operation) :
    (s.operate cfg op).session.desk.lamps =
      (op.stroke? cfg.layout).elim s.desk.lamps s.desk.lamps.register := by
  rcases operation_eq op with ⟨step, rfl⟩ | ⟨source, rfl⟩
  · rw [operate_operation, desk_follow]
    exact (takes_take cfg s.desk step).stroke.2
  · exact (sameFront_serveAll cfg source s).lamps

/-- The strokes that a run passes on are those that its operations make. -/
theorem strokes_deeds (cfg : Config) (ops : List Operation) (s : Session M D) :
    strokes (deeds cfg ops s) = ops.filterMap (Operation.stroke? cfg.layout) := by
  induction ops generalizing s with
  | nil => rfl
  | cons op ops ih =>
    rw [deeds_cons, strokes_append, strokes_operate, ih, List.filterMap_cons]
    cases op.stroke? cfg.layout <;> rfl

/-- The key lines of the marching machine after an operation. -/
theorem keys_operate (cfg : Config) (s : Session Marching D) (op : Operation) (k : Key) :
    (s.operate cfg op).session.machine.keys.get k =
      if op.isReset then false
      else (op.stroke? cfg.layout).elim (s.machine.keys.get k)
        (Stroke.drive k (s.machine.keys.get k)) := by
  rw [(effects_operate cfg s op).machine]
  rcases operation_eq op with ⟨step, rfl⟩ | ⟨source, rfl⟩
  · rw [calls_operate]
    exact (takes_take cfg s.desk step).keys s.machine k
  · obtain ⟨acts, quiet, made⟩ := calls_serveAll cfg source s
    rw [made, (strokes_of_isQuiet quiet).2]
    rfl

/-- A lamp is lit after a run exactly if the latest stroke of its key is a press. -/
theorem isOn_after (cfg : Config) (machine : M) (display : D) (ops : List Operation) (k : Key) :
    (after cfg ops (fresh cfg machine display)).desk.lamps.isOn k = true ↔
      latestEdge? cfg.layout k ops = some .pressed := by
  induction ops using List.reverseRecOn with
  | nil => simp [fresh, latestEdge?]
  | append_singleton ops op ih =>
    rw [after_append, after_cons, after_nil, lamps_operate, latestEdge?_concat]
    cases op.stroke? cfg.layout with
    | none => exact ih
    | some stroke =>
      rw [Option.elim_some, Lamps.isOn_register_eq, Stroke.drive]
      by_cases same : stroke.key = k
      · simp [same, Option.filter]
      · simpa [same, Option.filter] using ih

/-- A key of the marching machine is down after a run exactly if its latest stroke is a press and no
reset came behind it. -/
theorem mem_keysDown_after (cfg : Config) {machine : Marching} (released : machine.keysDown = [])
    (display : D) (ops : List Operation) (k : Key) :
    k ∈ (after cfg ops (fresh cfg machine display)).machine.keysDown ↔
      latestEdge? cfg.layout k ops = some .pressed ∧
        ∀ op ∈ behindLatest cfg.layout k ops, op.isReset = false := by
  induction ops using List.reverseRecOn with
  | nil =>
    have isUp : k ∉ machine.keysDown := by simp [released]
    simpa [fresh, latestEdge?] using isUp
  | append_singleton ops op ih =>
    rw [Marching.mem_keysDown] at ih ⊢
    rw [after_append, after_cons, after_nil, keys_operate, latestEdge?_concat, behindLatest_concat]
    cases struck : op.stroke? cfg.layout with
    | none =>
      have unstruck : op.strikes cfg.layout k = false := by simp [Operation.strikes, struck]
      cases resets : op.isReset with
      | true => simp [unstruck, resets]
      | false => simpa [unstruck, resets, or_imp, forall_and] using ih
    | some stroke =>
      -- a stroke resets nothing, so that only its own key is driven
      have noReset := isReset_of_stroke struck
      rw [noReset, Option.elim_some, Stroke.drive]
      by_cases same : stroke.key = k
      · simp [Operation.strikes, struck, same, Option.filter]
      · simpa [Operation.strikes, struck, same, noReset, Option.filter, or_imp, forall_and] using ih

/-- The key lines in a run of a fresh session, whatever machine and display do. The machine gets the
calls of the run, and among them the strokes that the operations make, in order, one call for each;
no other operation passes one on.
A lamp is lit exactly if the latest stroke of its key is a press. On the marching machine, which
lets go of its keys in a reset, a key that is down has its lamp lit, and key and lamp differ exactly
if the latest stroke of the key is a press and a reset came behind it. -/
theorem lines_follow_strokes (cfg : Config) (machine : M) (display : D) (ops : List Operation) :
    let s := fresh cfg machine display
    (after cfg ops s).machine = Machine.afterCalls (calls (deeds cfg ops s)) machine ∧
    strokes (deeds cfg ops s) = ops.filterMap (Operation.stroke? cfg.layout) ∧
    (∀ stage ∈ stages cfg ops s,
      stage.outcome.session.machine =
          Machine.afterCalls (calls stage.outcome.deeds) stage.before.machine ∧
        strokes stage.outcome.deeds = (stage.operation.stroke? cfg.layout).toList) ∧
    (∀ k, (after cfg ops s).desk.lamps.isOn k = true ↔
      latestEdge? cfg.layout k ops = some .pressed) ∧
    ∀ marching : Marching, marching.keysDown = [] → ∀ k,
      let t := after cfg ops (fresh cfg marching display)
      (k ∈ t.machine.keysDown → t.desk.lamps.isOn k = true) ∧
        (¬ (k ∈ t.machine.keysDown ↔ t.desk.lamps.isOn k = true) ↔
          latestEdge? cfg.layout k ops = some .pressed ∧
            ∃ op ∈ behindLatest cfg.layout k ops, op.isReset = true) := by
  intro s
  refine ⟨machine_after cfg ops s, strokes_deeds cfg ops s,
    fun stage member => ⟨(effects_of_mem_stages member).machine, ?_⟩,
    isOn_after cfg machine display ops, fun marching released k => ?_⟩
  · obtain ⟨before, op, rest, -, rfl⟩ := exists_of_mem_stages member
    exact strokes_operate cfg _ op
  · intro t
    have lamp : t.desk.lamps.isOn k = true ↔ latestEdge? cfg.layout k ops = some .pressed :=
      isOn_after cfg marching display ops k
    have line : k ∈ t.machine.keysDown ↔ latestEdge? cfg.layout k ops = some .pressed ∧
        ∀ op ∈ behindLatest cfg.layout k ops, op.isReset = false :=
      mem_keysDown_after cfg released display ops k
    rw [lamp, line]
    refine ⟨And.left, ?_⟩
    by_cases pressed : latestEdge? cfg.layout k ops = some .pressed
    · simp [pressed]
    · simp [pressed]

end Operate

/-- Two characters for key three and one for key four. -/
def shared : Config :=
  { resolution := ⟨2, 1⟩, pixelSize := 1, layout := .ofPairs [('a', 3), ('b', 3), ('c', 4)] }

/-- Key three goes down, comes up and goes down again under two characters, then a title is selected
and key four goes down. -/
def chording : List Operation :=
  [.boot, .handle (.key 'a' .pressed), .handle (.key 'b' .released), .handle (.key 'B' .pressed),
    .handle (.select "TETRIS"), .handle (.key 'c' .pressed), .handle (.key 'z' .released)]

/-- On a display that fails throughout, the selection lets go of key three, whose lamp stays lit. -/
theorem lines_chording :
    let machine : Marching := { frame := #[0, 0] }
    let s := fresh shared machine ({ failing := true } : StandIn.Monitor)
    let t := after shared chording s
    machine.keysDown = [] ∧
      strokes (deeds shared chording s) =
        [⟨3, .pressed⟩, ⟨3, .released⟩, ⟨3, .pressed⟩, ⟨4, .pressed⟩] ∧
      t.machine.keysDown = [4] ∧ t.desk.lamps.litKeys = [3, 4] ∧
      latestEdge? shared.layout 3 chording = some .pressed ∧
      ∃ op ∈ behindLatest shared.layout 3 chording, op.isReset = true := by
  intro machine s t
  have released : machine.keysDown = [] := by decide
  obtain ⟨-, passed, -, -, marching⟩ :=
    lines_follow_strokes shared machine ({ failing := true } : StandIn.Monitor) chording
  have down : t.machine.keysDown = [4] := by decide +kernel
  have lit : t.desk.lamps.litKeys = [3, 4] := by decide +kernel
  have isLit : t.desk.lamps.isOn 3 = true := Lamps.mem_litKeys.mp (by simp [lit])
  have differs := (marching machine released 3).2.mp (by rw [down, isLit]; decide)
  exact ⟨released, passed.trans (by decide +kernel), down, lit, differs⟩

end Session

end HexPlayer
