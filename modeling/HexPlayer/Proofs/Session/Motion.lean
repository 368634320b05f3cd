import HexPlayer.Proofs.Session.Recording
import HexPlayer.Proofs.Session.Serving
import HexPlayer.StandIn.Monitor
import Mathlib.Algebra.Ring.Parity
import Mathlib.Data.List.DropRight
import Mathlib.Data.List.Induction

/-!
# What moves the machine

Whether a session runs, whether a refresh is due and when the machine ticks can all be read off the
history of operations, whatever the devices do. `Clocked` ties the transport to the stages before
it, and `count_tick_operate` says which operation ticks the machine; from the two follow the totals
of a run.
-/

namespace HexPlayer

/-- The other run state. -/
def RunState.toggled : RunState → RunState
  | .stopped => .running
  | .running => .stopped

theorem RunState.toggled_eq_running_iff {state : RunState} :
    state.toggled = .running ↔ state ≠ .running := by
  cases state <;> decide

/-- While the session runs, a refresh is due. -/
def Transport.Kept (t : Transport) : Prop := t.state = .running → t.refreshDue = true

namespace Session

/-- The operation is a play/pause. -/
def Operation.isToggle : Operation → Bool
  | .handle .playPause => true
  | _ => false

/-- The operation selects a listed title. -/
def Operation.isSwap : Operation → Bool
  | .handle (.select title) => Catalog.isListed title
  | _ => false

/-- The operation is a refresh. -/
def Operation.isRefresh : Operation → Bool
  | .handle .refresh => true
  | _ => false

/-- The operation is a single step. -/
def Operation.isSingleStep : Operation → Bool
  | .handle .step => true
  | _ => false

theorem isRefresh_iff {op : Operation} : op.isRefresh = true ↔ op = .handle .refresh := by
  unfold Operation.isRefresh
  split
  next => simp
  next notRefresh => simpa using notRefresh

variable {M D : Type}

namespace Stage

/-- The run state that the operation of a stage meets. -/
def state (stage : Stage M D) : RunState := stage.before.desk.transport.state

/-- A play/pause starts the session. -/
def isStart (stage : Stage M D) : Bool := stage.operation.isToggle && stage.state == .stopped

/-- A refresh finds the session stopped. -/
def isRest (stage : Stage M D) : Bool := stage.operation.isRefresh && stage.state == .stopped

/-- A refresh finds the session running, or a single step finds it stopped. -/
def isAdvance (stage : Stage M D) : Bool :=
  stage.operation.isRefresh && stage.state == .running ||
    stage.operation.isSingleStep && stage.state == .stopped

end Stage

/-- What an operation does to the transport. -/
def Operation.turn (t : Transport) : Operation → Transport
  | .handle .playPause => if t.state = .stopped then ⟨.running, true⟩ else ⟨.stopped, t.refreshDue⟩
  | .handle .refresh => ⟨t.state, t.state == .running⟩
  | .handle (.select title) => if Catalog.isListed title then ⟨.stopped, t.refreshDue⟩ else t
  | _ => t

theorem Takes.transport {cfg : Config} {d : Desk} {step : Step} {decision : Decision}
    (takes : Takes cfg d step decision) :
    decision.desk.transport = step.operation.turn d.transport := by
  cases takes with
  | refreshed running => simp [Step.operation, Operation.turn, running]
  | rested stopped => simp [Step.operation, Operation.turn, stopped]
  | started stopped => simp [Step.operation, Operation.turn, stopped]
  | paused running => simp [Step.operation, Operation.turn, running]
  | selectedNothing => simp [Step.operation, Operation.turn, isListed_empty]
  | selectedUnlisted nonempty unlisted => simp [Step.operation, Operation.turn, unlisted]
  | selected listed => simp [Step.operation, Operation.turn, listed]
  | _ => rfl

/-- The ticks among the acts of a step. -/
theorem Takes.count_tick {cfg : Config} {d : Desk} {step : Step} {decision : Decision}
    (takes : Takes cfg d step decision) :
    (callsOf decision.acts).count .tick =
      if step.operation.isRefresh && d.transport.state == .running ||
          step.operation.isSingleStep && d.transport.state == .stopped then 1 else 0 := by
  cases takes with
  | @struck code edge stroke mapped =>
    cases edge : stroke.edge <;>
      simp [Call.ofStroke, edge, Step.operation, Operation.isRefresh, Operation.isSingleStep]
  | refreshed running => simp [Step.operation, Operation.isRefresh, running]
  | rested stopped =>
    simp [Step.operation, Operation.isRefresh, Operation.isSingleStep, stopped]
  | stepped stopped => simp [Step.operation, Operation.isSingleStep, stopped]
  | ranOn running =>
    simp [Step.operation, Operation.isRefresh, Operation.isSingleStep, running]
  | _ => rfl

/-- Quiet acts do not tick the machine. -/
theorem count_tick_of_isQuiet {acts : List Act} (quiet : ∀ act ∈ acts, act.isQuiet = true) :
    (callsOf acts).count .tick = 0 := by
  rw [List.count_eq_zero]
  intro ticks
  obtain ⟨act, member, isTick⟩ := List.mem_filterMap.mp ticks
  have isQuiet := quiet act member
  cases act with
  | call made =>
    obtain rfl : made = .tick := Option.some.inj isTick
    cases isQuiet
  | draw action => cases isTick
  | present => cases isTick
  | record entry => cases isTick

section Operate

variable [Machine M] [Display D]

/-- A step makes the calls among its acts. -/
theorem calls_operate (cfg : Config) (s : Session M D) (step : Step) :
    calls (s.operate cfg step.operation).deeds = callsOf (s.desk.take cfg step).acts := by
  rw [operate_operation]
  exact calls_performAll cfg _ _

/-- The transport after an operation. -/
theorem transport_operate (cfg : Config) (s : Session M D) (op : Operation) :
    (s.operate cfg op).session.desk.transport = op.turn s.desk.transport := by
  rcases operation_eq op with ⟨step, rfl⟩ | ⟨source, rfl⟩
  · rw [operate_operation, desk_follow]
    exact (takes_take cfg s.desk step).transport
  · exact (sameFront_serveAll cfg source s).transport

/-- An operation ticks the machine once if it is an advance, and else not at all. -/
theorem count_tick_operate (cfg : Config) (s : Session M D) (op : Operation) :
    (calls (s.operate cfg op).deeds).count .tick =
      if (⟨s, op, s.operate cfg op⟩ : Stage M D).isAdvance then 1 else 0 := by
  rcases operation_eq op with ⟨step, rfl⟩ | ⟨source, rfl⟩
  · rw [calls_operate]
    exact (takes_take cfg s.desk step).count_tick
  · have made := calls_deeds cfg [.serveAll source] s
    rw [deeds_cons, deeds_nil, List.append_nil] at made
    have quiet : ∀ act ∈ s.desk.actsOfRun cfg [.serveAll source], act.isQuiet = true := by
      rw [Desk.actsOfRun, unroll, unroll, List.append_nil]
      exact isQuiet_acts cfg (fun _ => serves_of_mem_steps) s.desk
    rw [made, count_tick_of_isQuiet quiet]
    rfl

/-- A refresh calls nothing but the tick of a session that runs. -/
theorem calls_refresh (cfg : Config) (s : Session M D) :
    calls (s.operate cfg (.handle .refresh)).deeds =
      if s.desk.transport.state = .running then [.tick] else [] := by
  have takes := takes_take cfg s.desk (.handle .refresh)
  have made := calls_operate cfg s (.handle .refresh)
  rw [Step.operation] at made
  rw [made]
  generalize s.desk.take cfg (.handle .refresh) = decision at takes ⊢
  cases takes with
  | refreshed running => simp [running]
  | rested stopped => simp [stopped]

theorem map_operation_stages (cfg : Config) (ops : List Operation) (s : Session M D) :
    (stages cfg ops s).map Stage.operation = ops := by
  induction ops generalizing s with
  | nil => rfl
  | cons op ops ih => rw [stages, List.map_cons, ih]

end Operate

/-- A selection stops the session, a play/pause turns the run state round, and nothing else changes
it. -/
theorem state_turn (t : Transport) (op : Operation) :
    (op.turn t).state =
      if op.isSwap then .stopped else if op.isToggle then t.state.toggled else t.state := by
  obtain ⟨state, due⟩ := t
  cases op with
  | handle event =>
    cases event with
    | playPause => cases state <;> rfl
    | select title =>
      cases listed : Catalog.isListed title <;>
        simp [Operation.turn, Operation.isSwap, Operation.isToggle, listed]
    | _ => rfl
  | _ => rfl

theorem kept_turn {t : Transport} (kept : t.Kept) (op : Operation) : (op.turn t).Kept := by
  obtain ⟨state, due⟩ := t
  intro runs
  cases op with
  | handle event =>
    cases event with
    | playPause => cases state <;> simp_all [Operation.turn]
    | refresh => simpa [Operation.turn] using runs
    | select title =>
      cases listed : Catalog.isListed title with
      | true => simp [Operation.turn, listed] at runs
      | false =>
        simp only [Operation.turn, listed, Bool.false_eq_true, if_false] at runs ⊢
        exact kept runs
    | _ => exact kept runs
  | _ => exact kept runs

/-- A start makes a refresh due, and a refresh that finds the session stopped ends that. -/
theorem refreshDue_turn {t : Transport} (kept : t.Kept) (op : Operation) :
    (op.turn t).refreshDue = true ↔
      (op.isToggle && t.state == .stopped) = true ∨
        t.refreshDue = true ∧ (op.isRefresh && t.state == .stopped) = false := by
  obtain ⟨state, due⟩ := t
  cases op with
  | handle event =>
    cases event with
    | playPause =>
      cases state <;> simp_all [Operation.turn, Operation.isToggle, Operation.isRefresh]
    | refresh =>
      cases state with
      | stopped => simp [Operation.turn, Operation.isToggle, Operation.isRefresh]
      | running =>
        have due := kept rfl
        simp_all [Operation.turn, Operation.isToggle, Operation.isRefresh]
    | select title =>
      cases listed : Catalog.isListed title <;>
        simp [Operation.turn, Operation.isToggle, Operation.isRefresh, listed]
    | _ => simp [Operation.turn, Operation.isToggle, Operation.isRefresh]
  | _ => simp [Operation.turn, Operation.isToggle, Operation.isRefresh]

/-- The transport as the stages before it make it: the run state goes by the play/pauses since the
last selection, and a refresh is due since a start after the last refresh that found the session
stopped. -/
structure Clocked (run : List (Stage M D)) (t : Transport) : Prop where
  running : t.state = .running ↔
    Odd (((run.map Stage.operation).rtakeWhile fun op => !op.isSwap).countP Operation.isToggle)
  due : t.refreshDue = true ↔ ∃ stage ∈ run.rtakeWhile fun stage => !stage.isRest, stage.isStart
  kept : t.Kept

namespace Clocked

theorem nil : Clocked ([] : List (Stage M D)) {} where
  running := by simp
  due := by simp
  kept := by
    intro runs
    cases runs

variable {run : List (Stage M D)} {stage : Stage M D}

theorem running_concat (clocked : Clocked run stage.before.desk.transport) :
    (stage.operation.turn stage.before.desk.transport).state = .running ↔
      Odd ((((run ++ [stage]).map Stage.operation).rtakeWhile fun op => !op.isSwap).countP
        Operation.isToggle) := by
  rw [state_turn, List.map_append, List.map_singleton, List.rtakeWhile_concat]
  cases swap : stage.operation.isSwap with
  | true => simp
  | false =>
    cases toggle : stage.operation.isToggle with
    | true =>
      simp only [Bool.not_false, if_true, Bool.false_eq_true, if_false, List.countP_append,
        List.countP_singleton, toggle, RunState.toggled_eq_running_iff]
      rw [Nat.odd_add_one, ← clocked.running]
    | false => simpa [toggle] using clocked.running

theorem due_concat (clocked : Clocked run stage.before.desk.transport) :
    (stage.operation.turn stage.before.desk.transport).refreshDue = true ↔
      ∃ other ∈ (run ++ [stage]).rtakeWhile fun stage => !stage.isRest, other.isStart := by
  rw [refreshDue_turn clocked.kept, clocked.due, List.rtakeWhile_concat]
  change (stage.isStart = true ∨ _ ∧ stage.isRest = false) ↔ _
  cases rest : stage.isRest with
  | true =>
    have notStart : stage.isStart = false := by
      have refresh := isRefresh_iff.mp (Bool.and_eq_true_iff.mp rest).1
      simp [Stage.isStart, Operation.isToggle, refresh]
    simp [notStart]
  | false => simp [or_comm, or_and_right, exists_or]

/-- One more stage keeps the transport clocked. -/
theorem concat (clocked : Clocked run stage.before.desk.transport) :
    Clocked (run ++ [stage]) (stage.operation.turn stage.before.desk.transport) where
  running := clocked.running_concat
  due := clocked.due_concat
  kept := kept_turn clocked.kept stage.operation

end Clocked

section Operate

variable [Machine M] [Display D]

/-- A run keeps the transport clocked. -/
theorem Clocked.stages {cfg : Config} {run : List (Stage M D)} {s : Session M D}
    (clocked : Clocked run s.desk.transport) (ops : List Operation) :
    Clocked (run ++ Session.stages cfg ops s) (after cfg ops s).desk.transport := by
  induction ops generalizing run s with
  | nil => simpa [Session.stages] using clocked
  | cons op ops ih =>
    let stage : Stage M D := ⟨s, op, s.operate cfg op⟩
    have before : Clocked run stage.before.desk.transport := clocked
    have next : Clocked (run ++ [stage]) (s.operate cfg op).session.desk.transport := by
      rw [transport_operate]
      exact before.concat
    have later := ih next
    rwa [List.append_assoc, List.singleton_append] at later

/-- The ticks of a run are its advances. -/
theorem count_tick_deeds (cfg : Config) (ops : List Operation) (s : Session M D) :
    (calls (deeds cfg ops s)).count .tick = (stages cfg ops s).countP Stage.isAdvance := by
  induction ops generalizing s with
  | nil => rfl
  | cons op ops ih =>
    rw [deeds_cons, calls_append, List.count_append, count_tick_operate, ih, stages,
      List.countP_cons, Nat.add_comm]

/-- While a session runs, a refresh stays due. -/
theorem kept_after {s : Session M D} (kept : s.desk.transport.Kept) (cfg : Config)
    (ops : List Operation) : (after cfg ops s).desk.transport.Kept := by
  induction ops generalizing s with
  | nil => exact kept
  | cons op ops ih =>
    apply ih
    rw [transport_operate]
    exact kept_turn kept op

theorem kept_after_fresh (cfg : Config) (machine : M) (display : D) (ops : List Operation) :
    (after cfg ops (fresh cfg machine display)).desk.transport.Kept := by
  apply kept_after
  intro runs
  cases runs

/-- Without a play/pause a stopped session stays stopped. -/
theorem stopped_after {cfg : Config} {ops : List Operation} {s : Session M D}
    (stopped : s.desk.transport.state = .stopped) (still : ∀ op ∈ ops, op.isToggle = false) :
    (after cfg ops s).desk.transport.state = .stopped := by
  induction ops generalizing s with
  | nil => exact stopped
  | cons op ops ih =>
    apply ih
    · have noToggle := still op List.mem_cons_self
      rw [transport_operate, state_turn, noToggle, stopped]
      simp
    · intro other member
      exact still other (List.mem_cons_of_mem _ member)

/-- Operations of a run are operations of its stages. -/
theorem isToggle_of_stages {cfg : Config} {ops : List Operation} {s : Session M D}
    (still : ∀ stage ∈ stages cfg ops s, stage.operation.isToggle = false) :
    ∀ op ∈ ops, op.isToggle = false := by
  intro op member
  rw [← map_operation_stages cfg ops s] at member
  obtain ⟨stage, isStage, rfl⟩ := List.mem_map.mp member
  exact still stage isStage

/-- After a selection no refresh ticks the machine until a play/pause. -/
theorem tick_not_mem_of_swap {cfg : Config} {ops : List Operation} {s : Session M D}
    {earlier between later : List (Stage M D)} {swap refresh : Stage M D}
    (split : stages cfg ops s = (earlier ++ swap :: between) ++ refresh :: later)
    (swaps : swap.operation.isSwap = true)
    (still : ∀ stage ∈ between, stage.operation.isToggle = false)
    (refreshes : refresh.operation.isRefresh = true) :
    .tick ∉ calls refresh.outcome.deeds := by
  obtain ⟨before, op, rest, -, splitBefore, rfl, -⟩ := eq_of_stages_eq split
  obtain ⟨first, selection, others, rfl, -, rfl, rfl⟩ := eq_of_stages_eq splitBefore.symm
  have stopped : ((after cfg first s).operate cfg selection).session.desk.transport.state =
      .stopped := by
    rw [transport_operate, state_turn, if_pos swaps]
  have meets : (after cfg (first ++ selection :: others) s).desk.transport.state = .stopped := by
    rw [after_append, after_cons]
    exact stopped_after stopped (isToggle_of_stages still)
  obtain rfl : op = .handle .refresh := isRefresh_iff.mp refreshes
  rw [← List.count_eq_zero, count_tick_operate]
  simp [Stage.isAdvance, Stage.state, meets, Operation.isSingleStep]

/-- The motion of a fresh session, whatever machine and display do. It runs exactly after an odd
number of play/pauses since the last selection of a listed title. A refresh is due exactly since a
start after the last refresh that found the session stopped, and so while it runs. Every operation
takes the machine to where its calls lead, and among these there is one tick if it is a refresh that
finds the session running or a single step that finds it stopped, and else none. -/
theorem motion_of_history (cfg : Config) (machine : M) (display : D) (ops : List Operation) :
    let s := fresh cfg machine display
    let run := stages cfg ops s
    let now := (after cfg ops s).desk.transport
    (now.state = .running ↔
      Odd ((ops.rtakeWhile fun op => !op.isSwap).countP Operation.isToggle)) ∧
    (now.refreshDue = true ↔ ∃ stage ∈ run.rtakeWhile fun stage => !stage.isRest, stage.isStart) ∧
    (now.state = .running → now.refreshDue = true) ∧
    (∀ stage ∈ run,
      stage.outcome.session.machine =
          Machine.afterCalls (calls stage.outcome.deeds) stage.before.machine ∧
        (calls stage.outcome.deeds).count .tick = if stage.isAdvance then 1 else 0) ∧
    (after cfg ops s).machine = Machine.afterCalls (calls (deeds cfg ops s)) machine ∧
    (calls (deeds cfg ops s)).count .tick = run.countP Stage.isAdvance ∧
    ∀ earlier swap between refresh later,
      run = (earlier ++ swap :: between) ++ refresh :: later →
      swap.operation.isSwap = true →
      (∀ stage ∈ between, stage.operation.isToggle = false) →
      refresh.operation.isRefresh = true → .tick ∉ calls refresh.outcome.deeds := by
  intro s run now
  have initial : Clocked ([] : List (Stage M D)) s.desk.transport := Clocked.nil
  have clocked : Clocked run now := initial.stages ops
  have running := clocked.running
  rw [map_operation_stages] at running
  refine ⟨running, clocked.due, clocked.kept,
    fun stage member => ⟨(effects_of_mem_stages member).machine, ?_⟩, machine_after cfg ops s,
    count_tick_deeds cfg ops s,
    fun earlier swap between refresh later split swaps still refreshes => ?_⟩
  · obtain ⟨before, op, rest, -, rfl⟩ := exists_of_mem_stages member
    exact count_tick_operate cfg _ op
  · exact tick_not_mem_of_swap split swaps still refreshes

end Operate

/-- A host that selects a title while the session runs, on a display that fails throughout: the
refresh that was due finds the session stopped and does not tick, and the single step behind it
does. -/
theorem motion_of_swap :
    let cfg : Config := { resolution := ⟨2, 1⟩, pixelSize := 1 }
    let machine : StandIn.Tape := { frame := #[0, 0] }
    let display : StandIn.Monitor := { failing := true }
    let s := fresh cfg machine display
    let begun : List Operation := [.boot, .handle .playPause, .handle .refresh]
    let swap : Operation := .handle (.select "TETRIS")
    let met := after cfg (begun ++ [swap]) s
    let ops := (begun ++ [swap]) ++ [.handle .refresh, .handle .step]
    swap.isSwap = true ∧ (after cfg ops s).desk.transport = ⟨.stopped, false⟩ ∧
      (calls (deeds cfg ops s)).count .tick = 2 ∧
      .tick ∉ calls (met.operate cfg (.handle .refresh)).deeds ∧
      (after cfg ops s).machine = Machine.afterCalls [.tick, .reset, .tick] machine ∧
      (after cfg ops s).machine.made = [.tick, .reset, .tick] := by
  intro cfg machine display s begun swap met ops
  obtain ⟨-, -, -, -, reached, total, unticked⟩ := motion_of_history cfg machine display ops
  have advances : (stages cfg ops s).countP Stage.isAdvance = 2 := by decide +kernel
  have swaps : swap.isSwap = true := by decide +kernel
  have still : ∀ stage ∈ ([] : List (Stage StandIn.Tape StandIn.Monitor)),
      stage.operation.isToggle = false := by simp
  have split : stages cfg ops s = (stages cfg begun s ++
      ⟨after cfg begun s, swap, (after cfg begun s).operate cfg swap⟩ :: []) ++
        ⟨met, .handle .refresh, met.operate cfg (.handle .refresh)⟩ ::
          stages cfg [.handle .step] (met.operate cfg (.handle .refresh)).session := by
    rw [stages_append, stages_append]
    rfl
  have quiet := unticked _ _ _ _ _ split swaps still rfl
  have made : calls (deeds cfg ops s) = [.tick, .reset, .tick] := by decide +kernel
  exact ⟨swaps, by decide +kernel, total.trans advances, quiet, reached.trans (by rw [made]),
    (made_after cfg ops s).trans made⟩

end Session

end HexPlayer
