import HexPlayer.Proofs.Session.Docket
import HexPlayer.Proofs.Session.Panels
import HexPlayer.Proofs.Session.Picture
import Mathlib.Data.List.Induction

/-!
# The trace of a run

Somebody who watches the devices of a session sees calls on its machine and presentations on its
display. Every step adds a block to what is seen. Which one depends on the steps before it in two
ways alone: whether they leave the session running, and which ticket they leave awaited. `block`
reads both off those steps; `state_walk` and `tickets_walk` say that the desk goes by the same, so
that what is seen of a run are the blocks of its steps. With `Traced` this is also what the machine
and the display have seen.
-/

namespace HexPlayer.Session

open Cartridge (Program Request Source Ticket)

/-- What can be seen of a session on its devices. -/
inductive Sight where
  | call (call : Call)
  | presentation
  deriving DecidableEq, Repr

/-- What is seen of a deed, if it is done on the machine or the display. -/
def Deed.sight? : Deed → Option Sight
  | .call made => some (.call made)
  | .presented .. => some .presentation
  | .painted _ | .asked _ | .recorded _ => none

/-- What is seen of deeds. -/
def trace (deeds : List Deed) : List Sight := deeds.filterMap Deed.sight?

/-- What is seen of an act on a machine whose frames fit. -/
def Act.sight? : Act → Option Sight
  | .call made => some (.call made)
  | .draw _ | .present => some .presentation
  | .record _ => none

/-- What is seen of acts on a machine whose frames fit. -/
def traceOf (acts : List Act) : List Sight := acts.filterMap Act.sight?

/-- What is seen of acts on any machine; a drawing is seen if the frame has the right size. -/
def traceOn {M : Type} [Machine M] (p : Painter) : List Act → M → List Sight
  | [], _ => []
  | .call call :: acts, m => .call call :: traceOn p acts (Machine.call call m)
  | .draw _ :: acts, m =>
    if (Machine.frame m).size = p.resolution.area then .presentation :: traceOn p acts m
    else traceOn p acts m
  | .present :: acts, m => .presentation :: traceOn p acts m
  | .record _ :: acts, m => traceOn p acts m

@[simp]
theorem traceOf_nil : traceOf [] = [] := rfl

@[simp]
theorem traceOf_call (call : Call) (acts : List Act) :
    traceOf (.call call :: acts) = .call call :: traceOf acts := rfl

@[simp]
theorem traceOf_draw (action : Option Action) (acts : List Act) :
    traceOf (.draw action :: acts) = .presentation :: traceOf acts := rfl

@[simp]
theorem traceOf_present (acts : List Act) :
    traceOf (.present :: acts) = .presentation :: traceOf acts := rfl

@[simp]
theorem traceOf_record (entry : Journal.Entry) (acts : List Act) :
    traceOf (.record entry :: acts) = traceOf acts := rfl

theorem traceOf_append (first second : List Act) :
    traceOf (first ++ second) = traceOf first ++ traceOf second :=
  List.filterMap_append ..

/-- The call that is seen, if it is one. -/
def Sight.call? : Sight → Option Call
  | .call made => some made
  | .presentation => none

/-- The calls that are seen. -/
def callsIn (seen : List Sight) : List Call := seen.filterMap Sight.call?

theorem mem_callsIn {seen : List Sight} {call : Call} :
    call ∈ callsIn seen ↔ .call call ∈ seen := by
  rw [callsIn, List.mem_filterMap]
  constructor
  · rintro ⟨sight, member, isCall⟩
    cases sight with
    | call made =>
      cases isCall
      exact member
    | presentation => cases isCall
  · intro member
    exact ⟨_, member, rfl⟩

/-- All calls among acts are seen, whether or not the frames fit. -/
theorem callsOf_eq_callsIn (acts : List Act) : callsOf acts = callsIn (traceOf acts) := by
  induction acts with
  | nil => rfl
  | cons act acts ih =>
    cases act with
    | call made => exact congrArg (made :: ·) ih
    | _ => exact ih

/-- The step hears a completion of the ticket. -/
def Step.completes (ticket : Ticket) : Step → Bool
  | .handle (.fetched other _) => other == ticket
  | _ => false

/-- The listed titles that steps select, in order. -/
def selectionsOf (cfg : Config) (past : List Step) : List String :=
  past.filterMap fun step => step.operation.selection? cfg

/-- The run state that steps leave behind: that of a session which the play/pauses since the last
selection have turned round. -/
def stateAfter (past : List Step) : RunState :=
  if Odd (((past.map Step.operation).rtakeWhile fun op => !op.isSwap).countP Operation.isToggle)
  then .running else .stopped

/-- The newest ticket, if there is one; tickets are numbered from zero on. -/
def newestTicket? (cfg : Config) (past : List Step) : Option Ticket :=
  if selectionsOf cfg past = [] then none else some ⟨(selectionsOf cfg past).length - 1⟩

/-- The ticket that steps leave awaited: the newest, unless a completion of it was heard since it
was issued. -/
def awaitedAfter (cfg : Config) (past : List Step) : Option Ticket :=
  (newestTicket? cfg past).filter fun ticket =>
    (past.rtakeWhile fun step => (step.operation.selection? cfg).isNone).all fun step =>
      !step.completes ticket

/-- What is seen of a step that meets a run state and an awaited ticket. -/
def Step.block (cfg : Config) (state : RunState) (awaited : Option Ticket) : Step → List Sight
  | .boot => [.presentation]
  | .nextRequest => []
  | .handle (.key code edge) =>
    match cfg.layout.stroke? code edge with
    | none => []
    | some stroke => [.call (.ofStroke stroke), .presentation]
  | .handle .refresh => if state = .running then [.call .tick, .presentation] else []
  | .handle .step => if state = .stopped then [.call .tick, .presentation] else []
  | .handle .playPause => []
  | .handle .reset => if cfg.redrawOnReset then [.call .reset, .presentation] else [.call .reset]
  | .handle (.select title) =>
    if Catalog.isListed title then [.call .reset, .presentation] else []
  | .handle (.fetched ticket result) =>
    if awaited = some ticket then
      match cfg.admitted? result with
      | none => []
      | some program => [.call (.load program)]
    else []

/-- What is seen of a step that comes after others. -/
def block (cfg : Config) (past : List Step) (step : Step) : List Sight :=
  step.block cfg (stateAfter past) (awaitedAfter cfg past)

/-- What is seen of steps that come after others, one block after the other. -/
def blocks (cfg : Config) : (past steps : List Step) → List Sight
  | _, [] => []
  | past, step :: rest => block cfg past step ++ blocks cfg (past ++ [step]) rest

theorem blocks_append (cfg : Config) (past first second : List Step) :
    blocks cfg past (first ++ second) =
      blocks cfg past first ++ blocks cfg (past ++ first) second := by
  induction first generalizing past with
  | nil => simp [blocks]
  | cons step rest ih => simp [blocks, ih]

/-- What is seen of a step follows from the run state and the awaited ticket that it meets. -/
theorem Takes.traceOf {cfg : Config} {d : Desk} {step : Step} {decision : Decision}
    (takes : Takes cfg d step decision) :
    Session.traceOf decision.acts = step.block cfg d.transport.state d.awaited := by
  cases takes with
  | ignored unmapped => simp [Step.block, unmapped]
  | struck mapped => simp [Step.block, mapped]
  | refreshed running => simp [Step.block, running]
  | rested stopped => simp [Step.block, stopped]
  | stepped stopped => simp [Step.block, stopped]
  | ranOn running => simp [Step.block, running]
  | resetDrawn redraw => simp [Step.block, redraw]
  | resetUndrawn redraw => simp [Step.block, redraw]
  | selectedNothing => simp [Step.block, isListed_empty]
  | selectedUnlisted nonempty unlisted => simp [Step.block, unlisted]
  | selected listed => simp [Step.block, listed]
  | superseded other => simp [Step.block, other]
  | failed awaited => simp [Step.block, awaited, Config.admitted?]
  | tooLarge awaited exceeds =>
    simp [Step.block, awaited, Config.admitted?, Nat.not_le.mpr exceeds]
  | loaded awaited fits => simp [Step.block, awaited, Config.admitted?, fits]
  | _ => rfl

section History

variable {cfg : Config} {past : List Step} {step : Step}

theorem selectionsOf_concat (cfg : Config) (past : List Step) (step : Step) :
    selectionsOf cfg (past ++ [step]) =
      selectionsOf cfg past ++ (step.operation.selection? cfg).toList := by
  cases selects : step.operation.selection? cfg <;>
    simp [selectionsOf, List.filterMap_append, selects]

/-- A selection leaves its own ticket awaited. -/
theorem awaitedAfter_concat_of_selection {title : String}
    (selects : step.operation.selection? cfg = some title) :
    awaitedAfter cfg (past ++ [step]) = some ⟨(selectionsOf cfg past).length⟩ := by
  simp [awaitedAfter, newestTicket?, selectionsOf_concat, selects]

/-- Any other step leaves the ticket awaited that was awaited before, unless it completes it. -/
theorem awaitedAfter_concat_of_none (selects : step.operation.selection? cfg = none) :
    awaitedAfter cfg (past ++ [step]) =
      (awaitedAfter cfg past).filter fun ticket => !step.completes ticket := by
  have same : newestTicket? cfg (past ++ [step]) = newestTicket? cfg past := by
    simp [newestTicket?, selectionsOf_concat, selects]
  simp only [awaitedAfter, same, Option.filter_filter]
  congr 1
  funext ticket
  simp [selects]

/-- An awaited ticket was issued by a step, the last one that selected a title. -/
theorem exists_issue_of_awaitedAfter {ticket : Ticket}
    (awaited : awaitedAfter cfg past = some ticket) :
    ∃ first issue between title, past = first ++ issue :: between ∧
      issue.operation.selection? cfg = some title ∧
      ticket = ⟨(selectionsOf cfg first).length⟩ ∧
      ∀ other ∈ between, other.operation.selection? cfg = none := by
  induction past using List.reverseRecOn with
  | nil => cases awaited
  | append_singleton past step ih =>
    cases selects : step.operation.selection? cfg with
    | some title =>
      rw [awaitedAfter_concat_of_selection selects, Option.some.injEq] at awaited
      exact ⟨past, step, [], title, rfl, selects, awaited.symm, nofun⟩
    | none =>
      rw [awaitedAfter_concat_of_none selects] at awaited
      obtain ⟨first, issue, between, title, rfl, issues, isTicket, silent⟩ :=
        ih (Option.filter_eq_some_iff.mp awaited).1
      refine ⟨first, issue, between ++ [step], title, by simp, issues, isTicket, ?_⟩
      intro other member
      rcases List.mem_append.mp member with before | now
      · exact silent other before
      · rw [List.mem_singleton.mp now, selects]

end History

/-- A step that selects a title requests it. -/
theorem docket_take_of_selection {cfg : Config} {d : Desk} {step : Step} {title : String}
    (selects : step.operation.selection? cfg = some title) :
    (d.take cfg step).desk.docket = d.docket.request title := by
  rw [docket_take]
  cases step with
  | nextRequest => cases selects
  | boot => simp [Docket.take, selects]
  | handle event => cases event <;> first | cases selects | simp [Docket.take, selects]

/-- A step that selects no title issues no ticket, and ends the wait for the ticket it completes. -/
theorem Docket.take_of_no_selection {cfg : Config} {k : Docket} {step : Step}
    (selects : step.operation.selection? cfg = none) :
    (k.take cfg step).nextTicket = k.nextTicket ∧
      (k.take cfg step).awaited = k.awaited.filter fun ticket => !step.completes ticket := by
  have unheard : k.awaited = k.awaited.filter fun _ => true := by cases k.awaited <;> rfl
  cases step with
  | nextRequest => exact ⟨rfl, unheard⟩
  | boot =>
    have same : k.take cfg .boot = k := by simp only [take, selects, Option.elim_none]
    rw [same]
    exact ⟨rfl, unheard⟩
  | handle event =>
    cases event with
    | fetched ticket result =>
      simp only [take, complete]
      split
      next waits => simp [waits, Step.completes, Option.filter]
      next other =>
        refine ⟨rfl, ?_⟩
        cases waits : k.awaited with
        | none => rfl
        | some awaited =>
          have different : ticket ≠ awaited := fun same => other (same ▸ waits)
          simp [Step.completes, different, Option.filter]
    | select title =>
      have same : k.take cfg (.handle (.select title)) = k := by
        simp only [take, selects, Option.elim_none]
      rw [same]
      exact ⟨rfl, unheard⟩
    | _ => exact ⟨rfl, unheard⟩

/-- The tickets that steps leave behind. -/
theorem tickets_walk (cfg : Config) (past : List Step) :
    (Desk.walk cfg {} past).nextTicket = (selectionsOf cfg past).length ∧
      (Desk.walk cfg {} past).awaited = awaitedAfter cfg past := by
  induction past using List.reverseRecOn with
  | nil => exact ⟨rfl, rfl⟩
  | append_singleton past step ih =>
    obtain ⟨issued, awaited⟩ := ih
    let d := Desk.walk cfg {} past
    have taken := docket_take cfg d step
    rw [Desk.walk_append, Desk.walk_cons, Desk.walk_nil, selectionsOf_concat, List.length_append,
      ← issued]
    cases selects : step.operation.selection? cfg with
    | some title =>
      have requested := docket_take_of_selection (d := d) selects
      rw [awaitedAfter_concat_of_selection selects, ← issued]
      exact ⟨congrArg Docket.nextTicket requested, congrArg Docket.awaited requested⟩
    | none =>
      obtain ⟨same, still⟩ := Docket.take_of_no_selection (k := d.docket) selects
      rw [awaitedAfter_concat_of_none selects, ← awaited]
      exact ⟨(congrArg Docket.nextTicket taken).trans same,
        (congrArg Docket.awaited taken).trans still⟩

/-- One more step turns the run state as its operation does. -/
theorem stateAfter_concat (past : List Step) (step : Step) :
    stateAfter (past ++ [step]) =
      if step.operation.isSwap then .stopped
      else if step.operation.isToggle then (stateAfter past).toggled else stateAfter past := by
  unfold stateAfter
  rw [List.map_append, List.map_singleton, List.rtakeWhile_concat]
  cases swap : step.operation.isSwap with
  | true => simp
  | false =>
    cases toggle : step.operation.isToggle with
    | true =>
      simp only [Bool.not_false, if_true, Bool.false_eq_true, if_false, List.countP_append,
        List.countP_singleton, toggle, Nat.odd_add_one]
      split
      next even => rfl
      next odd => simp [not_not.mp odd, RunState.toggled]
    | false => simp [toggle]

/-- The run state that steps leave behind. -/
theorem state_walk (cfg : Config) (past : List Step) :
    (Desk.walk cfg {} past).transport.state = stateAfter past := by
  induction past using List.reverseRecOn with
  | nil => rfl
  | append_singleton past step ih =>
    rw [Desk.walk_append, Desk.walk_cons, Desk.walk_nil, (takes_take cfg _ step).transport,
      state_turn, ih, stateAfter_concat]

/-- What is seen of the acts that the desk decides on in steps are the blocks of the steps. -/
theorem traceOf_acts (cfg : Config) (past steps : List Step) :
    traceOf ((Desk.walk cfg {} past).acts cfg steps) = blocks cfg past steps := by
  induction steps generalizing past with
  | nil => rfl
  | cons step rest ih =>
    have first := (takes_take cfg (Desk.walk cfg {} past) step).traceOf
    have later := ih (past ++ [step])
    rw [Desk.walk_append, Desk.walk_cons, Desk.walk_nil] at later
    rw [Desk.acts, traceOf_append, first, later, blocks, block, state_walk,
      (tickets_walk cfg past).2]

/-- A program is loaded by a completion of the awaited ticket that delivers it. -/
theorem exists_ticket_of_load {cfg : Config} {past : List Step} {step : Step} {program : Program}
    (loads : .call (.load program) ∈ block cfg past step) :
    block cfg past step = [.call (.load program)] ∧
      ∃ ticket, step = .handle (.fetched ticket (.ok program)) ∧
        awaitedAfter cfg past = some ticket := by
  cases step with
  | boot => simp [block, Step.block] at loads
  | nextRequest => simp [block, Step.block] at loads
  | handle event =>
    simp only [block, Step.block] at loads ⊢
    cases event with
    | key code edge =>
      dsimp only at loads
      split at loads
      next => cases loads
      next stroke _ => cases edge : stroke.edge <;> simp [Call.ofStroke, edge] at loads
    | fetched ticket result =>
      dsimp only at loads ⊢
      split at loads
      next waits =>
        split at loads
        next => cases loads
        next delivered admitted =>
          obtain ⟨rfl, -⟩ := admitted?_eq_some_iff.mp admitted
          obtain rfl : program = delivered := by simpa using loads
          exact ⟨if_pos waits, ticket, rfl, waits⟩
      next => cases loads
    | playPause => cases loads
    | _ =>
      dsimp only at loads
      split at loads <;> simp at loads

/-- Booting selects a title, or the reset and the presentation of a selection are seen. -/
theorem block_of_selection {cfg : Config} (past : List Step) {step : Step} {title : String}
    (selects : step.operation.selection? cfg = some title) :
    step = .boot ∨
      step = .handle (.select title) ∧ block cfg past step = [.call .reset, .presentation] := by
  cases step with
  | boot => exact .inl rfl
  | nextRequest => cases selects
  | handle event =>
    cases event with
    | select other =>
      cases listed : Catalog.isListed other with
      | false =>
        rw [Step.operation, selection?_eq_none listed] at selects
        cases selects
      | true =>
        rw [Step.operation, selection?_eq_some listed] at selects
        obtain rfl := Option.some.inj selects
        exact .inr ⟨rfl, if_pos listed⟩
    | _ => cases selects

section Ticks

/-- Every tick is directly followed by a presentation. -/
def TicksShown (seen : List Sight) : Prop :=
  ∀ before after, seen = before ++ .call .tick :: after → ∃ rest, after = .presentation :: rest

theorem TicksShown.of_not_mem {seen : List Sight} (unticked : .call .tick ∉ seen) :
    TicksShown seen := by
  rintro before after rfl
  exact absurd (by simp) unticked

theorem TicksShown.append {first second : List Sight} (shownFirst : TicksShown first)
    (shownSecond : TicksShown second) : TicksShown (first ++ second) := by
  intro before after split
  rcases List.append_eq_append_iff.mp split with ⟨middle, rfl, ticks⟩ | ⟨middle, ticks, rest⟩
  · exact shownSecond middle after ticks
  · cases middle with
    | nil => exact shownSecond [] after rest.symm
    | cons sight middle =>
      obtain ⟨rfl, rfl⟩ := List.cons.inj rest
      obtain ⟨shown, rfl⟩ := shownFirst before middle ticks
      exact ⟨shown ++ second, rfl⟩

theorem ticksShown_tick : TicksShown [.call .tick, .presentation] := by
  intro before after split
  cases before with
  | nil =>
    obtain ⟨-, rfl⟩ := List.cons.inj split
    exact ⟨[], rfl⟩
  | cons sight before =>
    obtain ⟨-, others⟩ := List.cons.inj split
    have member : Sight.call .tick ∈ [Sight.presentation] := by
      rw [others]
      simp
    cases List.mem_singleton.mp member

theorem ticksShown_block (cfg : Config) (past : List Step) (step : Step) :
    TicksShown (block cfg past step) := by
  cases step with
  | boot => exact .of_not_mem (by simp [block, Step.block])
  | nextRequest => exact .of_not_mem (by simp [block, Step.block])
  | handle event =>
    simp only [block, Step.block]
    cases event with
    | key code edge =>
      dsimp only
      split
      next => exact .of_not_mem (by simp)
      next stroke _ =>
        refine .of_not_mem ?_
        cases edge : stroke.edge <;> simp [Call.ofStroke, edge]
    | refresh =>
      dsimp only
      split
      next => exact ticksShown_tick
      next => exact .of_not_mem (by simp)
    | step =>
      dsimp only
      split
      next => exact ticksShown_tick
      next => exact .of_not_mem (by simp)
    | playPause => exact .of_not_mem (by simp)
    | reset => exact .of_not_mem (by dsimp only; split <;> simp)
    | select title => exact .of_not_mem (by dsimp only; split <;> simp)
    | fetched ticket result => exact .of_not_mem (by dsimp only; split <;> [split <;> simp; simp])

theorem ticksShown_blocks (cfg : Config) (past steps : List Step) :
    TicksShown (blocks cfg past steps) := by
  induction steps generalizing past with
  | nil => exact .of_not_mem (by simp [blocks])
  | cons step rest ih => exact (ticksShown_block cfg past step).append (ih (past ++ [step]))

end Ticks

variable {M D : Type} [Machine M] [Display D]

/-- The calls among deeds are all seen. -/
theorem callsIn_trace (deeds : List Deed) : callsIn (trace deeds) = calls deeds := by
  induction deeds with
  | nil => rfl
  | cons deed deeds ih =>
    cases deed with
    | call made => exact congrArg (made :: ·) ih
    | _ => exact ih

/-- As many things were handed over as presentations are seen. -/
theorem length_handed (deeds : List Deed) :
    (handed deeds).length = (trace deeds).count .presentation := by
  induction deeds with
  | nil => rfl
  | cons deed deeds ih =>
    cases deed with
    | presented raster panel cause => simpa [handed, Deed.handed?, trace, Deed.sight?] using ih
    | call made =>
      have seen : trace (.call made :: deeds) = .call made :: trace deeds := rfl
      have other : Sight.call made ≠ .presentation := by simp
      rw [seen, List.count_cons_of_ne other]
      exact ih
    | _ => exact ih

/-- What is seen of deeds is what took the devices from where the one session has them to where the
other has them: the machine got the calls, and for each presentation the display was handed a raster
and a panel, to which it gave the answer that is recorded. -/
structure Traced (seen : List Sight) (s : Session M D) (done : List Deed) (t : Session M D) :
    Prop where
  trace : Session.trace done = seen
  machine : t.machine = Machine.afterCalls (callsIn seen) s.machine
  display : t.display = Display.afterPresents (handed done) s.display
  presentations : (handed done).length = seen.count .presentation
  answered : answers done = Display.answersTo (handed done) s.display

theorem Effects.traced {s t : Session M D} {done : List Deed} (effects : Effects s done t)
    {seen : List Sight} (isTrace : trace done = seen) : Traced seen s done t where
  trace := isTrace
  machine := by rw [effects.machine, ← isTrace, callsIn_trace]
  display := effects.display
  presentations := by rw [length_handed, isTrace]
  answered := effects.answered

theorem sight?_of_not_onDevice (deed : Deed) (off : deed.isOnDevice = false) :
    deed.sight? = none := by
  cases deed <;> first | rfl | cases off

omit [Display D] in
theorem traceOn_append (p : Painter) (first second : List Act) (m : M) :
    traceOn p (first ++ second) m =
      traceOn p first m ++ traceOn p second (Machine.afterCalls (callsOf first) m) := by
  induction first generalizing m with
  | nil => rfl
  | cons act acts ih =>
    cases act with
    | draw action =>
      simp only [List.cons_append, traceOn, callsOf_draw, ih]
      split <;> rfl
    | _ => simp [traceOn, ih]

/-- On a machine whose frames fit, every drawing is seen. -/
theorem traceOn_of_fits {p : Painter} {m : M} (fits : Machine.Fits p m) (acts : List Act) :
    traceOn p acts m = traceOf acts := by
  induction acts generalizing m with
  | nil => rfl
  | cons act acts ih =>
    cases act with
    | call call => rw [traceOn, ih (fits.call call), traceOf_call]
    | draw action =>
      have isSeen : (Machine.frame m).size = p.resolution.area := fits []
      rw [traceOn, if_pos isSeen, ih fits, traceOf_draw]
    | present => rw [traceOn, ih fits, traceOf_present]
    | record entry => rw [traceOn, ih fits, traceOf_record]

theorem trace_perform (cfg : Config) (act : Act) (s : Session M D) :
    trace (s.perform cfg act).deeds = traceOn cfg.painter [act] s.machine := by
  have drawing : trace (s.draw cfg).deeds = traceOn cfg.painter [.draw none] s.machine := by
    unfold draw Painter.render
    dsimp only
    by_cases fits : (Machine.frame s.machine).size = cfg.painter.resolution.area
    · have noStray := view_strayDeeds sight?_of_not_onDevice
      simp only [fits, if_true, Outcome.deeds_andThen, trace, List.filterMap_append,
        List.filterMap_cons, noStray]
      simp [present, Deed.sight?, traceOn, fits]
    · simp [fits, trace, traceOn]
  cases act with
  | call call => rfl
  | draw action =>
    cases action with
    | none => exact drawing
    | some action => exact (view_recordError sight?_of_not_onDevice _ _).trans drawing
  | present => rfl
  | record entry => rfl

/-- What is seen of a run are the calls and presentations among the acts that the desk decides
on. -/
theorem trace_deeds (cfg : Config) (ops : List Operation) {s : Session M D}
    (fits : Machine.Fits cfg.painter s.machine) :
    trace (deeds cfg ops s) = traceOf (s.desk.actsOfRun cfg ops) := by
  rw [← traceOn_of_fits fits]
  exact view_deeds Deed.sight? (traceOn cfg.painter) (fun _ => rfl) (traceOn_append cfg.painter)
    (trace_perform cfg) sight?_of_not_onDevice ops s

/-- The machine that calls lead to still shows frames that fit. -/
theorem fits_after {cfg : Config} {s : Session M D} (fits : Machine.Fits cfg.painter s.machine)
    (ops : List Operation) : Machine.Fits cfg.painter (after cfg ops s).machine := by
  intro made
  rw [machine_after, ← Machine.afterCalls_append]
  exact fits _

/-- What the devices see of a run of a fresh session, on a machine whose frames fit, are the blocks
of its steps, and whatever came before it, an operation adds the blocks of its own steps. So every
tick is directly followed by a presentation. A load is the completion of a request that an earlier
step issued; if that was not booting, the reset and the presentation of the selection come before
the load. -/
theorem trace_of_history (cfg : Config) {machine : M} (display : D)
    (fits : Machine.Fits cfg.painter machine) (ops : List Operation) :
    let s := fresh cfg machine display
    let steps := unroll cfg ops s.desk
    let seen := trace (deeds cfg ops s)
    Traced (blocks cfg [] steps) s (deeds cfg ops s) (after cfg ops s) ∧
    (∀ before op,
      let met := after cfg before s
      let o := met.operate cfg op
      Traced (blocks cfg (unroll cfg before s.desk) (op.steps met.desk)) met o.deeds o.session) ∧
    TicksShown seen ∧
    ∀ past step rest, steps = past ++ step :: rest →
      ∀ program, .call (.load program) ∈ block cfg past step →
        ∃ first issue between title ticket, past = first ++ issue :: between ∧
          step = .handle (.fetched ticket (.ok program)) ∧
          (s.desk.walk cfg (first ++ [issue])).outbox.getLast? = some ⟨ticket, title⟩ ∧
          (issue = .boot ∨ issue = .handle (.select title) ∧
            seen = blocks cfg [] first ++ [.call .reset, .presentation] ++
              blocks cfg (first ++ [issue]) between ++ [.call (.load program)] ++
              blocks cfg (past ++ [step]) rest) := by
  intro s steps seen
  have whole : seen = blocks cfg [] steps :=
    (trace_deeds cfg ops fits).trans (traceOf_acts cfg [] steps)
  refine ⟨(effects_after cfg ops s).traced whole, fun before op => ?_,
    whole ▸ ticksShown_blocks cfg [] steps, fun past step rest split program loads => ?_⟩
  · intro met o
    apply (effects_operate cfg met op).traced
    have isMet : met.desk = s.desk.walk cfg (unroll cfg before s.desk) := desk_after cfg before s
    have single := trace_deeds cfg [op] (fits_after (s := s) fits before)
    rw [deeds_cons, deeds_nil, List.append_nil] at single
    rw [show trace (met.operate cfg op).deeds = _ from single, Desk.actsOfRun, unroll, unroll,
      List.append_nil, isMet]
    exact traceOf_acts cfg _ _
  · obtain ⟨isLoad, ticket, rfl, awaited⟩ := exists_ticket_of_load loads
    obtain ⟨first, issue, between, title, rfl, selects, rfl, -⟩ :=
      exists_issue_of_awaitedAfter awaited
    refine ⟨first, issue, between, title, _, rfl, rfl, ?_, ?_⟩
    · have requested := docket_take_of_selection (d := s.desk.walk cfg first) selects
      have queue : (s.desk.walk cfg (first ++ [issue])).outbox =
          (s.desk.walk cfg first).outbox ++ [⟨⟨(s.desk.walk cfg first).nextTicket⟩, title⟩] := by
        rw [Desk.walk_append]
        exact congrArg Docket.outbox requested
      have issued : (s.desk.walk cfg first).nextTicket = (selectionsOf cfg first).length :=
        (tickets_walk cfg first).1
      rw [queue, List.getLast?_concat, issued]
    · refine (block_of_selection first selects).imp_right ?_
      rintro ⟨isSelection, isSwap⟩
      refine ⟨isSelection, ?_⟩
      simp only [whole, split, blocks_append, blocks, List.nil_append, isSwap, isLoad]
      simp only [List.append_assoc]

/-- Two titles are selected, the second while the session runs and before the first was fetched. -/
def switching : List Operation :=
  [.boot, .handle (.select "TETRIS"), .handle .playPause, .handle .refresh,
    .handle (.key 'q' .pressed), .handle (.select "UFO"), .handle .refresh,
    .serveAll (.ofPrograms [("TETRIS", #[7]), ("UFO", #[8])]), .handle .step]

/-- Of the two programs the newer one is loaded, after the reset of its selection. -/
theorem trace_switching :
    let cfg : Config := { resolution := ⟨2, 1⟩, pixelSize := 1 }
    let machine : StandIn.Scripted := ⟨#[0, 0], [#[1, 0]]⟩
    let s := fresh cfg machine ({} : StandIn.Roll)
    let seen : List Sight :=
      [.presentation, .call .reset, .presentation, .call .tick, .presentation, .call (.press 4),
        .presentation, .call .reset, .presentation, .call (.load #[8]), .call .tick, .presentation]
    Machine.Fits cfg.painter machine ∧ TicksShown seen ∧
      Traced seen s (deeds cfg switching s) (after cfg switching s) ∧
      (after cfg switching s).display.seen.length = 6 := by
  intro cfg machine s seen
  have fits : Machine.Fits cfg.painter machine := (steady_scripted (by decide)).size
  obtain ⟨traced, -, shown, -⟩ := trace_of_history cfg ({} : StandIn.Roll) fits switching
  have isSeen : blocks cfg [] (unroll cfg switching s.desk) = seen := by decide +kernel
  rw [isSeen] at traced
  rw [traced.trace] at shown
  exact ⟨fits, shown, traced, by decide +kernel⟩

end HexPlayer.Session
