import HexPlayer.Proofs.Session.Decisions

/-!
# Serving requests

Taking requests out of the outbox and hearing their completions is a matter of the docket alone:
transport, lamps and selected title stay as they are, and no act of it does more than write to the
journal or load a program. An operation is a single step or the serving of the whole outbox.
-/

namespace HexPlayer.Session

open Cartridge (Request Source)

/-- The step takes a request out of the outbox or hears a completion. -/
def Step.serves : Step → Bool
  | .nextRequest | .handle (.fetched ..) => true
  | .boot | .handle _ => false

/-- The act writes to the journal or loads a program. -/
def Act.isQuiet : Act → Bool
  | .record _ | .call (.load _) => true
  | .call _ | .draw _ | .present => false

/-- Everything that a desk shows and moves by: all but the requests. -/
structure Desk.SameFront (d e : Desk) : Prop where
  transport : e.transport = d.transport
  lamps : e.lamps = d.lamps
  selected : e.selected = d.selected

theorem Desk.SameFront.trans {d e f : Desk} (first : d.SameFront e) (second : e.SameFront f) :
    d.SameFront f where
  transport := second.transport.trans first.transport
  lamps := second.lamps.trans first.lamps
  selected := second.selected.trans first.selected

/-- A step that serves leaves the front of the desk as it is. -/
theorem Takes.sameFront {cfg : Config} {d : Desk} {step : Step} {decision : Decision}
    (takes : Takes cfg d step decision) (serves : step.serves = true) :
    d.SameFront decision.desk := by
  cases takes with
  | popped => exact ⟨rfl, rfl, rfl⟩
  | superseded other => exact ⟨rfl, rfl, rfl⟩
  | failed awaited => exact ⟨rfl, rfl, rfl⟩
  | tooLarge awaited exceeds => exact ⟨rfl, rfl, rfl⟩
  | loaded awaited fits => exact ⟨rfl, rfl, rfl⟩
  | _ => cases serves

/-- A step that serves has quiet acts only. -/
theorem Takes.isQuiet {cfg : Config} {d : Desk} {step : Step} {decision : Decision}
    (takes : Takes cfg d step decision) (serves : step.serves = true) :
    ∀ act ∈ decision.acts, act.isQuiet = true := by
  cases takes with
  | popped => simp
  | superseded other => simp [Act.isQuiet]
  | failed awaited => simp
  | tooLarge awaited exceeds => simp
  | loaded awaited fits => simp [Act.isQuiet]
  | _ => cases serves

section

variable (cfg : Config) {steps : List Step} (serve : ∀ step ∈ steps, step.serves = true)
include serve

/-- Steps that serve leave the front of the desk as it is. -/
theorem sameFront_walk (d : Desk) : d.SameFront (d.walk cfg steps) := by
  induction steps generalizing d with
  | nil => exact ⟨rfl, rfl, rfl⟩
  | cons step rest ih =>
    have first := (takes_take cfg d step).sameFront (serve step List.mem_cons_self)
    have later := ih (fun other member => serve other (List.mem_cons_of_mem _ member))
      (d.take cfg step).desk
    rw [Desk.walk_cons]
    exact first.trans later

/-- Steps that serve have quiet acts only. -/
theorem isQuiet_acts (d : Desk) : ∀ act ∈ d.acts cfg steps, act.isQuiet = true := by
  induction steps generalizing d with
  | nil => simp [Desk.acts]
  | cons step rest ih =>
    have first := (takes_take cfg d step).isQuiet (serve step List.mem_cons_self)
    have later := ih (fun other member => serve other (List.mem_cons_of_mem _ member))
      (d.take cfg step).desk
    intro act member
    rw [Desk.acts, List.mem_append] at member
    exact member.elim (first act) (later act)

end

/-- Serving the whole outbox is made of steps that serve. -/
theorem serves_of_mem_steps {d : Desk} {source : Source} {step : Step}
    (member : step ∈ (Operation.serveAll source).steps d) : step.serves = true := by
  obtain ⟨request, -, serving⟩ := List.mem_flatMap.mp member
  rcases List.mem_cons.mp serving with rfl | completion
  · rfl
  · rw [List.mem_singleton.mp completion]
    rfl

/-- An operation is a single step or serves the whole outbox. -/
theorem operation_eq (op : Operation) :
    (∃ step : Step, op = step.operation) ∨ ∃ source, op = .serveAll source := by
  cases op with
  | boot => exact .inl ⟨.boot, rfl⟩
  | handle event => exact .inl ⟨.handle event, rfl⟩
  | nextRequest => exact .inl ⟨.nextRequest, rfl⟩
  | serveAll source => exact .inr ⟨source, rfl⟩

variable {M D : Type} [Machine M] [Display D]

/-- Serving the whole outbox leaves the front of the desk as it is. -/
theorem sameFront_serveAll (cfg : Config) (source : Source) (s : Session M D) :
    s.desk.SameFront (s.serveAll cfg source).session.desk := by
  have walked := (operate_eq_steps cfg s (.serveAll source)).1
  have desk : (s.serveAll cfg source).session.desk =
      s.desk.walk cfg ((Operation.serveAll source).steps s.desk) := by
    rw [← desk_after_steps, ← walked]
    rfl
  rw [desk]
  exact sameFront_walk cfg (fun _ => serves_of_mem_steps) s.desk

/-- Quiet acts do not fail. -/
theorem error_performAll_of_isQuiet (cfg : Config) {acts : List Act}
    (quiet : ∀ act ∈ acts, act.isQuiet = true) (s : Session M D) :
    (performAll cfg acts s).error = none := by
  induction acts generalizing s with
  | nil => rfl
  | cons act acts ih =>
    have first := quiet act List.mem_cons_self
    have succeeds : (s.perform cfg act).error = none := by
      cases act with
      | call call => rfl
      | draw action => cases first
      | present => cases first
      | record entry => rfl
    rw [performAll, Outcome.error_andThen, succeeds, Option.none_or]
    exact ih (fun other member => quiet other (List.mem_cons_of_mem _ member)) _

/-- A step that serves fails exactly as the desk refuses it. -/
theorem error_operate_of_serves (cfg : Config) (s : Session M D) {step : Step}
    (serves : step.serves = true) :
    (s.operate cfg step.operation).error = (s.desk.take cfg step).refusal := by
  have quiet := (takes_take cfg s.desk step).isQuiet serves
  rw [operate_operation, follow, error_performAll_of_isQuiet cfg quiet, Option.none_or]

/-- Serving a queue reports the first failure among its steps. -/
theorem error_serveQueue (cfg : Config) (source : Source) (queue : List Request)
    (s : Session M D) (isOutbox : s.desk.outbox = queue) :
    (serveQueue cfg source queue s).error =
      (stages cfg ((queue.flatMap (serving source)).map Step.operation) s).findSome?
        fun stage => stage.outcome.error := by
  induction queue generalizing s with
  | nil => rfl
  | cons request rest ih =>
    have first := (serve_eq_steps cfg source request rest s isOutbox).1
    have left : (after cfg ((serving source request).map Step.operation) s).desk.outbox = rest := by
      rw [desk_after_steps, outbox_walk_serving cfg source request rest _ isOutbox]
    have taken : s.nextRequest.2 = { s with desk := { s.desk with outbox := rest } } := by
      simp [nextRequest, isOutbox]
    have failure : ({ s with desk := { s.desk with outbox := rest } }.serve cfg source
        request).error = (stages cfg ((serving source request).map Step.operation) s).findSome?
          fun stage => stage.outcome.error := by
      rw [serve, Outcome.error_andThen, Option.none_or]
      simp only [serving, List.map_cons, List.map_nil, Step.operation, stages, operate, taken,
        List.findSome?_cons, List.findSome?_nil]
      -- the request is taken without failure, so that only its completion can fail
      split <;> simp_all
    rw [serveQueue, Outcome.error_andThen, first, ih _ left, failure, List.flatMap_cons,
      List.map_append, stages_append, List.findSome?_append]

/-- An operation reports the first failure among its steps. -/
theorem error_operate_eq_steps (cfg : Config) (s : Session M D) (op : Operation) :
    (s.operate cfg op).error =
      (stages cfg ((op.steps s.desk).map Step.operation) s).findSome?
        fun stage => stage.outcome.error := by
  cases op with
  | serveAll source => exact error_serveQueue cfg source s.desk.outbox s rfl
  | boot => simp [Operation.steps, Step.operation, stages]
  | handle event => simp [Operation.steps, Step.operation, stages]
  | nextRequest => simp [Operation.steps, Step.operation, stages]

/-- The single steps of a run are those of its first operation and those of the others. -/
theorem singleStages_cons (cfg : Config) (op : Operation) (ops : List Operation)
    (s : Session M D) :
    singleStages cfg (op :: ops) s =
      stages cfg ((op.steps s.desk).map Step.operation) s ++
        singleStages cfg ops (s.operate cfg op).session := by
  have first := (operate_eq_steps cfg s op).1
  have desk : (after cfg ((op.steps s.desk).map Step.operation) s).desk =
      s.desk.walk cfg (op.steps s.desk) := desk_after_steps cfg _ s
  rw [singleStages, unroll, List.map_append, stages_append, ← desk, ← first]
  rfl

end HexPlayer.Session
