import HexPlayer.Proofs.Session.Motion
import HexPlayer.Proofs.Session.Tickets
import HexPlayer.StandIn.Machines
import Mathlib.Data.List.Nodup

/-!
# The requests of a session

Every accepted selection issues one request. The requests popped so far and those still open, in
this order, carry the tickets from zero on and the titles in the order of the selections, however
completions come back and whatever fails. The title that the desk has selected is the one requested
last, so that an awaited ticket always is the one of the selected title.
-/

namespace HexPlayer.Session

open Cartridge (Request Source Ticket Program)

/-- The title that is selected after a step. -/
theorem selected_take (cfg : Config) (d : Desk) (step : Step) :
    (d.take cfg step).desk.selected = (step.operation.selection? cfg).or d.selected := by
  have taken : (d.take cfg step).desk.selected = (d.docket.take cfg step).selected :=
    congrArg Docket.selected (docket_take cfg d step)
  have chosen (selection : Option String) :
      (selection.elim d.docket d.docket.request).selected = selection.or d.selected := by
    cases selection <;> rfl
  rw [taken]
  cases step with
  | boot => exact chosen _
  | nextRequest => rfl
  | handle event =>
    cases event with
    | fetched ticket result =>
      change (d.docket.complete ticket).selected = d.selected
      unfold Docket.complete
      split <;> rfl
    | select title => exact chosen _
    | _ => rfl

/-- A delivered program that is refused for its size is refused under the selected title, at the
ticket that is awaited. -/
theorem Takes.awaited_of_tooLarge {cfg : Config} {d : Desk} {ticket : Ticket} {program : Program}
    {decision : Decision} (takes : Takes cfg d (.handle (.fetched ticket (.ok program))) decision)
    {title : String} {size limit : Nat}
    (refused : decision.refusal = some (.cartridge (.tooLarge title size limit))) :
    d.awaited = some ticket ∧ title = d.selected.getD "" ∧ size = program.size ∧
      limit = cfg.maxProgramLength ∧ limit < size := by
  cases takes with
  | superseded other => cases refused
  | loaded awaited fits => cases refused
  | tooLarge awaited exceeds =>
    cases refused
    exact ⟨awaited, rfl, rfl, rfl, exceeds⟩

namespace Orderly

variable {M D : Type} {cfg : Config} {earlier : List (Stage M D)} {k : Docket}

/-- No two requests have the same ticket. -/
theorem nodup_tickets (orderly : Orderly cfg earlier k) :
    ((earlier.flatMap Stage.popped ++ k.outbox).map Request.ticket).Nodup := by
  rw [orderly.tickets]
  refine List.pairwise_map.mpr (List.nodup_range.imp fun different same => ?_)
  exact different (congrArg Ticket.number same)

/-- As many requests were issued as the next ticket says. -/
theorem length_issued (orderly : Orderly cfg earlier k) :
    (earlier.flatMap Stage.popped ++ k.outbox).length = k.nextTicket := by
  have counted := congrArg List.length orderly.tickets
  rwa [List.length_map, List.length_map, List.length_range] at counted

/-- While the outbox holds a request, the newest one is awaited. -/
theorem awaited_of_getLast? (orderly : Orderly cfg earlier k) {last : Request}
    (isLast : k.outbox.getLast? = some last) : k.awaited = some last.ticket := by
  have newest : (earlier.flatMap Stage.popped ++ k.outbox).getLast?.map Request.ticket =
      some last.ticket := by
    rw [List.getLast?_append, isLast, Option.some_or, Option.map_some]
  have isOpen : last.ticket ∈ k.outbox.map Request.ticket :=
    List.mem_map_of_mem (List.mem_of_getLast? isLast)
  rw [orderly.awaited, ← orderly.newest_iff]
  refine ⟨newest, fun completed => ?_⟩
  -- a completed ticket was popped, and the open ones are others
  have distinct := orderly.nodup_tickets
  rw [List.map_append, List.nodup_append] at distinct
  exact distinct.2.2 _ (orderly.completed _ completed) _ isOpen rfl

/-- The request with the newest ticket is for the title that was selected last. -/
theorem getElem?_newest (orderly : Orderly cfg earlier k) {ticket : Ticket}
    (newest : ticket.number + 1 = k.nextTicket)
    (current : k.selected =
      (earlier.filterMap fun stage => stage.operation.selection? cfg).getLast?) :
    ∃ title, (earlier.flatMap Stage.popped ++ k.outbox)[ticket.number]? = some ⟨ticket, title⟩ ∧
      k.selected = some title := by
  have last := (orderly.newest_iff ticket).mpr newest
  obtain ⟨⟨_, title⟩, isLast, rfl⟩ := Option.map_eq_some_iff.mp last
  refine ⟨title, ?_, ?_⟩
  · have length := orderly.length_issued
    rw [List.getLast?_eq_getElem?, length, ← newest, Nat.add_sub_cancel] at isLast
    exact isLast
  · rw [current, ← orderly.titles, List.getLast?_map, isLast, Option.map_some]

end Orderly

variable {M D : Type} [Machine M] [Display D]

/-- The title that is selected after an operation. -/
theorem selected_operate (cfg : Config) (s : Session M D) (op : Operation) :
    (s.operate cfg op).session.desk.selected = (op.selection? cfg).or s.desk.selected := by
  rcases operation_eq op with ⟨step, rfl⟩ | ⟨source, rfl⟩
  · rw [operate_operation, desk_follow]
    exact selected_take cfg s.desk step
  · exact (sameFront_serveAll cfg source s).selected

/-- The title that is selected after a run is the last one that the run selects. -/
theorem selected_after (cfg : Config) (ops : List Operation) (s : Session M D) :
    (after cfg ops s).desk.selected =
      (ops.filterMap (Operation.selection? cfg)).getLast?.or s.desk.selected := by
  induction ops generalizing s with
  | nil => rfl
  | cons op ops ih =>
    rw [after_cons, ih, selected_operate, List.filterMap_cons]
    cases op.selection? cfg with
    | none => rfl
    | some title =>
      rw [List.getLast?_cons]
      cases (ops.filterMap (Operation.selection? cfg)).getLast? <;> rfl

/-- What the stages of a run select is what its operations select. -/
theorem selections_stages (cfg : Config) (ops : List Operation) (s : Session M D) :
    (stages cfg ops s).filterMap (fun stage => stage.operation.selection? cfg) =
      ops.filterMap (Operation.selection? cfg) := by
  have operations := congrArg (List.filterMap (Operation.selection? cfg))
    (map_operation_stages cfg ops s)
  rwa [List.filterMap_map] at operations

/-- An operation selects the same titles as its single steps. -/
theorem selections_steps (cfg : Config) (d : Desk) (op : Operation) :
    ((op.steps d).map Step.operation).filterMap (Operation.selection? cfg) =
      (op.selection? cfg).toList := by
  rcases operation_eq op with ⟨step, rfl⟩ | ⟨source, rfl⟩
  · have single : step.operation.steps d = [step] := by cases step <;> rfl
    rw [single]
    cases selection : step.operation.selection? cfg <;> simp [selection]
  · rw [List.filterMap_map]
    simp only [Operation.selection?, Option.toList_none, List.filterMap_eq_nil_iff]
    intro step member
    have serves := serves_of_mem_steps member
    cases step with
    | nextRequest => rfl
    | boot => cases serves
    | handle event => cases event <;> first | rfl | cases serves

/-- A run in single steps pops the same requests and selects the same titles. -/
theorem popped_singleStages (cfg : Config) (ops : List Operation) (s : Session M D) :
    (singleStages cfg ops s).flatMap Stage.popped = (stages cfg ops s).flatMap Stage.popped ∧
      (singleStages cfg ops s).filterMap (fun stage => stage.operation.selection? cfg) =
        ops.filterMap (Operation.selection? cfg) := by
  induction ops generalizing s with
  | nil => exact ⟨rfl, rfl⟩
  | cons op ops ih =>
    obtain ⟨popped, selected⟩ := ih (s.operate cfg op).session
    constructor
    · rw [singleStages_cons, List.flatMap_append, popped_steps, popped, stages, List.flatMap_cons]
    · rw [singleStages_cons, List.filterMap_append, selections_stages, selections_steps, selected,
        List.filterMap_cons]
      cases op.selection? cfg <;> rfl

/-- An error that an operation of a run reports is that of a single step of the run. -/
theorem error_mem_singleStages {cfg : Config} {ops : List Operation} {s : Session M D}
    {stage : Stage M D} (member : stage ∈ stages cfg ops s) {error : Error}
    (reported : stage.outcome.error = some error) :
    ∃ single ∈ singleStages cfg ops s, single.outcome.error = some error := by
  induction ops generalizing s with
  | nil => cases member
  | cons op ops ih =>
    rw [singleStages_cons]
    rcases List.mem_cons.mp member with rfl | later
    · rw [error_operate_eq_steps] at reported
      obtain ⟨single, isSingle, fails⟩ := List.exists_of_findSome?_eq_some reported
      exact ⟨single, List.mem_append_left _ isSingle, fails⟩
    · obtain ⟨single, isSingle, fails⟩ := ih later
      exact ⟨single, List.mem_append_right _ isSingle, fails⟩

/-- The docket after a fresh authentic run is in order. -/
theorem orderly_after (cfg : Config) (machine : M) (display : D) (ops : List Operation)
    (authentic : Authentic [] (stages cfg ops (fresh cfg machine display))) :
    Orderly cfg (singleStages cfg ops (fresh cfg machine display))
      (after cfg ops (fresh cfg machine display)).desk.docket := by
  have run := authentic_singleStages cfg ops [] _ authentic
  have initial : Orderly (M := M) (D := D) cfg [] (fresh cfg machine display).desk.docket :=
    Orderly.nil rfl rfl rfl
  have final := initial.steps (unroll cfg ops (fresh cfg machine display).desk) run
  rw [after_unroll] at final
  exact final

/-- The requests issued before a stage of a fresh authentic run: one with the ticket that is
awaited is for the selected title. -/
theorem mem_issued_of_awaited {cfg : Config} {machine : M} {display : D} {ops : List Operation}
    (authentic : Authentic [] (stages cfg ops (fresh cfg machine display)))
    {earlier later : List (Stage M D)} {stage : Stage M D}
    (split : singleStages cfg ops (fresh cfg machine display) = earlier ++ stage :: later)
    {ticket : Ticket} (awaited : stage.before.desk.awaited = some ticket) :
    (⟨ticket, stage.before.desk.selected.getD ""⟩ : Request) ∈ issued earlier stage := by
  obtain ⟨step, -, orderly⟩ := orderly_singleStages cfg machine display ops authentic split
  have current : stage.before.desk.docket.selected =
      (earlier.filterMap fun stage => stage.operation.selection? cfg).getLast? := by
    obtain ⟨before, op, rest, -, rfl, rfl, -⟩ := eq_of_stages_eq split
    rw [selections_stages]
    exact (selected_after cfg before _).trans Option.or_none
  have newest := ((orderly.awaited ticket).mp awaited).1
  obtain ⟨title, isIssued, isSelected⟩ := orderly.getElem?_newest newest current
  have selected : stage.before.desk.selected = some title := isSelected
  rw [selected, Option.getD_some]
  exact List.mem_of_getElem? isIssued

/-- After a fresh authentic run a request whose ticket is awaited is for the selected title. -/
theorem selected_of_awaited {cfg : Config} {machine : M} {display : D} {ops : List Operation}
    (authentic : Authentic [] (stages cfg ops (fresh cfg machine display))) {request : Request}
    (isIssued : request ∈ (stages cfg ops (fresh cfg machine display)).flatMap Stage.popped ++
      (after cfg ops (fresh cfg machine display)).desk.outbox)
    (awaited : (after cfg ops (fresh cfg machine display)).desk.awaited = some request.ticket) :
    (after cfg ops (fresh cfg machine display)).desk.selected = some request.title := by
  have orderly := orderly_after cfg machine display ops authentic
  obtain ⟨popped, selections⟩ := popped_singleStages cfg ops (fresh cfg machine display)
  have current : (after cfg ops (fresh cfg machine display)).desk.docket.selected =
      ((singleStages cfg ops (fresh cfg machine display)).filterMap fun stage =>
        stage.operation.selection? cfg).getLast? := by
    rw [selections]
    exact (selected_after cfg ops _).trans Option.or_none
  obtain ⟨title, isNewest, selected⟩ :=
    orderly.getElem?_newest ((orderly.awaited _).mp awaited).1 current
  rw [← popped] at isIssued
  have same : request = ⟨request.ticket, title⟩ :=
    List.inj_on_of_nodup_map orderly.nodup_tickets isIssued (List.mem_of_getElem? isNewest) rfl
  rw [same]
  exact selected

/-- The requests of a fresh authentic run are for titles on offer. -/
theorem isListed_of_issued {cfg : Config} {machine : M} {display : D} {ops : List Operation}
    (authentic : Authentic [] (stages cfg ops (fresh cfg machine display))) {request : Request}
    (isIssued : request ∈ (stages cfg ops (fresh cfg machine display)).flatMap Stage.popped ++
      (after cfg ops (fresh cfg machine display)).desk.outbox) :
    Catalog.isListed request.title = true := by
  have titles := (orderly_after cfg machine display ops authentic).titles
  obtain ⟨popped, selections⟩ := popped_singleStages cfg ops (fresh cfg machine display)
  rw [popped, selections] at titles
  have selected : request.title ∈ ops.filterMap (Operation.selection? cfg) := by
    rw [← titles]
    exact List.mem_map_of_mem isIssued
  obtain ⟨op, -, isSelected⟩ := List.mem_filterMap.mp selected
  unfold Operation.selection? at isSelected
  split at isSelected
  next => exact (Option.filter_eq_some_iff.mp isSelected).2
  next => exact (Option.filter_eq_some_iff.mp isSelected).2
  next => cases isSelected

/-- The requests of a fresh session, wherever its completions come from and whatever machine and
display do. Those popped and those in the outbox carry the tickets from zero up to the next one and
the selected titles, each in order. An awaited ticket is the newest, and its request is for the
selected title; while the outbox holds requests, the last of them is awaited. A program that the
session finds too large is refused under the title that was requested with its ticket, and all
failures are those of single steps. -/
theorem requests_follow_selections (cfg : Config) (machine : M) (display : D)
    (ops : List Operation)
    (authentic : Authentic [] (stages cfg ops (fresh cfg machine display))) :
    let s := fresh cfg machine display
    let d := (after cfg ops s).desk
    let all := (stages cfg ops s).flatMap Stage.popped ++ d.outbox
    all.map Request.ticket = (List.range d.nextTicket).map Ticket.mk ∧
    all.map Request.title = ops.filterMap (Operation.selection? cfg) ∧
    (∀ ticket, d.awaited = some ticket → ticket.number + 1 = d.nextTicket ∧
      ∃ title, all[ticket.number]? = some ⟨ticket, title⟩ ∧ d.selected = some title) ∧
    (∀ last, d.outbox.getLast? = some last → d.awaited = some last.ticket) ∧
    (∀ earlier stage later, singleStages cfg ops s = earlier ++ stage :: later →
      ∀ ticket program title size limit,
        stage.operation = .handle (.fetched ticket (.ok program)) →
        stage.outcome.error = some (.cartridge (.tooLarge title size limit)) →
        ⟨ticket, title⟩ ∈ issued earlier stage ∧
          size = program.size ∧ limit = cfg.maxProgramLength ∧ limit < size) ∧
    ∀ stage ∈ stages cfg ops s, ∀ error, stage.outcome.error = some error →
      ∃ single ∈ singleStages cfg ops s, single.outcome.error = some error := by
  intro s d all
  have orderly := orderly_after cfg machine display ops authentic
  obtain ⟨popped, selections⟩ := popped_singleStages cfg ops s
  have titles := orderly.titles
  have tickets := orderly.tickets
  rw [popped] at tickets
  rw [popped, selections] at titles
  refine ⟨tickets, titles, fun ticket awaited => ?_, fun last isLast => ?_,
    fun earlier stage later split ticket program title size limit completes refused => ?_,
    fun stage member error reported => error_mem_singleStages member reported⟩
  · have newest := ((orderly.awaited ticket).mp awaited).1
    have current : d.docket.selected =
        ((singleStages cfg ops s).filterMap fun stage =>
          stage.operation.selection? cfg).getLast? := by
      rw [selections]
      exact (selected_after cfg ops s).trans Option.or_none
    have request := orderly.getElem?_newest newest current
    rw [popped] at request
    exact ⟨newest, request⟩
  · exact orderly.awaited_of_getLast? isLast
  · obtain ⟨step, shape, -⟩ := orderly_singleStages cfg machine display ops authentic split
    rw [shape] at completes refused
    obtain rfl := operation_eq_handle_iff.mp completes
    rw [error_operate_of_serves cfg _ rfl] at refused
    obtain ⟨awaited, rfl, size, limit, exceeds⟩ :=
      (takes_take cfg stage.before.desk _).awaited_of_tooLarge refused
    exact ⟨mem_issued_of_awaited authentic split awaited, size, limit, exceeds⟩

/-- Two pixels in a row, and programs of one byte. -/
def cramped : Config := { resolution := ⟨2, 1⟩, pixelSize := 1, maxProgramLength := 1 }

/-- A host that selects twice before it completes both requests with programs that are too large,
and once more at the end. -/
def crowding : List Operation :=
  [.boot, .handle (.select "TETRIS"), .nextRequest, .nextRequest,
    .handle (.fetched ⟨0⟩ (.ok #[1, 2])), .handle (.fetched ⟨1⟩ (.ok #[3, 4, 5])),
    .handle (.select "UFO")]

/-- On a display that fails throughout, the newer program is refused under its own title and the
third request is still open. -/
theorem requests_crowding :
    let machine : StandIn.Scripted := ⟨#[0, 0], []⟩
    let display : StandIn.Monitor := { failing := true }
    let s := fresh cramped machine display
    let d := (after cramped crowding s).desk
    let all := (stages cramped crowding s).flatMap Stage.popped ++ d.outbox
    Authentic [] (stages cramped crowding s) ∧
      all = [⟨⟨0⟩, "PONG"⟩, ⟨⟨1⟩, "TETRIS"⟩, ⟨⟨2⟩, "UFO"⟩] ∧ d.outbox = [⟨⟨2⟩, "UFO"⟩] ∧
      all.map Request.title = crowding.filterMap (Operation.selection? cramped) ∧
      d.awaited = some ⟨2⟩ ∧
      ∃ single ∈ singleStages cramped crowding s,
        single.outcome.error = some (.cartridge (.tooLarge "TETRIS" 3 1)) := by
  intro machine display s d all
  have authentic : Authentic [] (stages cramped crowding s) := by
    simp [Authentic, stages, crowding]
    decide +kernel
  obtain ⟨-, titles, -, awaited, -, failures⟩ :=
    requests_follow_selections cramped _ _ crowding authentic
  have isOpen : d.outbox = [⟨⟨2⟩, "UFO"⟩] := by decide +kernel
  have refused : ∃ stage ∈ stages cramped crowding s,
      stage.outcome.error = some (.cartridge (.tooLarge "TETRIS" 3 1)) := by
    decide +kernel
  obtain ⟨stage, member, reported⟩ := refused
  refine ⟨authentic, by decide +kernel, isOpen, titles, ?_, failures stage member _ reported⟩
  exact awaited ⟨⟨2⟩, "UFO"⟩ (by rw [isOpen]; rfl)

end HexPlayer.Session
