import HexPlayer.Proofs.Session.Docket
import HexPlayer.Proofs.Session.Recording
import HexPlayer.StandIn.Monitor
import Mathlib.Data.List.Induction

/-!
# Tickets and completions

A host may bring back completions in any order, late, again or never; it only cannot make up a
ticket. `Orderly` ties the docket of a desk to what happened before: requests carry the tickets from
zero on in the order of the selections, and the newest ticket is awaited until it is completed.
From it follows which completions of a run bring a program into the machine.
-/

namespace HexPlayer.Session

open Cartridge (Request Source Ticket Program)

variable {M D : Type}

/-- The requests that a stage takes out of the outbox. -/
def Stage.popped (stage : Stage M D) : List Request :=
  match stage.operation with
  | .nextRequest => stage.handedOut.toList
  | .serveAll _ => stage.before.desk.outbox
  | .boot | .handle _ => []

/-- Every completion that the host dispatches carries the ticket of a request popped before: one of
`popped`, or one that an earlier stage pops. -/
def Authentic : (popped : List Request) → List (Stage M D) → Prop
  | _, [] => True
  | popped, stage :: rest =>
    (∀ ticket result, stage.operation = .handle (.fetched ticket result) →
        ticket ∈ popped.map Request.ticket) ∧
      Authentic (popped ++ stage.popped) rest

/-- The requests issued before a stage: those popped and those still open. -/
def issued (earlier : List (Stage M D)) (stage : Stage M D) : List Request :=
  earlier.flatMap Stage.popped ++ stage.before.desk.outbox

/-- The ticket whose completion loads a program in this stage. -/
def Stage.loadedTicket? (stage : Stage M D) : Option Ticket :=
  match stage.operation with
  | .handle (.fetched ticket _) => if loads stage.outcome.deeds = [] then none else some ticket
  | _ => none

/-- What a docket says of the stages before it. -/
structure Orderly (cfg : Config) (earlier : List (Stage M D)) (k : Docket) : Prop where
  tickets : (earlier.flatMap Stage.popped ++ k.outbox).map Request.ticket =
    (List.range k.nextTicket).map Ticket.mk
  titles : (earlier.flatMap Stage.popped ++ k.outbox).map Request.title =
    earlier.filterMap fun stage => stage.operation.selection? cfg
  completed : ∀ ticket ∈ earlier.flatMap Stage.completed,
    ticket ∈ (earlier.flatMap Stage.popped).map Request.ticket
  awaited : ∀ ticket, k.awaited = some ticket ↔
    ticket.number + 1 = k.nextTicket ∧ ticket ∉ earlier.flatMap Stage.completed

theorem authentic_append (popped : List Request) (first second : List (Stage M D)) :
    Authentic popped (first ++ second) ↔
      Authentic popped first ∧ Authentic (popped ++ first.flatMap Stage.popped) second := by
  induction first generalizing popped with
  | nil => simp [Authentic]
  | cons stage rest ih =>
    rw [List.cons_append, Authentic, Authentic, ih, List.flatMap_cons, List.append_assoc, and_assoc]

namespace Orderly

variable {cfg : Config} {earlier : List (Stage M D)} {k : Docket}

/-- Requests that were issued have tickets below the next one. -/
theorem number_lt (orderly : Orderly cfg earlier k) {ticket : Ticket}
    (completed : ticket ∈ earlier.flatMap Stage.completed) : ticket.number < k.nextTicket := by
  have popped := orderly.completed ticket completed
  have member : ticket ∈ (List.range k.nextTicket).map Ticket.mk := by
    rw [← orderly.tickets, List.map_append]
    exact List.mem_append_left _ popped
  obtain ⟨number, inRange, rfl⟩ := List.mem_map.mp member
  exact List.mem_range.mp inRange

/-- The next ticket was never completed. -/
theorem next_not_completed (orderly : Orderly cfg earlier k) :
    (⟨k.nextTicket⟩ : Ticket) ∉ earlier.flatMap Stage.completed := by
  intro completed
  exact Nat.lt_irrefl _ (orderly.number_lt completed)

theorem nil (empty : k.outbox = []) (unused : k.nextTicket = 0) (idle : k.awaited = none) :
    Orderly (M := M) (D := D) cfg [] k where
  tickets := by simp [empty, unused]
  titles := by simp [empty]
  completed := by simp
  awaited := by simp [idle, unused]

/-- Popping the oldest request moves it from the outbox to those popped. -/
theorem pop (orderly : Orderly cfg earlier k) {stage : Stage M D}
    (popped : stage.popped = k.outbox.head?.toList) (silent : stage.completed = [])
    (quiet : stage.operation.selection? cfg = none) :
    Orderly cfg (earlier ++ [stage]) { k with outbox := k.outbox.tail } := by
  have moved : (earlier ++ [stage]).flatMap Stage.popped ++ k.outbox.tail =
      earlier.flatMap Stage.popped ++ k.outbox := by
    cases queue : k.outbox with
    | nil => simp [popped, queue]
    | cons request rest => simp [popped, queue]
  have completions : (earlier ++ [stage]).flatMap Stage.completed =
      earlier.flatMap Stage.completed := by
    simp [silent]
  refine ⟨?_, ?_, ?_, ?_⟩
  · rw [moved]
    exact orderly.tickets
  · rw [moved, orderly.titles]
    simp [List.filterMap_append, quiet]
  · intro ticket member
    rw [completions] at member
    rw [List.flatMap_append, List.map_append]
    exact List.mem_append_left _ (orderly.completed ticket member)
  · rw [completions]
    exact orderly.awaited

/-- A completion ends the wait for its ticket, and no other wait. -/
theorem complete (orderly : Orderly cfg earlier k) {stage : Stage M D} {ticket : Ticket}
    (unpopped : stage.popped = []) (heard : stage.completed = [ticket])
    (quiet : stage.operation.selection? cfg = none)
    (authentic : ticket ∈ (earlier.flatMap Stage.popped).map Request.ticket) :
    Orderly cfg (earlier ++ [stage]) (k.complete ticket) := by
  have same : (earlier ++ [stage]).flatMap Stage.popped =
      earlier.flatMap Stage.popped := by
    simp [unpopped]
  have selections : (earlier ++ [stage]).filterMap (fun stage => stage.operation.selection? cfg) =
      earlier.filterMap fun stage => stage.operation.selection? cfg := by
    simp [List.filterMap_append, quiet]
  have completions : (earlier ++ [stage]).flatMap Stage.completed =
      earlier.flatMap Stage.completed ++ [ticket] := by
    simp [heard]
  have outbox : (k.complete ticket).outbox = k.outbox := by
    unfold Docket.complete
    split <;> rfl
  have nextTicket : (k.complete ticket).nextTicket = k.nextTicket := by
    unfold Docket.complete
    split <;> rfl
  refine ⟨?_, ?_, ?_, ?_⟩
  · rw [same, outbox, nextTicket]
    exact orderly.tickets
  · rw [same, outbox, selections]
    exact orderly.titles
  · intro other member
    rw [completions] at member
    rw [same]
    rcases List.mem_append.mp member with before | now
    · exact orderly.completed other before
    · rwa [List.mem_singleton.mp now]
  -- a wait for this ticket ends, and a wait for any other ticket goes on
  · intro other
    rw [nextTicket, completions, List.mem_append, List.mem_singleton, not_or, ← and_assoc,
      ← orderly.awaited other]
    unfold Docket.complete
    by_cases awaited : k.awaited = some ticket
    · simp [awaited, eq_comm]
    · rw [if_neg awaited]
      constructor
      · intro waits
        exact ⟨waits, fun equal => awaited (equal ▸ waits)⟩
      · exact And.left

/-- A selection issues the next ticket; any other operation issues none. -/
theorem select (orderly : Orderly cfg earlier k) {stage : Stage M D}
    (unpopped : stage.popped = []) (silent : stage.completed = []) :
    Orderly cfg (earlier ++ [stage]) ((stage.operation.selection? cfg).elim k k.request) := by
  have same : (earlier ++ [stage]).flatMap Stage.popped =
      earlier.flatMap Stage.popped := by
    simp [unpopped]
  have completions : (earlier ++ [stage]).flatMap Stage.completed =
      earlier.flatMap Stage.completed := by
    simp [silent]
  cases selection : stage.operation.selection? cfg with
  | none =>
    refine ⟨?_, ?_, ?_, ?_⟩
    · rw [same]
      exact orderly.tickets
    · rw [same, List.filterMap_append]
      simpa [selection] using orderly.titles
    · rw [same, completions]
      exact orderly.completed
    · rw [completions]
      exact orderly.awaited
  | some title =>
    refine ⟨?_, ?_, ?_, ?_⟩
    · rw [same]
      simp only [Option.elim_some, Docket.request]
      rw [← List.append_assoc, List.map_append, orderly.tickets, List.range_succ, List.map_append]
      rfl
    · rw [same, List.filterMap_append]
      simp only [Option.elim_some, Docket.request]
      rw [← List.append_assoc, List.map_append, orderly.titles]
      simp [selection]
    · rw [same, completions]
      exact orderly.completed
    · intro ticket
      rw [completions]
      simp only [Option.elim_some, Docket.request, Option.some.injEq]
      constructor
      · intro newest
        subst newest
        exact ⟨rfl, orderly.next_not_completed⟩
      · intro newest
        have number := Nat.add_right_cancel newest.1
        rw [← number]

/-- The newest ticket is the one before the next. -/
theorem newest_iff (orderly : Orderly cfg earlier k) (ticket : Ticket) :
    (earlier.flatMap Stage.popped ++ k.outbox).getLast?.map Request.ticket = some ticket ↔
      ticket.number + 1 = k.nextTicket := by
  rw [← List.getLast?_map, orderly.tickets, List.getLast?_map, List.getLast?_range]
  obtain ⟨number⟩ := ticket
  split
  next unused => simp [unused]
  next used =>
    simp only [Option.map_some, Option.some.injEq, Ticket.mk.injEq]
    omega

/-- A request that another one followed has a ticket below the newest. -/
theorem superseded (orderly : Orderly cfg earlier k) {request : Request}
    (older : request ∈ (earlier.flatMap Stage.popped ++ k.outbox).dropLast) :
    request.ticket.number + 1 < k.nextTicket := by
  have member : request.ticket ∈ ((List.range k.nextTicket).map Ticket.mk).dropLast := by
    rw [← orderly.tickets, ← List.map_dropLast]
    exact List.mem_map_of_mem older
  cases count : k.nextTicket with
  | zero => simp [count] at member
  | succ newest =>
    rw [count, List.range_succ, List.map_append, List.map_singleton, List.dropLast_concat] at member
    obtain ⟨number, inRange, equal⟩ := List.mem_map.mp member
    have below := List.mem_range.mp inRange
    rw [← equal]
    exact Nat.succ_lt_succ below

end Orderly

theorem nextRequest_fst (s : Session M D) : s.nextRequest.1 = s.desk.outbox.head? := by
  unfold nextRequest
  split
  next empty => rw [empty, List.head?_nil]
  next request rest queue => rw [queue, List.head?_cons]

theorem loadedTicket?_eq_some_iff {stage : Stage M D} {ticket : Ticket} :
    stage.loadedTicket? = some ticket ↔
      ∃ result, stage.operation = .handle (.fetched ticket result) ∧
        loads stage.outcome.deeds ≠ [] := by
  unfold Stage.loadedTicket?
  split
  next other result completes =>
    rw [completes]
    by_cases none : loads stage.outcome.deeds = []
    · simp [none]
    · simp [none]
  next notCompletion =>
    constructor
    · intro loaded
      cases loaded
    · intro loaded
      obtain ⟨result, completes, -⟩ := loaded
      exact absurd completes (notCompletion ticket result)

/-- Tickets that are each new when their program is loaded are distinct. -/
theorem nodup_loadedTicket {run : List (Stage M D)}
    (new : ∀ earlier stage later, run = earlier ++ stage :: later →
      ∀ ticket, stage.loadedTicket? = some ticket → ticket ∉ earlier.flatMap Stage.completed) :
    (run.filterMap Stage.loadedTicket?).Nodup := by
  -- from the right: whatever an earlier stage loaded, it completed, and so it is not new at the end
  induction run using List.reverseRecOn with
  | nil => exact List.nodup_nil
  | append_singleton earlier last ih =>
    have before := ih fun first stage rest split =>
      new first stage (rest ++ [last]) (by simp [split])
    rw [List.filterMap_append, List.filterMap_cons, List.filterMap_nil]
    cases loaded : last.loadedTicket? with
    | none => simpa using before
    | some ticket =>
      rw [List.nodup_append]
      refine ⟨before, by simp, fun other member _ isLast same => ?_⟩
      obtain ⟨stage, isEarlier, loadedBefore⟩ := List.mem_filterMap.mp member
      obtain ⟨result, completes, -⟩ := loadedTicket?_eq_some_iff.mp loadedBefore
      have completed : other ∈ earlier.flatMap Stage.completed :=
        List.mem_flatMap.mpr ⟨stage, isEarlier, by simp [Stage.completed, completes]⟩
      rw [same, List.mem_singleton.mp isLast] at completed
      exact new earlier last [] rfl ticket loaded completed

variable [Machine M] [Display D]

/-- A step keeps the docket in order, if a completion among it is authentic. -/
theorem Orderly.step {cfg : Config} {earlier : List (Stage M D)} {s : Session M D}
    (orderly : Orderly cfg earlier s.desk.docket) (step : Step)
    (authentic : ∀ ticket result, step.operation = .handle (.fetched ticket result) →
      ticket ∈ (earlier.flatMap Stage.popped).map Request.ticket) :
    Orderly cfg (earlier ++ [⟨s, step.operation, s.operate cfg step.operation⟩])
      (s.operate cfg step.operation).session.desk.docket := by
  rw [operate_operation, desk_follow, docket_take]
  cases step with
  | boot => exact orderly.select rfl rfl
  | nextRequest => exact orderly.pop (congrArg Option.toList (nextRequest_fst s)) rfl rfl
  | handle event =>
    cases event with
    | fetched ticket result =>
      exact orderly.complete rfl rfl rfl (authentic ticket result rfl)
    | key code edge => exact orderly.select rfl rfl
    | refresh => exact orderly.select rfl rfl
    | playPause => exact orderly.select rfl rfl
    | step => exact orderly.select rfl rfl
    | reset => exact orderly.select rfl rfl
    | select title => exact orderly.select rfl rfl

/-- Steps keep the docket in order. -/
theorem Orderly.steps {cfg : Config} {earlier : List (Stage M D)} {s : Session M D}
    (orderly : Orderly cfg earlier s.desk.docket) (steps : List Step)
    (authentic : Authentic (earlier.flatMap Stage.popped)
      (stages cfg (steps.map Step.operation) s)) :
    Orderly cfg (earlier ++ stages cfg (steps.map Step.operation) s)
      (after cfg (steps.map Step.operation) s).desk.docket := by
  induction steps generalizing earlier s with
  | nil => simpa [stages] using orderly
  | cons step rest ih =>
    obtain ⟨now, later⟩ := authentic
    have next := ih (orderly.step step now)
    rw [List.flatMap_append, List.flatMap_singleton] at next
    simpa [stages] using next later

/-- The oldest request is the one that `nextRequest` pops. -/
theorem popped_nextRequest (cfg : Config) (s : Session M D) :
    Stage.popped ⟨s, .nextRequest, s.operate cfg .nextRequest⟩ = s.desk.outbox.head?.toList :=
  congrArg Option.toList (nextRequest_fst s)

section Serving

variable (cfg : Config) (source : Source) (queue : List Request) (s : Session M D)
  (isOutbox : s.desk.outbox = queue)
include isOutbox

/-- Serving a queue pops its requests in order. -/
theorem popped_serving :
    (stages cfg ((queue.flatMap (serving source)).map Step.operation) s).flatMap Stage.popped =
      queue := by
  induction queue generalizing s with
  | nil => rfl
  | cons request rest ih =>
    have left : (after cfg ((serving source request).map Step.operation) s).desk.outbox = rest := by
      rw [desk_after_steps, outbox_walk_serving cfg source request rest _ isOutbox]
    have first : (stages cfg ((serving source request).map Step.operation) s).flatMap
        Stage.popped = [request] := by
      have oldest := popped_nextRequest cfg s
      rw [isOutbox, List.head?_cons, Option.toList_some] at oldest
      exact congrArg (· ++ []) oldest
    rw [List.flatMap_cons, List.map_append, stages_append, List.flatMap_append, first, ih _ left,
      List.singleton_append]

/-- Serving a queue is authentic: each request is popped right before its completion. -/
theorem authentic_serving (popped : List Request) :
    Authentic popped (stages cfg ((queue.flatMap (serving source)).map Step.operation) s) := by
  induction queue generalizing popped s with
  | nil => trivial
  | cons request rest ih =>
    have left : (after cfg ((serving source request).map Step.operation) s).desk.outbox = rest := by
      rw [desk_after_steps, outbox_walk_serving cfg source request rest _ isOutbox]
    rw [List.flatMap_cons, List.map_append, stages_append, authentic_append]
    refine ⟨⟨?_, ?_, trivial⟩, ih _ left _⟩
    · intro ticket result completes
      cases completes
    · intro ticket result completes
      cases completes
      simp [Step.operation, popped_nextRequest, isOutbox]

end Serving

/-- An operation pops the same requests as its single steps. -/
theorem popped_steps (cfg : Config) (s : Session M D) (op : Operation) :
    (stages cfg ((op.steps s.desk).map Step.operation) s).flatMap Stage.popped =
      Stage.popped ⟨s, op, s.operate cfg op⟩ := by
  cases op with
  | boot => rfl
  | handle event => rfl
  | nextRequest => exact List.append_nil _
  | serveAll source => exact popped_serving cfg source s.desk.outbox s rfl

/-- A run that is authentic is so in single steps. -/
theorem authentic_singleStages (cfg : Config) (ops : List Operation) (popped : List Request)
    (s : Session M D) (authentic : Authentic popped (stages cfg ops s)) :
    Authentic popped (singleStages cfg ops s) := by
  induction ops generalizing popped s with
  | nil => trivial
  | cons op ops ih =>
    obtain ⟨now, later⟩ := authentic
    have first := (operate_eq_steps cfg s op).1
    have desk : (after cfg ((op.steps s.desk).map Step.operation) s).desk =
        s.desk.walk cfg (op.steps s.desk) := desk_after_steps cfg _ s
    rw [singleStages, unroll, List.map_append, stages_append, authentic_append, popped_steps,
      ← desk, ← first]
    refine ⟨?_, ih _ _ later⟩
    cases op with
    | boot => exact ⟨now, trivial⟩
    | handle event => exact ⟨now, trivial⟩
    | nextRequest => exact ⟨now, trivial⟩
    | serveAll source => exact authentic_serving cfg source _ s rfl popped

/-- What a step loads is decided by the ticket that is awaited. -/
theorem loads_operate (cfg : Config) (s : Session M D) (step : Step) :
    loads (s.operate cfg step.operation).deeds = (step.program? cfg s.desk.awaited).toList := by
  rw [operate_operation, ← loadsOf_take]
  exact congrArg (List.filterMap Call.program?) (calls_performAll cfg _ _)

/-- A stage of a fresh authentic run in single steps is a step at a docket in order. -/
theorem orderly_singleStages (cfg : Config) (machine : M) (display : D) (ops : List Operation)
    (authentic : Authentic [] (stages cfg ops (fresh cfg machine display)))
    {earlier later : List (Stage M D)} {stage : Stage M D}
    (split : singleStages cfg ops (fresh cfg machine display) = earlier ++ stage :: later) :
    ∃ step : Step, stage = ⟨stage.before, step.operation, stage.before.operate cfg step.operation⟩ ∧
      Orderly cfg earlier stage.before.desk.docket := by
  have run := authentic_singleStages cfg ops [] _ authentic
  obtain ⟨before, op, rest, told, rfl, rfl, -⟩ := eq_of_stages_eq split
  obtain ⟨first, others, -, rfl, remaining⟩ := List.map_eq_append_iff.mp told
  obtain ⟨step, second, -, rfl, -⟩ := List.map_eq_cons_iff.mp remaining
  rw [split, authentic_append] at run
  have initial : Orderly (M := M) (D := D) cfg [] (fresh cfg machine display).desk.docket :=
    Orderly.nil rfl rfl rfl
  exact ⟨step, rfl, by simpa using initial.steps first run.1⟩

/-- Only the awaited ticket loads, and only if the host has not completed it before. -/
theorem loads_iff_awaited {cfg : Config} {stage : Stage M D} {step : Step}
    (shape : stage = ⟨stage.before, step.operation, stage.before.operate cfg step.operation⟩)
    (program : Program) :
    loads stage.outcome.deeds = [program] ↔
      ∃ ticket, stage.operation = .handle (.fetched ticket (.ok program)) ∧
        stage.before.desk.docket.awaited = some ticket ∧
        program.size ≤ cfg.maxProgramLength := by
  have loaded : loads stage.outcome.deeds =
      (step.program? cfg stage.before.desk.awaited).toList := by
    rw [shape]
    exact loads_operate cfg stage.before step
  have operation : stage.operation = step.operation := by rw [shape]
  rw [loaded, operation, Option.toList_eq_singleton_iff, program?_eq_some_iff]
  exact exists_congr fun ticket => and_congr_left fun _ => operation_eq_handle_iff.symm

/-- A stage that loads for a ticket loads for the awaited one. -/
theorem awaited_of_loadedTicket {cfg : Config} {stage : Stage M D} {step : Step} {ticket : Ticket}
    (shape : stage = ⟨stage.before, step.operation, stage.before.operate cfg step.operation⟩)
    (loaded : stage.loadedTicket? = some ticket) :
    stage.before.desk.docket.awaited = some ticket := by
  obtain ⟨result, completes, nonempty⟩ := loadedTicket?_eq_some_iff.mp loaded
  rw [shape] at completes
  have isCompletion := operation_eq_handle_iff.mp completes
  by_contra notAwaited
  apply nonempty
  rw [shape, isCompletion, loads_operate]
  exact congrArg Option.toList (if_neg notAwaited)

/-- Completions of a fresh session. In single steps, a program is loaded exactly by the first
completion of the newest request, if it delivers a program within the limit; no ticket loads twice,
and a request that another selection followed is never loaded. The machine gets the loads, as it
gets every other call. -/
theorem loads_iff_newest_uncompleted (cfg : Config) (machine : M) (display : D)
    (ops : List Operation)
    (authentic : Authentic [] (stages cfg ops (fresh cfg machine display))) :
    let s := fresh cfg machine display
    let run := singleStages cfg ops s
    (calls (deeds cfg ops s) = run.flatMap fun stage => calls stage.outcome.deeds) ∧
    (after cfg ops s).machine = Machine.afterCalls (calls (deeds cfg ops s)) machine ∧
    (∀ earlier stage later, run = earlier ++ stage :: later →
      stage.outcome.session.machine =
        Machine.afterCalls (calls stage.outcome.deeds) stage.before.machine ∧
      (∀ program, loads stage.outcome.deeds = [program] ↔
        ∃ ticket, stage.operation = .handle (.fetched ticket (.ok program)) ∧
          (issued earlier stage).getLast?.map Request.ticket = some ticket ∧
          ticket ∉ earlier.flatMap Stage.completed ∧
          program.size ≤ cfg.maxProgramLength) ∧
      (loads stage.outcome.deeds).length ≤ 1 ∧
      (issued earlier stage).map Request.title =
        earlier.filterMap (fun stage => stage.operation.selection? cfg) ∧
      ∀ request ∈ (issued earlier stage).dropLast,
        stage.loadedTicket? ≠ some request.ticket) ∧
    (run.filterMap Stage.loadedTicket?).Nodup := by
  intro s run
  refine ⟨calls_singleStages cfg ops _, machine_after cfg ops s,
    fun earlier stage later split => ?_,
    nodup_loadedTicket fun earlier stage later split ticket loaded => ?_⟩
  -- the docket before a stage knows the newest ticket and whether it still is awaited
  · obtain ⟨step, shape, orderly⟩ := orderly_singleStages cfg machine display ops authentic split
    have member : stage ∈ run := by
      rw [split]
      simp
    refine ⟨(effects_of_mem_stages member).machine, fun program => ?_, ?_, orderly.titles,
      fun request older loaded => ?_⟩
    · rw [loads_iff_awaited shape]
      refine exists_congr fun ticket => and_congr_right fun _ => ?_
      rw [orderly.awaited, issued, ← orderly.newest_iff, and_assoc]
      rfl
    · rw [shape, loads_operate]
      exact Option.length_toList_le
    · have awaited := awaited_of_loadedTicket shape loaded
      have newest := ((orderly.awaited _).mp awaited).1
      have below := orderly.superseded older
      omega
  · obtain ⟨step, shape, orderly⟩ := orderly_singleStages cfg machine display ops authentic split
    exact ((orderly.awaited ticket).mp (awaited_of_loadedTicket shape loaded)).2

/-- Two pixels in a row. -/
def pair : Config := { resolution := ⟨2, 1⟩, pixelSize := 1 }

/-- A host that completes a superseded request late and the newest ones twice. -/
def impatient : List Operation :=
  [.handle (.select "TETRIS"), .nextRequest, .handle (.select "UFO"), .nextRequest,
    .handle (.fetched ⟨0⟩ (.ok #[1])), .handle (.fetched ⟨1⟩ (.ok #[2, 3])),
    .handle (.fetched ⟨1⟩ (.ok #[2, 3])), .handle (.select "TETRIS"),
    .serveAll (.ofPrograms [("TETRIS", #[7])]), .handle (.fetched ⟨2⟩ (.ok #[7]))]

/-- The programs of the newest requests get into the machine, each once. -/
theorem loads_impatient :
    let machine : StandIn.Tape := { frame := #[0, 0] }
    let s := fresh pair machine ({} : StandIn.Monitor)
    let made : List Call := [.reset, .reset, .load #[2, 3], .reset, .load #[7]]
    Authentic [] (stages pair impatient s) ∧
      calls (deeds pair impatient s) = made ∧ (after pair impatient s).machine.made = made ∧
      (after pair impatient s).machine = Machine.afterCalls made machine ∧
      ((singleStages pair impatient s).filterMap Stage.loadedTicket?).Nodup := by
  intro machine s made
  have authentic : Authentic [] (stages pair impatient s) := by
    simp [Authentic, stages, impatient]
    decide +kernel
  have isMade : calls (deeds pair impatient s) = made := by decide +kernel
  obtain ⟨-, reached, -, once⟩ :=
    loads_iff_newest_uncompleted pair machine ({} : StandIn.Monitor) impatient authentic
  exact ⟨authentic, isMade, (made_after pair impatient s).trans isMade,
    reached.trans (by rw [isMade]), once⟩

end HexPlayer.Session
