import HexPlayer.Proofs.Session.Trace

/-!
# Loads and resets

A program is loaded only for the request that is awaited, and a request is awaited only from its
own selection to its first completion or to the next selection. Every selection resets the machine,
and booting is the one way to request a program without a reset. So in a session that is booted
first, if at all, no program is loaded on top of another one.
-/

namespace HexPlayer.Session

open Cartridge (Program Ticket)

/-- A member of a concatenation is a member of one of its parts. -/
theorem exists_of_flatMap_eq {α β : Type} {parts : α → List β} {whole : List α}
    {before after : List β} {b : β} (split : whole.flatMap parts = before ++ b :: after) :
    ∃ first a rest front back, whole = first ++ a :: rest ∧ parts a = front ++ b :: back ∧
      before = first.flatMap parts ++ front := by
  induction whole generalizing before with
  | nil => simp at split
  | cons a whole ih =>
    rw [List.flatMap_cons] at split
    rcases List.append_eq_append_iff.mp split with ⟨more, rfl, later⟩ | ⟨back, here, rest⟩
    · obtain ⟨first, other, rest, front, back, rfl, isPart, rfl⟩ := ih later
      exact ⟨a :: first, other, rest, front, back, rfl, isPart, by simp⟩
    · cases back with
      | nil =>
        have later : whole.flatMap parts = [] ++ b :: after := rest.symm
        obtain ⟨first, other, others, front, back, rfl, isPart, none⟩ := ih later
        rw [List.append_nil] at here
        refine ⟨a :: first, other, others, front, back, rfl, isPart, ?_⟩
        rw [List.flatMap_cons, List.append_assoc, ← none, List.append_nil, here]
      | cons other back =>
        obtain ⟨rfl, -⟩ := List.cons.inj rest
        exact ⟨[], a, whole, before, back, rfl, here, rfl⟩

/-- A separator that nothing equal to an earlier member follows lies behind that member. -/
theorem mem_of_append_eq_append {α : Type} {before between first rest : List α} {a b : α}
    (split : before ++ a :: between = first ++ b :: rest) (differ : a ≠ b) (absent : a ∉ rest) :
    b ∈ between := by
  rcases List.append_eq_append_iff.mp split with ⟨more, -, later⟩ | ⟨back, -, others⟩
  · cases more with
    | nil => exact absurd (List.cons.inj later).1 differ
    | cons other more =>
      obtain ⟨-, rfl⟩ := List.cons.inj later
      simp
  · cases back with
    | nil => exact absurd (List.cons.inj others).1.symm differ
    | cons other back =>
      obtain ⟨-, rfl⟩ := List.cons.inj others
      simp at absent

section History

variable {cfg : Config}

/-- Steps that select nothing leave a ticket awaited if none of them completes it. -/
theorem awaitedAfter_append {past later : List Step}
    (silent : ∀ step ∈ later, step.operation.selection? cfg = none) :
    awaitedAfter cfg (past ++ later) =
      (awaitedAfter cfg past).filter fun ticket =>
        later.all fun step => !step.completes ticket := by
  -- from the end, where `awaitedAfter` takes a step
  induction later using List.reverseRecOn with
  | nil => cases awaited : awaitedAfter cfg past <;> simp [awaited, Option.filter]
  | append_singleton later step ih =>
    have before := ih fun other member => silent other (List.mem_append_left _ member)
    have now := silent step (by simp)
    rw [← List.append_assoc, awaitedAfter_concat_of_none now, before, Option.filter_filter]
    simp [Bool.and_comm]

/-- While a ticket stays awaited nothing is loaded. -/
theorem not_mem_block_of_awaitedAfter {past later : List Step} {step : Step} {ticket : Ticket}
    (silent : ∀ other ∈ step :: later, other.operation.selection? cfg = none)
    (awaited : awaitedAfter cfg (past ++ step :: later) = some ticket) (program : Program) :
    .call (.load program) ∉ block cfg past step := by
  intro loads
  obtain ⟨-, other, rfl, waits⟩ := exists_ticket_of_load loads
  rw [awaitedAfter_append silent, waits, Option.filter_eq_some_iff] at awaited
  simp only [List.all_cons, Step.completes, Option.some.injEq] at awaited
  obtain ⟨rfl, uncompleted⟩ := awaited
  simp at uncompleted

/-- The only operation whose steps boot is booting. -/
theorem eq_boot_of_mem_steps {op : Operation} {d : Desk} (boots : Step.boot ∈ op.steps d) :
    op = .boot := by
  cases op with
  | boot => rfl
  | handle event => simp [Operation.steps] at boots
  | nextRequest => simp [Operation.steps] at boots
  | serveAll source => cases serves_of_mem_steps boots

theorem boot_mem_of_mem_unroll {ops : List Operation} {d : Desk}
    (boots : Step.boot ∈ unroll cfg ops d) : .boot ∈ ops := by
  induction ops generalizing d with
  | nil => cases boots
  | cons op ops ih =>
    rw [unroll, List.mem_append] at boots
    rcases boots with now | later
    · rw [eq_boot_of_mem_steps now]
      exact List.mem_cons_self
    · exact List.mem_cons_of_mem _ (ih later)

/-- A run that boots first, if at all, does so in its first step. -/
theorem eq_nil_of_boot {ops : List Operation} (bootedFirst : .boot ∉ ops.tail) {d : Desk}
    {first rest : List Step} (split : unroll cfg ops d = first ++ .boot :: rest) : first = [] := by
  cases ops with
  | nil => simp [unroll] at split
  | cons op ops =>
    have unbooted : Step.boot ∉ unroll cfg ops (d.walk cfg (op.steps d)) := fun boots =>
      bootedFirst (boot_mem_of_mem_unroll boots)
    rw [unroll] at split
    rcases List.append_eq_append_iff.mp split with ⟨more, -, later⟩ | ⟨back, here, others⟩
    · simp [later] at unbooted
    · cases back with
      | nil =>
        rw [List.nil_append] at others
        simp [← others] at unbooted
      | cons step back =>
        obtain ⟨rfl, -⟩ := List.cons.inj others
        have boots : Step.boot ∈ op.steps d := by simp [here]
        obtain rfl := eq_boot_of_mem_steps boots
        cases first with
        | nil => rfl
        | cons other first => simp [Operation.steps] at here

/-- A load answers the last selection before it, and nothing else was loaded since. If the selection
was not booting, its block has the reset of the machine. -/
theorem exists_issue_of_load {past : List Step} {step : Step} {program : Program}
    (loads : .call (.load program) ∈ block cfg past step) :
    ∃ first issue between title, past = first ++ issue :: between ∧
      step = .handle (.fetched ⟨(selectionsOf cfg first).length⟩ (.ok program)) ∧
      issue.operation.selection? cfg = some title ∧
      (∀ other ∈ between, other.operation.selection? cfg = none) ∧
      (∀ prior other rest, between = prior ++ other :: rest →
        ∀ loaded, .call (.load loaded) ∉ block cfg (first ++ [issue] ++ prior) other) ∧
      (issue = .boot ∨ issue = .handle (.select title) ∧
        block cfg first issue = [.call .reset, .presentation]) := by
  obtain ⟨-, ticket, rfl, awaited⟩ := exists_ticket_of_load loads
  obtain ⟨first, issue, between, title, rfl, selects, rfl, silent⟩ :=
    exists_issue_of_awaitedAfter awaited
  refine ⟨first, issue, between, title, rfl, rfl, selects, silent, ?_,
    block_of_selection first selects⟩
  rintro prior other rest rfl
  have still : awaitedAfter cfg (first ++ [issue] ++ prior ++ other :: rest) =
      some ⟨(selectionsOf cfg first).length⟩ := by simpa using awaited
  exact not_mem_block_of_awaitedAfter
    (fun step member => silent step (List.mem_append_right _ member)) still

end History

variable {M D : Type} [Machine M] [Display D]

/-- A stage of a run in single steps is a step that the session after the steps before it meets. -/
theorem exists_steps_of_singleStages {cfg : Config} {ops : List Operation} {s : Session M D}
    {earlier later : List (Stage M D)} {stage : Stage M D}
    (split : singleStages cfg ops s = earlier ++ stage :: later) :
    ∃ past step rest, unroll cfg ops s.desk = past ++ step :: rest ∧
      earlier = stages cfg (past.map Step.operation) s ∧
      stage = ⟨after cfg (past.map Step.operation) s, step.operation,
        (after cfg (past.map Step.operation) s).operate cfg step.operation⟩ := by
  obtain ⟨before, op, others, told, rfl, rfl, -⟩ := eq_of_stages_eq split
  obtain ⟨past, remaining, isRun, rfl, remains⟩ := List.map_eq_append_iff.mp told
  obtain ⟨step, rest, rfl, rfl, -⟩ := List.map_eq_cons_iff.mp remains
  exact ⟨past, step, rest, isRun, rfl, rfl⟩

/-- The calls of a step are those in its block. -/
theorem calls_after_steps (cfg : Config) (machine : M) (display : D) (past : List Step)
    (step : Step) :
    calls ((after cfg (past.map Step.operation) (fresh cfg machine display)).operate cfg
      step.operation).deeds = callsIn (block cfg past step) := by
  let d : Desk := Desk.walk cfg {} past
  have met : (after cfg (past.map Step.operation) (fresh cfg machine display)).desk = d :=
    desk_after_steps cfg past _
  have state : d.transport.state = stateAfter past := state_walk cfg past
  have awaited : d.awaited = awaitedAfter cfg past := (tickets_walk cfg past).2
  rw [calls_operate, met, callsOf_eq_callsIn, (takes_take cfg d step).traceOf, block, state,
    awaited]

/-- The stages of steps that come after others make the calls in the blocks of the steps. -/
theorem exists_block_of_mem_stages {cfg : Config} {machine : M} {display : D}
    {past steps : List Step} {stage : Stage M D}
    (member : stage ∈ stages cfg (steps.map Step.operation)
      (after cfg (past.map Step.operation) (fresh cfg machine display))) :
    ∃ prior step rest, steps = prior ++ step :: rest ∧ stage.operation = step.operation ∧
      calls stage.outcome.deeds = callsIn (block cfg (past ++ prior) step) := by
  obtain ⟨before, op, others, told, rfl⟩ := exists_of_mem_stages member
  obtain ⟨prior, remaining, rfl, rfl, remains⟩ := List.map_eq_append_iff.mp told
  obtain ⟨step, rest, rfl, rfl, -⟩ := List.map_eq_cons_iff.mp remains
  refine ⟨prior, step, rest, rfl, rfl, ?_⟩
  have made := calls_after_steps cfg machine display (past ++ prior) step
  rwa [List.map_append, after_append] at made

/-- The stages are the last selection and its load: a request goes to the outbox in `issue`, nothing
is selected and nothing loaded `between`, and `stage` loads what was delivered for the request. -/
structure LoadedFor (cfg : Config) (title : String) (program : Program) (issue : Stage M D)
    (between : List (Stage M D)) (stage : Stage M D) : Prop where
  selected : issue.operation.selection? cfg = some title
  unselected : ∀ other ∈ between, other.operation.selection? cfg = none
  unloaded : ∀ other ∈ between, ∀ program, .load program ∉ calls other.outcome.deeds
  loaded : calls stage.outcome.deeds = [.load program]
  answered : ∃ ticket, stage.operation = .handle (.fetched ticket (.ok program)) ∧
    issue.outcome.session.desk.outbox = issue.before.desk.outbox ++ [⟨ticket, title⟩]
  origin : issue.operation = .boot ∧ calls issue.outcome.deeds = [] ∨
    issue.operation = .handle (.select title) ∧ calls issue.outcome.deeds = [.reset]

/-- A stage that loads a program loads it for the last selection before it. -/
theorem exists_loadedFor {cfg : Config} {machine : M} {display : D} {ops : List Operation}
    {earlier later : List (Stage M D)} {stage : Stage M D}
    (split : singleStages cfg ops (fresh cfg machine display) = earlier ++ stage :: later)
    {program : Program} (loads : .load program ∈ calls stage.outcome.deeds) :
    ∃ first issue between title, earlier = first ++ issue :: between ∧
      LoadedFor cfg title program issue between stage ∧
      (.boot ∉ ops.tail → issue.operation = .boot → first = []) := by
  obtain ⟨steps, step, rest, isRun, rfl, rfl⟩ := exists_steps_of_singleStages split
  let s := fresh cfg machine display
  have made := calls_after_steps cfg machine display
  rw [made, mem_callsIn] at loads
  obtain ⟨alone, -⟩ := exists_ticket_of_load loads
  obtain ⟨past, issue, between, title, rfl, rfl, selects, silent, unloaded, origin⟩ :=
    exists_issue_of_load loads
  -- the stages are cut where the steps are
  let met := after cfg (past.map Step.operation) s
  refine ⟨stages cfg (past.map Step.operation) s,
    ⟨met, issue.operation, met.operate cfg issue.operation⟩,
    stages cfg (between.map Step.operation)
      (after cfg ((past ++ [issue]).map Step.operation) s), title, ?_, ?_, ?_⟩
  · rw [List.map_append, stages_append, List.map_append, after_append]
    rfl
  · have unselected : ∀ other ∈ stages cfg (between.map Step.operation)
        (after cfg ((past ++ [issue]).map Step.operation) s),
        other.operation.selection? cfg = none := by
      intro other member
      obtain ⟨prior, told, rest, rfl, isTold, -⟩ := exists_block_of_mem_stages member
      rw [isTold]
      exact silent told (by simp)
    have outbox : (met.operate cfg issue.operation).session.desk.outbox =
        met.desk.outbox ++ [⟨⟨(selectionsOf cfg past).length⟩, title⟩] := by
      have requested := docket_take_of_selection (d := met.desk) selects
      have issued : met.desk.nextTicket = (selectionsOf cfg past).length := by
        rw [desk_after_steps]
        exact (tickets_walk cfg past).1
      rw [operate_operation, desk_follow, ← issued]
      exact congrArg Docket.outbox requested
    refine { selected := selects, unselected, unloaded := ?_, loaded := ?_,
             answered := ⟨_, rfl, outbox⟩, origin := ?_ }
    · intro other member loaded isLoaded
      obtain ⟨prior, told, rest, isPart, -, calls⟩ := exists_block_of_mem_stages member
      rw [calls, mem_callsIn] at isLoaded
      exact unloaded prior told rest isPart loaded isLoaded
    · rw [made, alone]
      rfl
    · rcases origin with rfl | ⟨rfl, isSwap⟩
      · exact .inl ⟨rfl, made past .boot⟩
      · exact .inr ⟨rfl, (made past _).trans (congrArg callsIn isSwap)⟩
  · intro bootedFirst isBoot
    obtain rfl : issue = .boot := by cases issue <;> first | rfl | cases isBoot
    rw [List.append_assoc] at isRun
    obtain rfl := eq_nil_of_boot bootedFirst isRun
    rfl

/-- Loads stand apart. In a fresh session that is booted first, if at all, the machine gets the
calls of the run and is reset between any two loads, whatever the host brings back from the source.
A load belongs to the last selection before it: the request of that selection is the one answered,
nothing else was loaded since, and if the selection was not booting, its reset of the machine came
before the load. -/
theorem loads_stand_apart (cfg : Config) (machine : M) (display : D) {ops : List Operation}
    (bootedFirst : .boot ∉ ops.tail) :
    let s := fresh cfg machine display
    let run := singleStages cfg ops s
    calls (deeds cfg ops s) = run.flatMap (fun stage => calls stage.outcome.deeds) ∧
    (after cfg ops s).machine = Machine.afterCalls (calls (deeds cfg ops s)) machine ∧
    (∀ before first between second rest,
      calls (deeds cfg ops s) = before ++ .load first :: (between ++ .load second :: rest) →
        .reset ∈ between) ∧
    ∀ earlier stage later, run = earlier ++ stage :: later →
      ∀ program, .load program ∈ calls stage.outcome.deeds →
        ∃ first issue between title, earlier = first ++ issue :: between ∧
          LoadedFor cfg title program issue between stage ∧
          (issue.operation = .boot → first = []) := by
  intro s run
  have whole := calls_singleStages cfg ops s
  have answers {earlier later : List (Stage M D)} {stage : Stage M D}
      (split : run = earlier ++ stage :: later) {program : Program}
      (loads : .load program ∈ calls stage.outcome.deeds) :
      ∃ first issue between title, earlier = first ++ issue :: between ∧
        LoadedFor cfg title program issue between stage ∧
        (issue.operation = .boot → first = []) := by
    obtain ⟨first, issue, between, title, isEarlier, answer, atStart⟩ :=
      exists_loadedFor split loads
    exact ⟨first, issue, between, title, isEarlier, answer, atStart bootedFirst⟩
  refine ⟨whole, machine_after cfg ops s, fun before first between second rest made => ?_,
    fun earlier stage later split program loads => answers split loads⟩
  -- cut the run at the second load; what comes before it ends in its selection and no load
  rw [whole, ← List.cons_append, ← List.append_assoc] at made
  obtain ⟨earlier, stage, later, front, back, split, now, prior⟩ := exists_of_flatMap_eq made
  have loaded : .load second ∈ calls stage.outcome.deeds := by simp [now]
  obtain ⟨start, issue, since, title, rfl, answer, atStart⟩ := answers split loaded
  have alone : front = [] := by
    have single := answer.loaded.symm.trans now
    cases front with
    | nil => rfl
    | cons call front => simp at single
  have unloaded : .load first ∉ since.flatMap fun stage => calls stage.outcome.deeds := by
    rw [List.mem_flatMap]
    rintro ⟨other, member, loaded⟩
    exact answer.unloaded other member first loaded
  rw [alone, List.append_nil, List.flatMap_append, List.flatMap_cons] at prior
  rcases answer.origin with ⟨boots, uncalled⟩ | ⟨-, isReset⟩
  · rw [atStart boots, uncalled, List.flatMap_nil, List.nil_append, List.nil_append] at prior
    exact absurd (prior ▸ by simp) unloaded
  · rw [isReset, List.singleton_append] at prior
    exact mem_of_append_eq_append prior (by simp) unloaded

/-- A host that boots, answers the first of two selections late and the second one twice, and resets
and plays in between. -/
def restless : List Operation :=
  [.boot, .serveAll (.ofPrograms [("TETRIS", #[7])]), .handle .playPause,
    .handle (.select "TETRIS"), .nextRequest, .handle .step, .handle (.select "UFO"), .nextRequest,
    .handle (.fetched ⟨1⟩ (.ok #[1])), .handle .playPause, .handle .refresh,
    .handle (.fetched ⟨2⟩ (.ok #[8])), .handle (.fetched ⟨2⟩ (.ok #[8])), .handle .reset]

/-- The program for the title that booting selects and the one for the newest selection are loaded,
and both selections in between reset the machine. -/
theorem loads_restless :
    let cfg : Config := { resolution := ⟨2, 1⟩, pixelSize := 1, defaultTitle := some "TETRIS" }
    let machine : StandIn.Scripted := ⟨#[0, 0], [#[1, 0]]⟩
    let s := fresh cfg machine ({} : StandIn.Monitor)
    let made : List Call := [.load #[7], .reset, .tick, .reset, .tick, .load #[8], .reset]
    .boot ∉ restless.tail ∧ calls (deeds cfg restless s) = made ∧
      (after cfg restless s).machine = Machine.afterCalls made machine ∧
      .reset ∈ [Call.reset, .tick, .reset, .tick] := by
  intro cfg machine s made
  have bootedFirst : .boot ∉ restless.tail := by simp [restless]
  have isMade : calls (deeds cfg restless s) = made := by decide +kernel
  obtain ⟨-, reached, apart, -⟩ :=
    loads_stand_apart cfg machine ({} : StandIn.Monitor) bootedFirst
  exact ⟨bootedFirst, isMade, reached.trans (by rw [isMade]),
    apart [] #[7] _ #[8] [.reset] isMade⟩

end HexPlayer.Session
