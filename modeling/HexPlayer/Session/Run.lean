import HexPlayer.Session.Operation

/-!
# Runs of a session

A run is a finite sequence of operations. Its stages keep, for every operation, the session before
it and what it did.
-/

namespace HexPlayer.Session

open Cartridge (Request Source Ticket)

/-- The operations that a session offers its host. -/
inductive Operation where
  | boot
  | handle (event : Event)
  | nextRequest
  | serveAll (source : Source)

/-- One operation of a run. -/
structure Stage (M D : Type) where
  before : Session M D
  operation : Operation
  outcome : Outcome M D

variable {M D : Type} [Machine M] [Display D]

/-- Carry out one operation; taking a request out of the outbox does nothing else. -/
def operate (cfg : Config) (s : Session M D) : Operation → Outcome M D
  | .boot => s.boot cfg
  | .handle event => s.handle cfg event
  | .nextRequest => { session := s.nextRequest.2 }
  | .serveAll source => s.serveAll cfg source

/-- The stages of a run. -/
def stages (cfg : Config) : List Operation → Session M D → List (Stage M D)
  | [], _ => []
  | op :: rest, s =>
    let outcome := s.operate cfg op
    ⟨s, op, outcome⟩ :: stages cfg rest outcome.session

/-- The session after a run. -/
def after (cfg : Config) (ops : List Operation) (s : Session M D) : Session M D :=
  ops.foldl (fun s op => (s.operate cfg op).session) s

/-- All that was done in a run. -/
def deeds (cfg : Config) (ops : List Operation) (s : Session M D) : List Deed :=
  (stages cfg ops s).flatMap fun stage => stage.outcome.deeds

/-- The request that a stage hands to the host. -/
def Stage.handedOut (stage : Stage M D) : Option Request :=
  match stage.operation with
  | .nextRequest => stage.before.nextRequest.1
  | _ => none

/-- The tickets whose completions a stage dispatches. -/
def Stage.completed (stage : Stage M D) : List Ticket :=
  match stage.operation with
  | .handle (.fetched ticket _) => [ticket]
  | .serveAll _ => stage.before.desk.outbox.map Request.ticket
  | _ => []

@[simp]
theorem after_nil (cfg : Config) (s : Session M D) : after cfg [] s = s := rfl

@[simp]
theorem after_cons (cfg : Config) (op : Operation) (ops : List Operation) (s : Session M D) :
    after cfg (op :: ops) s = after cfg ops (s.operate cfg op).session := rfl

theorem after_append (cfg : Config) (first second : List Operation) (s : Session M D) :
    after cfg (first ++ second) s = after cfg second (after cfg first s) := by
  simp [after]

theorem stages_append (cfg : Config) (first second : List Operation) (s : Session M D) :
    stages cfg (first ++ second) s =
      stages cfg first s ++ stages cfg second (after cfg first s) := by
  induction first generalizing s with
  | nil => rfl
  | cons op rest ih => simp [stages, ih]

/-- A stage of a run meets the session that the operations before it lead to. -/
theorem eq_of_stages_eq {cfg : Config} {ops : List Operation} {s : Session M D}
    {earlier later : List (Stage M D)} {stage : Stage M D}
    (split : stages cfg ops s = earlier ++ stage :: later) :
    ∃ before op rest, ops = before ++ op :: rest ∧ earlier = stages cfg before s ∧
      stage = ⟨after cfg before s, op, (after cfg before s).operate cfg op⟩ ∧
      later = stages cfg rest ((after cfg before s).operate cfg op).session := by
  induction earlier generalizing ops s with
  | nil =>
    cases ops with
    | nil => cases split
    | cons op ops =>
      obtain ⟨rfl, rfl⟩ := List.cons.inj split
      exact ⟨[], op, ops, rfl, rfl, rfl, rfl⟩
  | cons first earlier ih =>
    cases ops with
    | nil => cases split
    | cons op ops =>
      obtain ⟨rfl, others⟩ := List.cons.inj split
      obtain ⟨before, next, rest, rfl, rfl, rfl, rfl⟩ := ih others
      exact ⟨op :: before, next, rest, rfl, rfl, rfl, rfl⟩

/-- A stage of a run is an operation of the run, met by the session that those before it lead to. -/
theorem exists_of_mem_stages {cfg : Config} {ops : List Operation} {s : Session M D}
    {stage : Stage M D} (member : stage ∈ stages cfg ops s) :
    ∃ before op rest, ops = before ++ op :: rest ∧
      stage = ⟨after cfg before s, op, (after cfg before s).operate cfg op⟩ := by
  obtain ⟨earlier, later, split⟩ := List.append_of_mem member
  obtain ⟨before, op, rest, isRun, -, isStage, -⟩ := eq_of_stages_eq split
  exact ⟨before, op, rest, isRun, isStage⟩

@[simp]
theorem deeds_nil (cfg : Config) (s : Session M D) : deeds cfg [] s = [] := rfl

@[simp]
theorem deeds_cons (cfg : Config) (op : Operation) (ops : List Operation) (s : Session M D) :
    deeds cfg (op :: ops) s =
      (s.operate cfg op).deeds ++ deeds cfg ops (s.operate cfg op).session := rfl

theorem deeds_append (cfg : Config) (first second : List Operation) (s : Session M D) :
    deeds cfg (first ++ second) s =
      deeds cfg first s ++ deeds cfg second (after cfg first s) := by
  simp [deeds, stages_append]

end HexPlayer.Session
