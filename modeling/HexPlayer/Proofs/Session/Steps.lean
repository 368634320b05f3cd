import HexPlayer.Session.Run

/-!
# Runs in single steps

`serveAll` is many steps in one: it takes the open requests out one by one and hears the completion
of each. Told in single steps, each step of a run is one decision of the desk, and the steps follow
from the desk alone. `after_unroll` and `deviceDeeds_unroll` say that a run and its single steps
come to the same for the session and its devices.
-/

namespace HexPlayer.Session

open Cartridge (Request Source Ticket)

/-- An operation that takes one decision at most. -/
inductive Step where
  | boot
  | handle (event : Event)
  | nextRequest

/-- The step as an operation of a session. -/
def Step.operation : Step → Operation
  | .boot => .boot
  | .handle event => .handle event
  | .nextRequest => .nextRequest

@[simp]
theorem operation_eq_handle_iff {step : Step} {event : Event} :
    step.operation = .handle event ↔ step = .handle event := by
  cases step <;> simp [Step.operation]

/-- What serving a request amounts to: it is taken out of the outbox and its completion is heard. -/
def serving (source : Source) (request : Request) : List Step :=
  [.nextRequest, .handle (.fetched request.ticket (source.deliver request).result)]

/-- An operation in single steps, for a desk that it meets. -/
def Operation.steps (d : Desk) : Operation → List Step
  | .boot => [.boot]
  | .handle event => [.handle event]
  | .nextRequest => [.nextRequest]
  | .serveAll source => d.outbox.flatMap (serving source)

namespace Desk

/-- What the desk decides in a step; taking a request out of the outbox has no acts. -/
def take (cfg : Config) (d : Desk) : Step → Decision
  | .boot => d.boot cfg
  | .handle event => d.decide cfg event
  | .nextRequest => { desk := { d with outbox := d.outbox.tail } }

/-- The desk after steps. -/
def walk (cfg : Config) (d : Desk) (steps : List Step) : Desk :=
  steps.foldl (fun d step => (d.take cfg step).desk) d

/-- The acts that the desk decides on in steps, in order. -/
def acts (cfg : Config) : List Step → Desk → List Act
  | [], _ => []
  | step :: rest, d => (d.take cfg step).acts ++ acts cfg rest (d.take cfg step).desk

@[simp]
theorem walk_nil (cfg : Config) (d : Desk) : d.walk cfg [] = d := rfl

@[simp]
theorem walk_cons (cfg : Config) (d : Desk) (step : Step) (rest : List Step) :
    d.walk cfg (step :: rest) = (d.take cfg step).desk.walk cfg rest := rfl

theorem walk_append (cfg : Config) (d : Desk) (first second : List Step) :
    d.walk cfg (first ++ second) = (d.walk cfg first).walk cfg second :=
  List.foldl_append

theorem acts_append (cfg : Config) (d : Desk) (first second : List Step) :
    acts cfg (first ++ second) d = acts cfg first d ++ acts cfg second (d.walk cfg first) := by
  induction first generalizing d with
  | nil => rfl
  | cons step rest ih => simp [acts, ih]

end Desk

/-- A run of operations in single steps. -/
def unroll (cfg : Config) : List Operation → Desk → List Step
  | [], _ => []
  | op :: ops, d => op.steps d ++ unroll cfg ops (d.walk cfg (op.steps d))

theorem unroll_append (cfg : Config) (d : Desk) (first second : List Operation) :
    unroll cfg (first ++ second) d =
      unroll cfg first d ++ unroll cfg second (d.walk cfg (unroll cfg first d)) := by
  induction first generalizing d with
  | nil => rfl
  | cons op ops ih => simp [unroll, ih, Desk.walk_append]

/-- The deed is done on the machine, the raster or the display; the others are questions to the
source and entries of the journal. -/
def Deed.isOnDevice : Deed → Bool
  | .call _ | .painted _ | .presented .. => true
  | .asked _ | .recorded _ => false

/-- What was done on the devices. -/
def deviceDeeds (deeds : List Deed) : List Deed := deeds.filter Deed.isOnDevice

@[simp]
theorem deviceDeeds_append (first second : List Deed) :
    deviceDeeds (first ++ second) = deviceDeeds first ++ deviceDeeds second :=
  List.filter_append ..

variable {M D : Type} [Machine M] [Display D]

/-- The stages of a run that is told in single steps. -/
def singleStages (cfg : Config) (ops : List Operation) (s : Session M D) : List (Stage M D) :=
  stages cfg ((unroll cfg ops s.desk).map Step.operation) s

/-- A step takes the desk's decision and carries out its acts. -/
theorem operate_operation (cfg : Config) (s : Session M D) (step : Step) :
    s.operate cfg step.operation = s.follow cfg (s.desk.take cfg step) := by
  cases step with
  | boot => rfl
  | handle event => rfl
  | nextRequest =>
    have taken : s.nextRequest.2 =
        { s with desk := { s.desk with outbox := s.desk.outbox.tail } } := by
      unfold nextRequest
      split
      next empty => rw [empty, List.tail_nil, ← empty]
      next request rest queue => rw [queue, List.tail_cons]
    simp [operate, Step.operation, taken, follow, Desk.take, performAll]

/-- The desk after steps is the one that the desk before them walks to. -/
@[simp]
theorem desk_after_steps (cfg : Config) (steps : List Step) (s : Session M D) :
    (after cfg (steps.map Step.operation) s).desk = s.desk.walk cfg steps := by
  induction steps generalizing s with
  | nil => rfl
  | cons step rest ih =>
    rw [List.map_cons, after_cons, ih, operate_operation, desk_follow, Desk.walk_cons]

/-- A completion leaves the outbox alone. -/
theorem outbox_fetched (cfg : Config) (d : Desk) (ticket : Ticket)
    (result : Except Cartridge.Error Cartridge.Program) :
    (d.fetched cfg ticket result).desk.outbox = d.outbox := by
  unfold Desk.fetched
  split
  · cases result with
    | error error => rfl
    | ok program =>
      dsimp only
      split <;> rfl
  · rfl

section Serving

variable (cfg : Config) (source : Source) (request : Request) (rest : List Request)

/-- Serving the oldest request asks the source and then does what the two steps of serving do. -/
theorem serve_eq_steps (s : Session M D) (queue : s.desk.outbox = request :: rest) :
    let served := { s with desk := { s.desk with outbox := rest } }.serve cfg source request
    served.session = after cfg ((serving source request).map Step.operation) s ∧
      deviceDeeds served.deeds =
        deviceDeeds (deeds cfg ((serving source request).map Step.operation) s) := by
  have taken : s.nextRequest.2 = { s with desk := { s.desk with outbox := rest } } := by
    simp [nextRequest, queue]
  have unseen (entries : List Journal.Entry) (deeds : List Deed) :
      deviceDeeds (.asked request.title :: entries.map .recorded ++ deeds) = deviceDeeds deeds := by
    simp [deviceDeeds, Deed.isOnDevice]
  simp only [serving, List.map_cons, List.map_nil, Step.operation, after_cons, after_nil,
    deeds_cons, deeds_nil, operate, taken, List.nil_append, List.append_nil]
  exact ⟨rfl, unseen _ _⟩

/-- The outbox after serving the oldest request holds the others. -/
theorem outbox_walk_serving (d : Desk) (queue : d.outbox = request :: rest) :
    (d.walk cfg (serving source request)).outbox = rest := by
  simp [serving, Desk.take, Desk.decide, outbox_fetched, queue]

end Serving

/-- Serving a queue is serving its requests step by step. -/
theorem serveQueue_eq_steps (cfg : Config) (source : Source) (queue : List Request)
    (s : Session M D) (isOutbox : s.desk.outbox = queue) :
    let steps := (queue.flatMap (serving source)).map Step.operation
    (serveQueue cfg source queue s).session = after cfg steps s ∧
      deviceDeeds (serveQueue cfg source queue s).deeds = deviceDeeds (deeds cfg steps s) := by
  induction queue generalizing s with
  | nil => exact ⟨rfl, rfl⟩
  | cons request rest ih =>
    obtain ⟨first, done⟩ := serve_eq_steps cfg source request rest s isOutbox
    have left : (after cfg ((serving source request).map Step.operation) s).desk.outbox = rest := by
      rw [desk_after_steps, outbox_walk_serving cfg source request rest _ isOutbox]
    obtain ⟨later, doneLater⟩ := ih _ left
    simp only [serveQueue, Outcome.session_andThen, Outcome.deeds_andThen, List.flatMap_cons,
      List.map_append, after_append, deeds_append, deviceDeeds_append, first, done]
    exact ⟨later, by rw [doneLater]⟩

/-- An operation and its single steps come to the same. -/
theorem operate_eq_steps (cfg : Config) (s : Session M D) (op : Operation) :
    let steps := (op.steps s.desk).map Step.operation
    (s.operate cfg op).session = after cfg steps s ∧
      deviceDeeds (s.operate cfg op).deeds = deviceDeeds (deeds cfg steps s) := by
  cases op with
  | boot => simp [Operation.steps, Step.operation]
  | handle event => simp [Operation.steps, Step.operation]
  | nextRequest => simp [Operation.steps, Step.operation]
  | serveAll source => exact serveQueue_eq_steps cfg source s.desk.outbox s rfl

/-- A run ends where its single steps end. -/
theorem after_unroll (cfg : Config) (ops : List Operation) (s : Session M D) :
    after cfg ((unroll cfg ops s.desk).map Step.operation) s = after cfg ops s := by
  induction ops generalizing s with
  | nil => rfl
  | cons op ops ih =>
    have first := (operate_eq_steps cfg s op).1
    have desk : (after cfg ((op.steps s.desk).map Step.operation) s).desk =
        s.desk.walk cfg (op.steps s.desk) := desk_after_steps cfg _ s
    rw [unroll, List.map_append, after_append, ← desk, ih, after_cons, first]

/-- A run does on the devices what its single steps do. -/
theorem deviceDeeds_unroll (cfg : Config) (ops : List Operation) (s : Session M D) :
    deviceDeeds (deeds cfg ((unroll cfg ops s.desk).map Step.operation) s) =
      deviceDeeds (deeds cfg ops s) := by
  induction ops generalizing s with
  | nil => rfl
  | cons op ops ih =>
    obtain ⟨first, done⟩ := operate_eq_steps cfg s op
    have desk : (after cfg ((op.steps s.desk).map Step.operation) s).desk =
        s.desk.walk cfg (op.steps s.desk) := desk_after_steps cfg _ s
    rw [unroll, List.map_append, deeds_append, deviceDeeds_append, ← desk, ih, ← done, ← first,
      deeds_cons, deviceDeeds_append]

/-- The desk after a run walks the single steps of the run. -/
theorem desk_after (cfg : Config) (ops : List Operation) (s : Session M D) :
    (after cfg ops s).desk = s.desk.walk cfg (unroll cfg ops s.desk) := by
  rw [← after_unroll, desk_after_steps]

end HexPlayer.Session
