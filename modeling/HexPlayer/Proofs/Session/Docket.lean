import HexPlayer.Proofs.Session.Decisions
import HexPlayer.Proofs.Session.Devices

/-!
# The docket of a desk

The docket is the part of a desk that has to do with requests. Three kinds of steps change it: a
selection puts a request on it, `nextRequest` takes the oldest one off, and a completion ends the
wait for its ticket. `docket_take` says so of every step, and `loadsOf_take` says which completion
brings a program into the machine.
-/

namespace HexPlayer.Session

open Cartridge (Request Source Ticket Program)

/-- The listed title that an operation selects, if it selects one. -/
def Operation.selection? (cfg : Config) : Operation → Option String
  | .boot => cfg.defaultTitle.filter Catalog.isListed
  | .handle (.select title) => (some title).filter Catalog.isListed
  | _ => none

/-- All that a desk knows of requests. -/
structure Docket where
  selected : Option String
  nextTicket : Nat
  awaited : Option Ticket
  outbox : List Request
  deriving DecidableEq, Repr

/-- The docket of a desk. -/
def Desk.docket (d : Desk) : Docket := ⟨d.selected, d.nextTicket, d.awaited, d.outbox⟩

namespace Docket

/-- Select a title: its request gets the next ticket, goes to the end of the outbox and is the one
awaited. -/
def request (k : Docket) (title : String) : Docket where
  selected := some title
  nextTicket := k.nextTicket + 1
  awaited := some ⟨k.nextTicket⟩
  outbox := k.outbox ++ [⟨⟨k.nextTicket⟩, title⟩]

/-- A ticket is not awaited any longer. -/
def complete (k : Docket) (ticket : Ticket) : Docket :=
  if k.awaited = some ticket then { k with awaited := none } else k

/-- What a step does to the docket. -/
def take (cfg : Config) (k : Docket) : Step → Docket
  | .nextRequest => { k with outbox := k.outbox.tail }
  | .handle (.fetched ticket _) => k.complete ticket
  | step => (step.operation.selection? cfg).elim k k.request

end Docket

theorem selection?_eq_none {cfg : Config} {title : String}
    (unlisted : Catalog.isListed title = false) :
    Operation.selection? cfg (.handle (.select title)) = none := by
  simp [Operation.selection?, Option.filter_some, unlisted]

theorem selection?_eq_some {cfg : Config} {title : String}
    (listed : Catalog.isListed title = true) :
    Operation.selection? cfg (.handle (.select title)) = some title := by
  simp [Operation.selection?, Option.filter_some, listed]

theorem Takes.docket {cfg : Config} {d : Desk} {step : Step} {decision : Decision}
    (takes : Takes cfg d step decision) : decision.desk.docket = d.docket.take cfg step := by
  cases takes with
  | bootedEmpty noTitle =>
    have none : Operation.selection? cfg .boot = none := by
      simp only [Operation.selection?, Option.filter_eq_none_iff]
      intro title default listed
      rw [noTitle title default, isListed_empty] at listed
      cases listed
    simp [Docket.take, Step.operation, none]
  | bootedListed default listed =>
    simp [Docket.take, Step.operation, Operation.selection?, default, Option.filter_some, listed,
      Desk.docket, Desk.request, Docket.request]
  | bootedUnlisted default unlisted nonempty =>
    simp [Docket.take, Step.operation, Operation.selection?, default, Option.filter_some, unlisted]
  | selectedNothing =>
    simp [Docket.take, Step.operation, selection?_eq_none isListed_empty]
  | selectedUnlisted nonempty unlisted =>
    simp [Docket.take, Step.operation, selection?_eq_none unlisted]
  | selected listed =>
    simp [Docket.take, Step.operation, selection?_eq_some listed, Desk.docket, Desk.request,
      Docket.request]
  | superseded other => exact (if_neg other).symm
  | failed awaited => exact (if_pos awaited).symm
  | tooLarge awaited exceeds => exact (if_pos awaited).symm
  | loaded awaited fits => exact (if_pos awaited).symm
  | _ => rfl

/-- A step of the desk is a step of its docket. -/
theorem docket_take (cfg : Config) (d : Desk) (step : Step) :
    (d.take cfg step).desk.docket = d.docket.take cfg step :=
  (takes_take cfg d step).docket

/-- The program that a completion delivers, if there is one and it is within the limit. -/
def Config.admitted? (cfg : Config) : Except Cartridge.Error Program → Option Program
  | .error _ => none
  | .ok program => if program.size ≤ cfg.maxProgramLength then some program else none

theorem admitted?_eq_some_iff {cfg : Config} {result : Except Cartridge.Error Program}
    {program : Program} :
    cfg.admitted? result = some program ↔
      result = .ok program ∧ program.size ≤ cfg.maxProgramLength := by
  cases result with
  | error error => simp [Config.admitted?]
  | ok delivered =>
    simp only [Config.admitted?, Option.ite_none_right_eq_some, Option.some.injEq, Except.ok.injEq]
    constructor
    · rintro ⟨fits, rfl⟩
      exact ⟨rfl, fits⟩
    · rintro ⟨rfl, fits⟩
      exact ⟨fits, rfl⟩

/-- The program that a step loads while a ticket is awaited. -/
def Step.program? (cfg : Config) (awaited : Option Ticket) : Step → Option Program
  | .handle (.fetched ticket result) => if awaited = some ticket then cfg.admitted? result else none
  | _ => none

theorem program?_eq_some_iff {cfg : Config} {awaited : Option Ticket} {step : Step}
    {program : Program} :
    step.program? cfg awaited = some program ↔
      ∃ ticket, step = .handle (.fetched ticket (.ok program)) ∧ awaited = some ticket ∧
        program.size ≤ cfg.maxProgramLength := by
  constructor
  · intro loaded
    unfold Step.program? at loaded
    split at loaded
    next ticket result =>
      split at loaded
      next waits =>
        obtain ⟨rfl, fits⟩ := admitted?_eq_some_iff.mp loaded
        exact ⟨ticket, rfl, waits, fits⟩
      next => cases loaded
    next => cases loaded
  · rintro ⟨ticket, rfl, rfl, fits⟩
    simp [Step.program?, admitted?_eq_some_iff, fits]

theorem Takes.loadsOf {cfg : Config} {d : Desk} {step : Step} {decision : Decision}
    (takes : Takes cfg d step decision) :
    Session.loadsOf decision.acts = (step.program? cfg d.awaited).toList := by
  cases takes with
  | @struck code edge stroke mapped =>
    cases edge : stroke.edge <;>
      simp [Session.loadsOf, Call.ofStroke, edge, Call.program?, Step.program?]
  | superseded other => simp [Session.loadsOf, Step.program?, other]
  | failed awaited => simp [Session.loadsOf, Step.program?, awaited, Config.admitted?]
  | tooLarge awaited exceeds =>
    simp [Session.loadsOf, Step.program?, awaited, Config.admitted?, Nat.not_le.mpr exceeds]
  | loaded awaited fits =>
    simp [Session.loadsOf, Step.program?, awaited, Config.admitted?, fits, Call.program?]
  | _ => rfl

/-- A step loads a program only as the completion of the awaited ticket. -/
theorem loadsOf_take (cfg : Config) (d : Desk) (step : Step) :
    loadsOf (d.take cfg step).acts = (step.program? cfg d.awaited).toList :=
  (takes_take cfg d step).loadsOf

end HexPlayer.Session
