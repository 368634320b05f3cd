import HexPlayer.Proofs.Session.Docket
import Mathlib.Data.List.Nodup

/-!
# What events put on the docket

Apart from completions only the selection of a title has to do with requests. Titles that are
selected one after the other are requested in that order, with tickets numbered on from the next
one, and the last of them is awaited.
-/

namespace HexPlayer.Session

open Cartridge (Request Ticket)

/-- The title that an event selects, if it selects one. -/
def Event.title? : Event → Option String
  | .select title => some title
  | .key .. | .refresh | .playPause | .step | .reset | .fetched .. => none

/-- The event completes no request and selects no title that is not on offer. -/
def Event.isPlain : Event → Bool
  | .select title => Catalog.isListed title
  | .key .. | .refresh | .playPause | .step | .reset => true
  | .fetched .. => false

/-- Plain events select the titles that they name. -/
theorem selections_events (cfg : Config) {events : List Event}
    (plain : ∀ event ∈ events, event.isPlain = true) :
    (events.map Operation.handle).filterMap (Operation.selection? cfg) =
      events.filterMap Event.title? := by
  rw [List.filterMap_map]
  refine List.filterMap_congr fun event member => ?_
  cases event with
  | select title => exact selection?_eq_some (plain _ member)
  | _ => rfl

/-- The requests for titles, with tickets numbered on from one. -/
def requestsFrom (number : Nat) (titles : List String) : List Request :=
  (titles.zipIdx number).map fun numbered => ⟨⟨numbered.2⟩, numbered.1⟩

@[simp]
theorem requestsFrom_nil (number : Nat) : requestsFrom number [] = [] := rfl

@[simp]
theorem requestsFrom_cons (number : Nat) (title : String) (titles : List String) :
    requestsFrom number (title :: titles) =
      ⟨⟨number⟩, title⟩ :: requestsFrom (number + 1) titles := rfl

/-- No two of the requests have one ticket. -/
theorem nodup_requestsFrom (number : Nat) (titles : List String) :
    ((requestsFrom number titles).map Request.ticket).Nodup := by
  have numbered : (requestsFrom number titles).map Request.ticket =
      (List.range' number titles.length).map Ticket.mk := by
    rw [requestsFrom, List.map_map, ← List.zipIdx_map_snd number titles, List.map_map]
    rfl
  rw [numbered]
  exact List.Nodup.map (fun _ _ same => congrArg Ticket.number same) List.nodup_range'

/-- Select titles one after the other. -/
def Docket.requestAll (k : Docket) (titles : List String) : Docket := titles.foldl request k

/-- The docket after titles were selected. -/
theorem Docket.requestAll_eq (k : Docket) (titles : List String) :
    k.requestAll titles =
      { selected := titles.getLast?.or k.selected
        nextTicket := k.nextTicket + titles.length
        awaited := ((requestsFrom k.nextTicket titles).getLast?.map Request.ticket).or k.awaited
        outbox := k.outbox ++ requestsFrom k.nextTicket titles } := by
  induction titles generalizing k with
  | nil => simp [requestAll]
  | cons title titles ih =>
    have later := ih (k.request title)
    rw [requestAll] at later
    rw [requestAll, List.foldl_cons, later]
    have selected : titles.getLast?.or (some title) = (title :: titles).getLast?.or k.selected := by
      rw [List.getLast?_cons]
      cases titles.getLast? <;> rfl
    have number : k.nextTicket + 1 + titles.length = k.nextTicket + (titles.length + 1) := by omega
    simp only [request, requestsFrom_cons, selected, number, List.getLast?_cons, List.length_cons,
      List.append_assoc, List.singleton_append]
    cases (requestsFrom (k.nextTicket + 1) titles).getLast? <;> rfl

section

variable {M D : Type} [Machine M] [Display D] {cfg : Config}

theorem docket_handle (s : Session M D) (event : Event) :
    (s.operate cfg (.handle event)).session.desk.docket =
      s.desk.docket.take cfg (.handle event) := by
  rw [← docket_take]
  exact congrArg Desk.docket (desk_handle cfg s event)

/-- Booting a fresh session requests the default title if it is listed. -/
theorem docket_boot (machine : M) (display : D) :
    (after cfg [.boot] (fresh cfg machine display)).desk.docket =
      Docket.requestAll (Desk.docket {}) (Operation.selection? cfg .boot).toList := by
  have desk : (after cfg [.boot] (fresh cfg machine display)).desk =
      (Desk.take cfg {} .boot).desk := desk_boot cfg (fresh cfg machine display)
  rw [desk, docket_take]
  simp only [Docket.take, Step.operation]
  cases Operation.selection? cfg .boot <;> rfl

/-- Plain events do no more to the docket than request the titles that they select. -/
theorem docket_events (cfg : Config) {events : List Event}
    (plain : ∀ event ∈ events, event.isPlain = true) (s : Session M D) :
    (after cfg (events.map .handle) s).desk.docket =
      s.desk.docket.requestAll (events.filterMap Event.title?) := by
  induction events generalizing s with
  | nil => rfl
  | cons event events ih =>
    have isPlain := plain event List.mem_cons_self
    have later := ih (fun other member => plain other (List.mem_cons_of_mem _ member))
      (s.operate cfg (.handle event)).session
    rw [List.map_cons, after_cons, later, docket_handle]
    cases event with
    | select title =>
      have taken : s.desk.docket.take cfg (.handle (.select title)) =
          s.desk.docket.request title := by
        simp [Docket.take, Step.operation, selection?_eq_some isPlain]
      rw [taken]
      rfl
    | fetched ticket result => cases isPlain
    | _ => rfl

end

end HexPlayer.Session
