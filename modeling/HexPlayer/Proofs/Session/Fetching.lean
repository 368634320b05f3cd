import HexPlayer.Cartridge.Shelf
import HexPlayer.Proofs.Session.Draining
import HexPlayer.Proofs.Session.Selections

/-!
# Serving pending requests

While the newest open request is the one awaited, serving all of them settles the docket: the
completions of the older requests are dropped as superseded, that of the newest is taken, and
nothing stays open or awaited. `serveAll_of_pending` says which program the machine gets by it and
which tickets are dropped.
-/

namespace HexPlayer.Session

open Cartridge (Program Request Shelf Source Ticket)

/-- The ticket whose completion was dropped as superseded, if the deed is the warning about it. -/
def Deed.dropped? : Deed → Option Ticket
  | .recorded (.fetchSuperseded ticket) => some ticket
  | _ => none

/-- The tickets whose completions were dropped as superseded. -/
def dropped (deeds : List Deed) : List Ticket := deeds.filterMap Deed.dropped?

/-- The ticket whose completion is dropped, if the act records that. -/
def Act.dropped? : Act → Option Ticket
  | .record (.fetchSuperseded ticket) => some ticket
  | _ => none

/-- The tickets whose completions are dropped among acts. -/
def droppedOf (acts : List Act) : List Ticket := acts.filterMap Act.dropped?

@[simp]
theorem dropped_append (first second : List Deed) :
    dropped (first ++ second) = dropped first ++ dropped second :=
  List.filterMap_append ..

@[simp]
theorem loads_append (first second : List Deed) :
    loads (first ++ second) = loads first ++ loads second := by
  simp [loads]

/-- The source writes nothing about superseded completions. -/
def Discreet (source : Source) : Prop :=
  ∀ request, ∀ entry ∈ (source.deliver request).entries, (Deed.recorded entry).dropped? = none

/-- A source is discreet that answers each request from a shelf, be it always the same one or
not: a shelf writes of the programs that it hands out, and of nothing else. -/
theorem discreet_of_shelves {source : Source}
    (shelves : ∀ request, ∃ shelf : Shelf, source.deliver request = shelf.deliver request.title) :
    Discreet source := by
  intro request entry written
  obtain ⟨shelf, answered⟩ := shelves request
  rw [answered, Shelf.deliver] at written
  split at written
  next => cases written
  next => cases written
  next =>
    split at written
    next => cases written
    next =>
      rw [List.mem_singleton.mp written]
      rfl

/-- The ticket whose completion a step drops while another one, or none, is awaited. -/
def Step.superseded? (awaited : Option Ticket) : Step → Option Ticket
  | .handle (.fetched ticket _) => if awaited = some ticket then none else some ticket
  | _ => none

theorem Takes.droppedOf {cfg : Config} {d : Desk} {step : Step} {decision : Decision}
    (takes : Takes cfg d step decision) :
    Session.droppedOf decision.acts = (step.superseded? d.awaited).toList := by
  cases takes with
  | superseded other => simp [Session.droppedOf, Act.dropped?, Step.superseded?, other]
  | failed awaited => simp [Session.droppedOf, Step.superseded?, awaited]
  | tooLarge awaited exceeds => simp [Session.droppedOf, Step.superseded?, awaited]
  | loaded awaited fits => simp [Session.droppedOf, Act.dropped?, Step.superseded?, awaited]
  | _ => rfl

variable {M D : Type}

theorem dropped_recordError {entry : Error → Journal.Entry}
    (other : ∀ error, (Deed.recorded (entry error)).dropped? = none) (o : Outcome M D) :
    dropped (o.recordError entry).deeds = dropped o.deeds := by
  unfold Outcome.recordError
  split
  next => rfl
  next error _ =>
    rw [dropped_append]
    simp [dropped, other error]

section

variable [Machine M] [Display D]

theorem dropped_perform (cfg : Config) (act : Act) (s : Session M D) :
    dropped (s.perform cfg act).deeds = droppedOf [act] := by
  have drawing : dropped (s.draw cfg).deeds = [] := by
    unfold draw
    dsimp only
    split
    next => rfl
    next painted _ =>
      have noStray : dropped (.painted (Machine.frame s.machine) :: strayDeeds painted.stray) =
          [] := by
        unfold strayDeeds
        split <;> rfl
      rw [Outcome.deeds_andThen, dropped_append, noStray]
      rfl
  cases act with
  | call call => rfl
  | draw action =>
    cases action with
    | none => exact drawing
    | some action => exact (dropped_recordError (fun _ => rfl) _).trans drawing
  | present => rfl
  | record entry => cases entry <;> rfl

/-- What a step loads and what it drops. -/
theorem fetched_step (cfg : Config) (s : Session M D) (step : Step) :
    loads (s.operate cfg step.operation).deeds = (step.program? cfg s.desk.awaited).toList ∧
      dropped (s.operate cfg step.operation).deeds = (step.superseded? s.desk.awaited).toList := by
  constructor
  · rw [loads, calls_operate, ← loadsOf_take]
    rfl
  · rw [operate_operation, ← (takes_take cfg s.desk step).droppedOf]
    exact view_performAll Deed.dropped? (fun acts _ => droppedOf acts) (fun _ => rfl)
      (fun first second _ => List.filterMap_append ..) (dropped_perform cfg) _ _

/-- Plain events load nothing and drop nothing. -/
theorem fetched_events (cfg : Config) {events : List Event}
    (plain : ∀ event ∈ events, event.isPlain = true) (s : Session M D) :
    loads (deeds cfg (events.map .handle) s) = [] ∧
      dropped (deeds cfg (events.map .handle) s) = [] := by
  induction events generalizing s with
  | nil => exact ⟨rfl, rfl⟩
  | cons event events ih =>
    have isPlain := plain event List.mem_cons_self
    obtain ⟨loaded, drops⟩ := fetched_step cfg s (.handle event)
    obtain ⟨loadedLater, dropsLater⟩ :=
      ih (fun other member => plain other (List.mem_cons_of_mem _ member))
        (s.operate cfg (.handle event)).session
    rw [List.map_cons, deeds_cons, loads_append, dropped_append, loadedLater, dropsLater,
      List.append_nil, List.append_nil]
    cases event with
    | fetched ticket result => cases isPlain
    | _ => exact ⟨loaded, drops⟩

/-- The program that the newest of open requests brings, if it is one within the limit. -/
def newestProgram? (cfg : Config) (source : Source) (queue : List Request) : Option Program :=
  queue.getLast?.bind fun newest => cfg.admitted? (source.deliver newest).result

/-- The open requests have different tickets, and that of the newest is the one awaited. -/
structure Docket.Pending (k : Docket) : Prop where
  fresh : (k.outbox.map Request.ticket).Nodup
  newest : k.awaited = k.outbox.getLast?.map Request.ticket

section Serving

variable {source : Source} (discreet : Discreet source)
include discreet

omit [Machine M] [Display D] in
theorem dropped_inquiry (request : Request) : dropped (inquiry source request) = [] := by
  have written := discreet request
  simpa [inquiry, dropped, List.filterMap_cons, Deed.dropped?, List.filterMap_map,
    Function.comp_def] using written

theorem dropped_dismissals (older : List Request) :
    dropped (older.flatMap (dismissal source)) = older.map Request.ticket := by
  induction older with
  | nil => rfl
  | cons request older ih =>
    rw [List.flatMap_cons, dropped_append, ih, dismissal, dropped_append,
      dropped_inquiry discreet request]
    rfl

/-- Serving all requests drops the completions of the older ones. -/
theorem dropped_served (cfg : Config) (older : List Request) (last : Request) (state : RunState)
    (result : Except Cartridge.Error Program) :
    dropped (older.flatMap (dismissal source) ++
        (inquiry source last ++ acceptance cfg state result)) = older.map Request.ticket := by
  have accepts : dropped (acceptance cfg state result) = [] := by
    unfold acceptance
    split <;> rfl
  rw [dropped_append, dropped_append, dropped_dismissals discreet, dropped_inquiry discreet,
    accepts, List.append_nil, List.append_nil]

/-- Serving all requests settles a pending docket. The program of the newest request is loaded, if
it is one within the limit, and nothing else happens to the machine. -/
theorem serveAll_of_pending (cfg : Config) {s : Session M D} (pending : s.desk.docket.Pending) :
    let o := s.serveAll cfg source
    let program := newestProgram? cfg source s.desk.outbox
    (o.session.desk.outbox = [] ∧ o.session.desk.awaited = none) ∧
      loads o.deeds = program.toList ∧
      dropped o.deeds = s.desk.outbox.dropLast.map Request.ticket ∧
      o.session.machine =
        program.elim s.machine fun program => Machine.call (.load program) s.machine := by
  intro o program
  have newest : s.desk.awaited = s.desk.outbox.getLast?.map Request.ticket := pending.newest
  rcases List.eq_nil_or_concat' s.desk.outbox with empty | ⟨older, last, queue⟩
  · have idle : o = { session := s } := serveAll_of_nil cfg source empty
    have noProgram : program = none := by
      unfold program newestProgram?
      rw [empty, List.getLast?_nil, Option.bind_none]
    rw [empty, List.getLast?_nil, Option.map_none] at newest
    rw [idle, noProgram, empty]
    exact ⟨⟨rfl, newest⟩, rfl, rfl, rfl⟩
  · have distinct : (s.desk.outbox.map Request.ticket).Nodup := pending.fresh
    rw [queue, List.map_append, List.nodup_append] at distinct
    have others : ∀ request ∈ older, request.ticket ≠ last.ticket := fun request member =>
      distinct.2.2 _ (List.mem_map_of_mem member) _ (by simp)
    rw [queue, List.getLast?_concat, Option.map_some] at newest
    have served : o = _ := serveAll_of_awaited cfg source older queue newest others
    have isProgram : program = cfg.admitted? (source.deliver last).result := by
      unfold program newestProgram?
      rw [queue, List.getLast?_concat, Option.bind_some]
    rw [served, isProgram, queue, List.dropLast_concat]
    refine ⟨⟨rfl, rfl⟩, ?_, dropped_served discreet cfg older last _ _, rfl⟩
    rw [loads, ← calls_deviceDeeds, deviceDeeds_served]
    cases cfg.admitted? (source.deliver last).result <;> rfl

end Serving

/-- Titles that are selected while nothing is open or awaited are all open, and the last of them is
the one awaited. -/
theorem pending_requestAll {k : Docket} (served : k.outbox = []) (unawaited : k.awaited = none)
    (titles : List String) :
    (k.requestAll titles).outbox = requestsFrom k.nextTicket titles ∧
      (k.requestAll titles).Pending := by
  have isOutbox : (k.requestAll titles).outbox = requestsFrom k.nextTicket titles := by
    rw [Docket.requestAll_eq, served, List.nil_append]
  refine ⟨isOutbox, isOutbox ▸ nodup_requestsFrom _ _, ?_⟩
  rw [isOutbox, Docket.requestAll_eq, unawaited, Option.or_none]

/-- Booting a fresh session leaves its one request awaited, if there is one. -/
theorem pending_boot (cfg : Config) (machine : M) (display : D) :
    (after cfg [.boot] (fresh cfg machine display)).desk.docket.Pending := by
  rw [docket_boot]
  exact (pending_requestAll rfl rfl _).2

end

end HexPlayer.Session
