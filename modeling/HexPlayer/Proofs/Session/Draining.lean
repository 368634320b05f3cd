import HexPlayer.Proofs.Session.Requests

/-!
# Draining the outbox

To serve all requests is a loop: while the outbox holds one, it is taken out, the source is asked
for it, and the session hears the completion. `drains_iff` says that the loop ends and where. The
newest request is the one awaited, so that `serveAll_heeds_newest` can say what comes of a loop in
a session that a host has led anywhere: all completions but the last are dropped.
-/

namespace HexPlayer.Session

open Cartridge (Program Request Source Ticket)

/-- The title that a source was asked for, if the deed is the question. -/
def Deed.asked? : Deed → Option String
  | .asked title => some title
  | .call _ | .painted _ | .presented .. | .recorded _ => none

/-- The titles that a source was asked for. -/
def asked (deeds : List Deed) : List String := deeds.filterMap Deed.asked?

@[simp]
theorem asked_append (first second : List Deed) :
    asked (first ++ second) = asked first ++ asked second :=
  List.filterMap_append ..

/-- The error that a completion of the awaited request for a title comes to, if it comes to one. -/
def Config.refusal? (cfg : Config) (title : String) :
    Except Cartridge.Error Program → Option Error
  | .error error => some (.cartridge error)
  | .ok program =>
    if cfg.maxProgramLength < program.size then
      some (.cartridge (.tooLarge title program.size cfg.maxProgramLength))
    else none

/-- A completion is refused or its program is admitted, and not both. -/
theorem refusal?_eq_none_iff (cfg : Config) (title : String)
    (result : Except Cartridge.Error Program) :
    cfg.refusal? title result = none ↔ (cfg.admitted? result).isSome := by
  cases result with
  | error error => simp [Config.refusal?, Config.admitted?]
  | ok program => simp [Config.refusal?, Config.admitted?]

/-- What is done when a source is asked: the question, and what the source writes to the journal. -/
def inquiry (source : Source) (request : Request) : List Deed :=
  .asked request.title :: (source.deliver request).entries.map .recorded

/-- What is done for a request that another one followed: its completion is dropped. -/
def dismissal (source : Source) (request : Request) : List Deed :=
  inquiry source request ++ [.recorded (.fetchSuperseded request.ticket)]

/-- What is done for a completion of the awaited request that was taken in `state`. -/
def acceptance (cfg : Config) (state : RunState) (result : Except Cartridge.Error Program) :
    List Deed :=
  match cfg.admitted? result with
  | none => []
  | some program =>
    [.recorded (.controlTaken .romLoaded state [.loadRom]),
      .recorded (.programLoading program.size), .call (.load program)]

variable {M D : Type}

/-- The session with other requests in its outbox. -/
def withOutbox (s : Session M D) (outbox : List Request) : Session M D :=
  { s with desk := { s.desk with outbox } }

theorem nextRequest_eq_none {s : Session M D} (empty : s.desk.outbox = []) :
    s.nextRequest = (none, s) := by
  unfold nextRequest
  split
  next => rfl
  next isCons => cases empty.symm.trans isCons

theorem nextRequest_eq_some {s : Session M D} {request : Request} {rest : List Request}
    (queue : s.desk.outbox = request :: rest) :
    s.nextRequest = (some request, s.withOutbox rest) := by
  unfold nextRequest
  split
  next isNil => cases queue.symm.trans isNil
  next isCons =>
    obtain ⟨rfl, rfl⟩ := List.cons.inj (queue.symm.trans isCons)
    rfl

variable [Machine M] [Display D]

/-- The loop over the outbox, which looks for the next request behind the completion of the one
before. -/
inductive Drains (cfg : Config) (source : Source) : Session M D → Outcome M D → Prop where
  | done {s : Session M D} (empty : s.nextRequest = (none, s)) :
    Drains cfg source s { session := s }
  | next {s taken : Session M D} {request : Request} {later : Outcome M D}
      (popped : s.nextRequest = (some request, taken))
      (goesOn : Drains cfg source (taken.serve cfg source request).session later) :
    Drains cfg source s ((taken.serve cfg source request).andThen fun _ => later)

section Loop

variable (cfg : Config) (source : Source)

/-- Serving a request puts none into the outbox. -/
theorem outbox_serve (s : Session M D) (request : Request) :
    (s.serve cfg source request).session.desk.outbox = s.desk.outbox := by
  have heard : (s.serve cfg source request).session.desk =
      (s.desk.decide cfg (.fetched request.ticket (source.deliver request).result)).desk :=
    desk_handle cfg s _
  rw [heard]
  exact outbox_fetched cfg s.desk _ _

theorem serveAll_of_nil {s : Session M D} (empty : s.desk.outbox = []) :
    s.serveAll cfg source = { session := s } := by
  rw [serveAll, empty, serveQueue]

/-- Serving the oldest request, and then the others. -/
theorem serveAll_of_cons {s : Session M D} {request : Request} {rest : List Request}
    (queue : s.desk.outbox = request :: rest) :
    s.serveAll cfg source = ((s.withOutbox rest).serve cfg source request).andThen
      fun later => later.serveAll cfg source := by
  have left : ((s.withOutbox rest).serve cfg source request).session.desk.outbox = rest :=
    outbox_serve cfg source _ request
  rw [serveAll, queue, serveQueue, Outcome.andThen, Outcome.andThen, serveAll, left]
  rfl

/-- The loop comes to an end. -/
theorem drains_serveAll (queue : List Request) (s : Session M D)
    (isOutbox : s.desk.outbox = queue) : Drains cfg source s (s.serveAll cfg source) := by
  induction queue generalizing s with
  | nil =>
    rw [serveAll_of_nil cfg source isOutbox]
    exact .done (nextRequest_eq_none isOutbox)
  | cons request rest ih =>
    rw [serveAll_of_cons cfg source isOutbox]
    exact .next (nextRequest_eq_some isOutbox) (ih _ (outbox_serve cfg source _ request))

/-- The loop has one outcome alone: that of serving all requests. -/
theorem drains_iff (s : Session M D) (o : Outcome M D) :
    Drains cfg source s o ↔ o = s.serveAll cfg source := by
  constructor
  · intro drains
    induction drains with
    | @done s empty =>
      cases queue : s.desk.outbox with
      | nil => rw [serveAll_of_nil cfg source queue]
      | cons request rest => cases empty.symm.trans (nextRequest_eq_some queue)
    | @next s taken request later popped goesOn ih =>
      cases queue : s.desk.outbox with
      | nil => cases popped.symm.trans (nextRequest_eq_none queue)
      | cons other rest =>
        obtain ⟨rfl, rfl⟩ : other = request ∧ s.withOutbox rest = taken := by
          simpa using (nextRequest_eq_some queue).symm.trans popped
        rw [serveAll_of_cons cfg source queue, ih]
        rfl
  · rintro rfl
    exact drains_serveAll cfg source _ s rfl

end Loop

section Serve

variable (cfg : Config) (source : Source)

/-- A completion that is not awaited is dropped, and leaves everything as it was. -/
theorem serve_of_superseded {s : Session M D} {request : Request}
    (other : s.desk.awaited ≠ some request.ticket) :
    s.serve cfg source request =
      { session := s, deeds := dismissal source request } := by
  simp [serve, handle, follow, Desk.decide, Desk.fetched, other, performAll, perform,
    Outcome.andThen, dismissal, inquiry]

omit source in
/-- The completion of the awaited request ends the wait, and loads its program or is refused. -/
theorem handle_of_awaited {s : Session M D} {request : Request}
    (awaited : s.desk.awaited = some request.ticket) (result : Except Cartridge.Error Program) :
    s.handle cfg (.fetched request.ticket result) =
      { session :=
          { s with
            desk := { s.desk with awaited := none }
            machine := (cfg.admitted? result).elim s.machine
              fun program => Machine.call (.load program) s.machine }
        deeds := acceptance cfg s.desk.transport.state result
        error := cfg.refusal? (s.desk.selected.getD "") result } := by
  have heard : s.handle cfg (.fetched request.ticket result) =
      s.follow cfg (s.desk.fetched cfg request.ticket result) := rfl
  rw [heard]
  cases result with
  | error error =>
    simp [follow, Desk.fetched, awaited, performAll, acceptance, Config.admitted?, Config.refusal?]
  | ok program =>
    by_cases fits : program.size ≤ cfg.maxProgramLength
    · have within : ¬ cfg.maxProgramLength < program.size := Nat.not_lt.mpr fits
      simp [follow, Desk.fetched, awaited, within, fits, Desk.control, Transport.obey,
        Desk.afterAction, actsOf, performAll, perform, acceptance, Config.admitted?,
        Config.refusal?]
    · have exceeds : cfg.maxProgramLength < program.size := Nat.lt_of_not_le fits
      simp [follow, Desk.fetched, awaited, exceeds, fits, performAll, acceptance,
        Config.admitted?, Config.refusal?]

/-- To serve the awaited request is to ask for its program and to take the completion. -/
theorem serve_of_awaited {s : Session M D} {request : Request}
    (awaited : s.desk.awaited = some request.ticket) :
    let result := (source.deliver request).result
    s.serve cfg source request =
      { session :=
          { s with
            desk := { s.desk with awaited := none }
            machine := (cfg.admitted? result).elim s.machine
              fun program => Machine.call (.load program) s.machine }
        deeds := inquiry source request ++ acceptance cfg s.desk.transport.state result
        error := cfg.refusal? (s.desk.selected.getD "") result } := by
  intro result
  have heard : s.serve cfg source request =
      let completed := s.handle cfg (.fetched request.ticket result)
      { completed with deeds := inquiry source request ++ completed.deeds } := rfl
  rw [heard, handle_of_awaited cfg awaited]

/-- Serving all requests drops the completions of all but the newest, which is the one awaited. -/
theorem serveAll_of_awaited (older : List Request) {last : Request} {s : Session M D}
    (queue : s.desk.outbox = older ++ [last]) (awaited : s.desk.awaited = some last.ticket)
    (others : ∀ request ∈ older, request.ticket ≠ last.ticket) :
    let result := (source.deliver last).result
    s.serveAll cfg source =
      { session :=
          { s with
            desk := { s.desk with awaited := none, outbox := [] }
            machine := (cfg.admitted? result).elim s.machine
              fun program => Machine.call (.load program) s.machine }
        deeds := older.flatMap (dismissal source) ++
          (inquiry source last ++ acceptance cfg s.desk.transport.state result)
        error := cfg.refusal? (s.desk.selected.getD "") result } := by
  intro result
  induction older generalizing s with
  | nil =>
    have served := serve_of_awaited cfg source (s := s.withOutbox []) awaited
    rw [serveAll_of_cons cfg source queue, served, Outcome.andThen, serveAll_of_nil cfg source rfl]
    simp [withOutbox, result]
  | cons request older ih =>
    have other : s.desk.awaited ≠ some request.ticket := fun same =>
      others request List.mem_cons_self (Option.some.inj (same.symm.trans awaited))
    have served := serve_of_superseded cfg source (s := s.withOutbox (older ++ [last])) other
    have rest := ih (s := s.withOutbox (older ++ [last])) rfl awaited
      fun request member => others request (List.mem_cons_of_mem _ member)
    have isNext : s.desk.outbox = request :: (older ++ [last]) := queue
    rw [serveAll_of_cons cfg source isNext, served, Outcome.andThen, rest]
    simp [withOutbox]

end Serve

/-- In a session that a host has led anywhere the last open request is the one awaited, it is for
the selected title, and the others have other tickets. -/
theorem newest_of_authentic {cfg : Config} {machine : M} {display : D} {ops : List Operation}
    (authentic : Authentic [] (stages cfg ops (fresh cfg machine display)))
    {older : List Request} {last : Request}
    (queue : (after cfg ops (fresh cfg machine display)).desk.outbox = older ++ [last]) :
    let d := (after cfg ops (fresh cfg machine display)).desk
    d.awaited = some last.ticket ∧ d.selected = some last.title ∧
      ∀ request ∈ older, request.ticket ≠ last.ticket := by
  intro d
  have orderly := orderly_after cfg machine display ops authentic
  have isLast : d.docket.outbox.getLast? = some last := by
    change d.outbox.getLast? = some last
    rw [queue, List.getLast?_concat]
  refine ⟨orderly.awaited_of_getLast? isLast, ?_, fun request member same => ?_⟩
  · have titles := congrArg List.getLast? orderly.titles
    rw [(popped_singleStages cfg ops _).2, List.map_append, List.getLast?_append,
      List.getLast?_map, isLast] at titles
    rw [selected_after, ← titles]
    rfl
  · have distinct := orderly.nodup_tickets
    have outbox : d.docket.outbox = older ++ [last] := queue
    rw [List.map_append, outbox, List.nodup_append] at distinct
    have apart := distinct.2.1
    rw [List.map_append, List.nodup_append] at apart
    exact apart.2.2 _ (List.mem_map_of_mem member) _ (by simp) same

@[simp]
theorem asked_inquiry (source : Source) (request : Request) :
    asked (inquiry source request) = [request.title] := by
  simp [asked, inquiry, Deed.asked?, List.filterMap_map, Function.comp_def]

theorem asked_dismissal (source : Source) (request : Request) :
    asked (dismissal source request) = [request.title] := by
  rw [dismissal, asked_append, asked_inquiry]
  rfl

theorem asked_acceptance (cfg : Config) (state : RunState)
    (result : Except Cartridge.Error Program) : asked (acceptance cfg state result) = [] := by
  unfold acceptance
  split <;> rfl

theorem asked_flatMap_dismissal (source : Source) (older : List Request) :
    asked (older.flatMap (dismissal source)) = older.map Request.title := by
  induction older with
  | nil => rfl
  | cons request older ih => rw [List.flatMap_cons, asked_append, asked_dismissal, ih]; rfl

/-- A dropped completion is nothing to the devices. -/
theorem deviceDeeds_dismissal (source : Source) (request : Request) :
    deviceDeeds (dismissal source request) = [] := by
  simp [deviceDeeds, dismissal, inquiry, Deed.isOnDevice]

/-- A completion that is taken loads the admitted program, and is nothing else to the devices. -/
theorem deviceDeeds_inquiry_acceptance (cfg : Config) (source : Source) (request : Request)
    (state : RunState) (result : Except Cartridge.Error Program) :
    deviceDeeds (inquiry source request ++ acceptance cfg state result) =
      (cfg.admitted? result).toList.map fun program => .call (.load program) := by
  have asking : deviceDeeds (inquiry source request) = [] := by
    simp [deviceDeeds, inquiry, Deed.isOnDevice]
  rw [deviceDeeds_append, asking, List.nil_append]
  unfold acceptance
  split
  next refused => rw [refused]; rfl
  next program admitted => rw [admitted]; rfl

theorem deviceDeeds_flatMap_dismissal (source : Source) (older : List Request) :
    deviceDeeds (older.flatMap (dismissal source)) = [] := by
  induction older with
  | nil => rfl
  | cons request older ih =>
    rw [List.flatMap_cons, deviceDeeds_append, deviceDeeds_dismissal, ih, List.nil_append]

/-- Serving all requests is the load of the admitted program to the devices, and nothing else. -/
theorem deviceDeeds_served (cfg : Config) (source : Source) (older : List Request) (last : Request)
    (state : RunState) (result : Except Cartridge.Error Program) :
    deviceDeeds (older.flatMap (dismissal source) ++
        (inquiry source last ++ acceptance cfg state result)) =
      (cfg.admitted? result).toList.map fun program => .call (.load program) := by
  rw [deviceDeeds_append, deviceDeeds_flatMap_dismissal, List.nil_append,
    deviceDeeds_inquiry_acceptance]

/-- Serving all requests in a session that a host has led anywhere, with any source. The loop over
the outbox ends, in one outcome alone; the outbox is empty then, and the source was asked for the
title of each request once, oldest first. All completions but that of the newest request are
dropped, whatever they are: they leave the session as it was and do nothing on a device. The newest
one ends the wait, and its program is loaded if it is one within the limit; else its error is the
one that is reported. With nothing to serve nothing happens. -/
theorem serveAll_heeds_newest (cfg : Config) (machine : M) (display : D) (ops : List Operation)
    (authentic : Authentic [] (stages cfg ops (fresh cfg machine display))) (source : Source) :
    let s := after cfg ops (fresh cfg machine display)
    let o := s.serveAll cfg source
    (∀ other, Drains cfg source s other ↔ other = o) ∧
    o.session.desk.outbox = [] ∧
    asked o.deeds = s.desk.outbox.map Request.title ∧
    (s.desk.outbox = [] → o = { session := s }) ∧
    (∀ first request rest, s.desk.outbox = first ++ request :: rest → rest ≠ [] →
      (s.withOutbox rest).serve cfg source request =
          { session := s.withOutbox rest, deeds := dismissal source request } ∧
        deviceDeeds (dismissal source request) = []) ∧
    ∀ older last, s.desk.outbox = older ++ [last] →
      let result := (source.deliver last).result
      o.session =
          { s with
            desk := { s.desk with awaited := none, outbox := [] }
            machine := (cfg.admitted? result).elim s.machine
              fun program => Machine.call (.load program) s.machine } ∧
        o.deeds = older.flatMap (dismissal source) ++
          (inquiry source last ++ acceptance cfg s.desk.transport.state result) ∧
        deviceDeeds o.deeds =
          (cfg.admitted? result).toList.map (fun program => .call (.load program)) ∧
        o.error = cfg.refusal? last.title result ∧
        (o.error = none ↔ ∃ program, result = .ok program ∧
          program.size ≤ cfg.maxProgramLength) := by
  intro s o
  have heeds (older : List Request) (last : Request) (queue : s.desk.outbox = older ++ [last]) :=
    let newest := newest_of_authentic authentic queue
    serveAll_of_awaited cfg source older queue newest.1 newest.2.2
  refine ⟨drains_iff cfg source s, ?_, ?_, fun empty => serveAll_of_nil cfg source empty,
    fun first request rest queue more => ⟨?_, deviceDeeds_dismissal source request⟩,
    fun older last queue => ?_⟩
  · rcases List.eq_nil_or_concat' s.desk.outbox with empty | ⟨older, last, queue⟩
    · exact (congrArg (·.session.desk.outbox) (serveAll_of_nil cfg source empty)).trans empty
    · exact congrArg (·.session.desk.outbox) (heeds older last queue)
  · rcases List.eq_nil_or_concat' s.desk.outbox with empty | ⟨older, last, queue⟩
    · have idle : o = { session := s } := serveAll_of_nil cfg source empty
      rw [idle, empty]
      rfl
    · have heeded := congrArg (fun o => asked o.deeds) (heeds older last queue)
      rw [queue]
      simpa [asked_flatMap_dismissal, asked_acceptance] using heeded
  · -- a later request is the newest, and another one than this
    obtain ⟨between, last, rfl⟩ := (List.eq_nil_or_concat' rest).resolve_left more
    have queue' : s.desk.outbox = (first ++ request :: between) ++ [last] := by
      rw [queue, List.append_assoc, List.cons_append]
    obtain ⟨awaited, -, others⟩ := newest_of_authentic authentic queue'
    have isOlder : request ∈ first ++ request :: between := by simp
    refine serve_of_superseded cfg source fun same => others request isOlder ?_
    exact Option.some.inj (same.symm.trans awaited)
  · have heeded := heeds older last queue
    have failure : o.error = cfg.refusal? last.title (source.deliver last).result := by
      have selected : s.desk.selected = some last.title :=
        (newest_of_authentic authentic queue).2.1
      rw [show o = _ from heeded, selected, Option.getD_some]
    have done := congrArg Outcome.deeds heeded
    refine ⟨congrArg Outcome.session heeded, done, ?_, failure, ?_⟩
    · exact (congrArg deviceDeeds done).trans (deviceDeeds_served ..)
    · rw [failure, refusal?_eq_none_iff, Option.isSome_iff_exists]
      simp only [admitted?_eq_some_iff]

/-- A source without the first title, with a program of two bytes for the second and one of one
byte for the third. -/
def uneven : Source := .ofPrograms [("TETRIS", #[1, 2]), ("UFO", #[3])]

/-- Two selections behind the default title, none of them served. -/
def piling : List Operation := [.boot, .handle (.select "TETRIS"), .handle (.select "UFO")]

/-- On a display that fails throughout, neither the missing program nor the one that is too large is
heard of, and the third one is loaded. -/
theorem serveAll_piling :
    let machine : StandIn.Scripted := ⟨#[0, 0], []⟩
    let display : StandIn.Monitor := { failing := true }
    let s := after cramped piling (fresh cramped machine display)
    let o := s.serveAll cramped uneven
    Authentic [] (stages cramped piling (fresh cramped machine display)) ∧
      s.desk.outbox = [⟨⟨0⟩, "PONG"⟩, ⟨⟨1⟩, "TETRIS"⟩, ⟨⟨2⟩, "UFO"⟩] ∧
      asked o.deeds = ["PONG", "TETRIS", "UFO"] ∧
      o.session.desk.awaited = none ∧ deviceDeeds o.deeds = [.call (.load #[3])] ∧
      o.error = none := by
  intro machine display s o
  have authentic : Authentic [] (stages cramped piling (fresh cramped machine display)) := by
    simp [Authentic, stages, piling]
  have queue : s.desk.outbox = [⟨⟨0⟩, "PONG"⟩, ⟨⟨1⟩, "TETRIS"⟩] ++ [⟨⟨2⟩, "UFO"⟩] := by
    decide +kernel
  obtain ⟨-, -, questions, -, -, newest⟩ :=
    serveAll_heeds_newest cramped machine display piling authentic uneven
  obtain ⟨session, -, loaded, failure, -⟩ := newest _ _ queue
  refine ⟨authentic, queue, questions.trans ?_, ?_, loaded.trans ?_, failure.trans ?_⟩
  · exact congrArg (List.map Request.title) queue
  · exact congrArg (·.desk.awaited) session
  · rfl
  · rfl

end HexPlayer.Session
