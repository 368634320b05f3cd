import HexPlayer.Proofs.Session.Steps

/-!
# What a desk can decide

`Takes` lists all that can come of a step: the desk afterwards, the acts, and the refusal if there
is one. What every step keeps follows from `takes_take` case by case, with nothing else to know
about the desk or its transport.
-/

namespace HexPlayer.Session

open Cartridge (Program Ticket)

/-- The desk after a title was selected and requested. -/
def Desk.request (d : Desk) (title : String) : Desk :=
  { d with
    selected := some title
    nextTicket := d.nextTicket + 1
    awaited := some ⟨d.nextTicket⟩
    outbox := d.outbox ++ [⟨⟨d.nextTicket⟩, title⟩] }

/-- What a desk decides in a step. -/
inductive Takes (cfg : Config) (d : Desk) : Step → Decision → Prop where
  | popped : Takes cfg d .nextRequest { desk := { d with outbox := d.outbox.tail } }
  | bootedEmpty (noTitle : ∀ title, cfg.defaultTitle = some title → title = "") :
    Takes cfg d .boot { desk := d, acts := [.draw none] }
  | bootedListed {title : String} (default : cfg.defaultTitle = some title)
      (listed : Catalog.isListed title = true) :
    Takes cfg d .boot { desk := d.request title, acts := [.draw none] }
  | bootedUnlisted {title : String} (default : cfg.defaultTitle = some title)
      (unlisted : Catalog.isListed title = false) (nonempty : title ≠ "") :
    Takes cfg d .boot
      { desk := d, acts := [.draw none], refusal := some (.unknownTitle title) }
  | ignored {code : Char} {edge : Edge} (unmapped : cfg.layout.stroke? code edge = none) :
    Takes cfg d (.handle (.key code edge)) { desk := d, acts := [.record (.keyIgnored code)] }
  | struck {code : Char} {edge : Edge} {stroke : Stroke}
      (mapped : cfg.layout.stroke? code edge = some stroke) :
    Takes cfg d (.handle (.key code edge))
      { desk := { d with lamps := d.lamps.register stroke }
        acts := [.call (.ofStroke stroke), .present] }
  | refreshed (running : d.transport.state = .running) :
    Takes cfg d (.handle .refresh)
      { desk := { d with transport := ⟨.running, true⟩ }
        acts := [.record (.controlTaken .refreshFired .running [.step]), .call .tick,
          .draw (some .step)] }
  | rested (stopped : d.transport.state = .stopped) :
    Takes cfg d (.handle .refresh)
      { desk := { d with transport := ⟨.stopped, false⟩ }
        acts := [.record (.controlTaken .refreshFired .stopped [])] }
  | started (stopped : d.transport.state = .stopped) :
    Takes cfg d (.handle .playPause)
      { desk := { d with transport := ⟨.running, true⟩ }
        acts := [.record (.controlTaken .playPauseToggled .running [])] }
  | paused (running : d.transport.state = .running) :
    Takes cfg d (.handle .playPause)
      { desk := { d with transport := ⟨.stopped, d.transport.refreshDue⟩ }
        acts := [.record (.controlTaken .playPauseToggled .stopped [])] }
  | stepped (stopped : d.transport.state = .stopped) :
    Takes cfg d (.handle .step)
      { desk := d
        acts := [.record (.controlTaken .singleStepRequested .stopped [.step]), .call .tick,
          .draw (some .step)] }
  | ranOn (running : d.transport.state = .running) :
    Takes cfg d (.handle .step)
      { desk := d, acts := [.record (.controlTaken .singleStepRequested .running [])] }
  | resetDrawn (redraw : cfg.redrawOnReset = true) :
    Takes cfg d (.handle .reset)
      { desk := d
        acts := [.record (.controlTaken .resetRequested d.transport.state [.reset, .render]),
          .call .reset, .draw (some .render)] }
  | resetUndrawn (redraw : cfg.redrawOnReset = false) :
    Takes cfg d (.handle .reset)
      { desk := d
        acts := [.record (.controlTaken .resetRequested d.transport.state [.reset]),
          .call .reset] }
  | selectedNothing : Takes cfg d (.handle (.select "")) { desk := d }
  | selectedUnlisted {title : String} (nonempty : title ≠ "")
      (unlisted : Catalog.isListed title = false) :
    Takes cfg d (.handle (.select title))
      { desk := d, refusal := some (.unknownTitle title) }
  | selected {title : String} (listed : Catalog.isListed title = true) :
    Takes cfg d (.handle (.select title))
      { desk := { d.request title with transport := ⟨.stopped, d.transport.refreshDue⟩ }
        acts := [.record (.titleSelected title),
          .record (.controlTaken .romSelected .stopped [.reset, .render, .fetchRom]),
          .call .reset, .draw (some .render)] }
  | superseded {ticket : Ticket} {result : Except Cartridge.Error Program}
      (other : d.awaited ≠ some ticket) :
    Takes cfg d (.handle (.fetched ticket result))
      { desk := d, acts := [.record (.fetchSuperseded ticket)] }
  | failed {ticket : Ticket} {error : Cartridge.Error} (awaited : d.awaited = some ticket) :
    Takes cfg d (.handle (.fetched ticket (.error error)))
      { desk := { d with awaited := none }, refusal := some (.cartridge error) }
  | tooLarge {ticket : Ticket} {program : Program} (awaited : d.awaited = some ticket)
      (exceeds : cfg.maxProgramLength < program.size) :
    Takes cfg d (.handle (.fetched ticket (.ok program)))
      { desk := { d with awaited := none }
        refusal := some (.cartridge
          (.tooLarge (d.selected.getD "") program.size cfg.maxProgramLength)) }
  | loaded {ticket : Ticket} {program : Program} (awaited : d.awaited = some ticket)
      (fits : program.size ≤ cfg.maxProgramLength) :
    Takes cfg d (.handle (.fetched ticket (.ok program)))
      { desk := { d with awaited := none }
        acts := [.record (.controlTaken .romLoaded d.transport.state [.loadRom]),
          .record (.programLoading program.size), .call (.load program)] }

/-- The empty title is not on offer. -/
theorem isListed_empty : Catalog.isListed "" = false := by
  simp [Catalog.isListed, Catalog.titles]

theorem Takes.of_eq {cfg : Config} {d : Desk} {step : Step} {first second : Decision}
    (takes : Takes cfg d step first) (same : second = first) : Takes cfg d step second :=
  same ▸ takes

section

variable (cfg : Config) (d : Desk)

theorem takes_boot : Takes cfg d .boot (d.boot cfg) := by
  unfold Desk.boot
  split
  next noDefault => exact .bootedEmpty fun title default => by simp [noDefault] at default
  next title default =>
    split
    next listed => exact .bootedListed default listed
    next unlisted =>
      split
      next empty => exact .bootedEmpty fun other isDefault => by simp_all
      next nonempty => exact .bootedUnlisted default (Bool.eq_false_iff.mpr unlisted) nonempty

theorem takes_key (code : Char) (edge : Edge) :
    Takes cfg d (.handle (.key code edge)) (d.key cfg code edge) := by
  unfold Desk.key
  split
  next unmapped => exact .ignored unmapped
  next stroke mapped => exact .struck mapped

theorem takes_refresh : Takes cfg d (.handle .refresh) (d.control cfg .refreshFired none) := by
  cases state : d.transport.state with
  | stopped => exact (Takes.rested state).of_eq (by simp [Desk.control, Transport.obey, state])
  | running =>
    exact (Takes.refreshed state).of_eq
      (by simp [Desk.control, Transport.obey, state, actsOf, Desk.afterAction])

theorem takes_playPause :
    Takes cfg d (.handle .playPause) (d.control cfg .playPauseToggled none) := by
  cases state : d.transport.state with
  | stopped => exact (Takes.started state).of_eq (by simp [Desk.control, Transport.obey, state])
  | running => exact (Takes.paused state).of_eq (by simp [Desk.control, Transport.obey, state])

theorem takes_step : Takes cfg d (.handle .step) (d.control cfg .singleStepRequested none) := by
  cases state : d.transport.state with
  | stopped =>
    exact (Takes.stepped state).of_eq
      (by simp [Desk.control, Transport.obey, state, actsOf, Desk.afterAction])
  | running => exact (Takes.ranOn state).of_eq (by simp [Desk.control, Transport.obey, state])

theorem takes_reset : Takes cfg d (.handle .reset) (d.control cfg .resetRequested none) := by
  cases redraw : cfg.redrawOnReset with
  | true =>
    exact (Takes.resetDrawn redraw).of_eq
      (by simp [Desk.control, Transport.obey, redraw, actsOf, Desk.afterAction])
  | false =>
    exact (Takes.resetUndrawn redraw).of_eq
      (by simp [Desk.control, Transport.obey, redraw, actsOf, Desk.afterAction])

theorem takes_select (title : String) :
    Takes cfg d (.handle (.select title)) (d.select cfg title) := by
  unfold Desk.select
  split
  next empty =>
    subst empty
    exact .selectedNothing
  next nonempty =>
    split
    next listed =>
      exact (Takes.selected listed).of_eq
        (by simp [Desk.control, Transport.obey, actsOf, Desk.afterAction, Desk.request,
          Desk.requestSelected])
    next unlisted => exact .selectedUnlisted nonempty (Bool.eq_false_iff.mpr unlisted)

theorem takes_fetched (ticket : Ticket) (result : Except Cartridge.Error Program) :
    Takes cfg d (.handle (.fetched ticket result)) (d.fetched cfg ticket result) := by
  unfold Desk.fetched
  split
  next awaited =>
    cases result with
    | error error => exact .failed awaited
    | ok program =>
      dsimp only
      split
      next exceeds => exact .tooLarge awaited exceeds
      next fits =>
        exact (Takes.loaded awaited (Nat.le_of_not_lt fits)).of_eq
          (by simp [Desk.control, Transport.obey, actsOf, Desk.afterAction])
  next other => exact .superseded other

/-- What a desk decides in a step is on the list. -/
theorem takes_take (step : Step) : Takes cfg d step (d.take cfg step) := by
  cases step with
  | boot => exact takes_boot cfg d
  | nextRequest => exact .popped
  | handle event =>
    cases event with
    | key code edge => exact takes_key cfg d code edge
    | refresh => exact takes_refresh cfg d
    | playPause => exact takes_playPause cfg d
    | step => exact takes_step cfg d
    | reset => exact takes_reset cfg d
    | select title => exact takes_select cfg d title
    | fetched ticket result => exact takes_fetched cfg d ticket result

end

end HexPlayer.Session
