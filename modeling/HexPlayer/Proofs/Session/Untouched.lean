import HexPlayer.Proofs.Session.Failing

/-!
# What failures leave alone

An event may come to nothing: it selects the empty title or one that is not on offer, its character
has no key, or another request followed the one that it completes. Such an event leaves the whole
session alone, and a run comes to the same without it (`after_heeded`). A completion that is refused
is no longer awaited, and that is all. A drawing of a frame of the wrong size leaves raster and
display alone; the machine has had the call before it.
-/

namespace HexPlayer.Session

open Cartridge (Program Ticket)
open Journal (Entry)

/-- The event comes to nothing, and what is reported about it. -/
inductive Ignored (cfg : Config) (d : Desk) : Event → Option Error → Prop where
  | selectedNothing : Ignored cfg d (.select "") none
  | unlisted {title : String} (nonempty : title ≠ "")
      (unlisted : Catalog.isListed title = false) :
    Ignored cfg d (.select title) (some (.unknownTitle title))
  | unmapped {code : Char} {edge : Edge} (unmapped : cfg.layout.key? code = none) :
    Ignored cfg d (.key code edge) none
  | superseded {ticket : Ticket} {result : Except Cartridge.Error Program}
      (other : d.awaited ≠ some ticket) :
    Ignored cfg d (.fetched ticket result) none

section Decisions

variable {cfg : Config} {d : Desk}

/-- About an event that comes to nothing the desk decides on entries of the journal at most. -/
theorem Ignored.decide_eq {event : Event} {error : Option Error}
    (ignored : Ignored cfg d event error) :
    ∃ entries : List Entry,
      d.decide cfg event = { desk := d, acts := entries.map .record, refusal := error } := by
  cases ignored with
  | selectedNothing => exact ⟨[], by simp [Desk.decide, Desk.select]⟩
  | unlisted nonempty unlisted =>
    exact ⟨[], by simp [Desk.decide, Desk.select, nonempty, unlisted]⟩
  | unmapped unmapped =>
    exact ⟨[_], by simp [Desk.decide, Desk.key, Layout.stroke?, unmapped]; rfl⟩
  | superseded other => exact ⟨[_], by simp [Desk.decide, Desk.fetched, other]; rfl⟩

/-- A completion that is refused is no longer awaited. -/
theorem Refuses.decide_fetched {ticket : Ticket} {result : Except Cartridge.Error Program}
    {error : Error} (refuses : Refuses cfg d (.fetched ticket result) error) :
    d.decide cfg (.fetched ticket result) =
      { desk := { d with awaited := none }, refusal := some error } := by
  cases refuses with
  | undelivered awaited => simp [Desk.decide, Desk.fetched, awaited]
  | tooLarge awaited exceeds => simp [Desk.decide, Desk.fetched, awaited, exceeds]

/-- The call before a drawing is a tick or a reset, if there is one. -/
theorem Step.lead_mem {state : RunState} {step : Step} {lead : List Call}
    (draws : step.lead? cfg state = some lead) : lead ∈ [[], [.tick], [.reset]] := by
  cases step with
  | boot =>
    obtain rfl := Option.some.inj draws
    exact List.mem_cons_self
  | nextRequest => cases draws
  | handle event =>
    cases event <;> simp [Step.lead?, Event.lead?] at draws <;> simp [← draws.2]

/-- A step that decides on a drawing has one call before it at most, a tick or a reset. -/
theorem Takes.lead?_of_draw {step : Step} {decision : Decision}
    (takes : Takes cfg d step decision) {action : Option Action}
    (drawn : .draw action ∈ decision.acts) :
    ∃ lead ∈ [[], [Call.tick], [.reset]], step.lead? cfg d.transport.state = some lead := by
  have presents : (Act.draw action).presents = true := rfl
  cases takes.reaches with
  | drawing entries asked draws acts accepted =>
    exact ⟨_, Step.lead_mem draws, draws⟩
  | stroke isKey mapped decided => simp [decided] at drawn
  | nothing undrawn silent => simp [silent _ drawn] at presents

end Decisions

variable {M D : Type} [Machine M] [Display D]

section Step

variable (cfg : Config) (s : Session M D)

/-- An event that comes to nothing leaves the session alone. -/
theorem handle_of_ignored {event : Event} {error : Option Error}
    (ignored : Ignored cfg s.desk event error) :
    let o := s.handle cfg event
    o.session = s ∧ o.error = error ∧ deviceDeeds o.deeds = [] := by
  obtain ⟨entries, decided⟩ := ignored.decide_eq
  rw [handle, decided, follow_records]
  exact ⟨rfl, rfl, deviceDeeds_recorded entries⟩

/-- A step that draws a frame of the wrong size leaves raster and display alone. -/
theorem operate_of_size_ne {step : Step} {lead : List Call}
    (draws : step.lead? cfg s.desk.transport.state = some lead)
    (wrong : (s.frameAfter lead).size ≠ cfg.painter.resolution.area) :
    let o := s.operate cfg step.operation
    o.session = { s with
      desk := (s.desk.take cfg step).desk
      machine := Machine.afterCalls lead s.machine } ∧
    o.error = some (.render ⟨cfg.painter.resolution.area, (s.frameAfter lead).size⟩) ∧
    deviceDeeds o.deeds = lead.map .call := by
  obtain ⟨session, done, failed⟩ := operate_of_lead cfg s draws
  rw [draw_of_size_ne cfg _ wrong] at session done failed
  exact ⟨session, failed, done.trans (List.append_nil _)⟩

end Step

/-- Events that come to nothing leave the session alone. A completion that is refused changes
nothing but that it is no longer awaited. A drawing of a frame of the wrong size leaves raster and
display alone, and the machine gets no call but the one before it. -/
theorem failures_leave_alone (cfg : Config) (s : Session M D) :
    (∀ event error, Ignored cfg s.desk event error →
      let o := s.handle cfg event
      o.session = s ∧ o.error = error ∧ deviceDeeds o.deeds = []) ∧
    (∀ ticket result error, Refuses cfg s.desk (.fetched ticket result) error →
      let o := s.handle cfg (.fetched ticket result)
      o.session = { s with desk := { s.desk with awaited := none } } ∧
      o.error = some error ∧ deviceDeeds o.deeds = []) ∧
    ∀ step action, .draw action ∈ (s.desk.take cfg step).acts →
      ∃ lead ∈ [[], [Call.tick], [.reset]],
        step.lead? cfg s.desk.transport.state = some lead ∧
        ((s.frameAfter lead).size ≠ cfg.painter.resolution.area →
          let o := s.operate cfg step.operation
          o.session = { s with
            desk := (s.desk.take cfg step).desk
            machine := Machine.afterCalls lead s.machine } ∧
          o.error = some (.render ⟨cfg.painter.resolution.area, (s.frameAfter lead).size⟩) ∧
          deviceDeeds o.deeds = lead.map .call) := by
  refine ⟨fun _ _ => handle_of_ignored cfg s, fun ticket result error refuses => ?_,
    fun step action drawn => ?_⟩
  · rw [handle, refuses.decide_fetched]
    exact ⟨rfl, rfl, rfl⟩
  · obtain ⟨lead, isLead, draws⟩ := (takes_take cfg s.desk step).lead?_of_draw drawn
    exact ⟨lead, isLead, draws, operate_of_size_ne cfg s draws⟩

/-- A title that is not on offer, a program that is too large, and a frame that is cut short. -/
theorem left_alone_after_boot :
    let cfg : Config := { resolution := ⟨2, 1⟩, pixelSize := 1, maxProgramLength := 1 }
    let machine : StandIn.Scripted := ⟨#[0, 0], [#[1]]⟩
    let s := after cfg [.boot, .handle .playPause] (fresh cfg machine ({} : StandIn.Monitor))
    let refused := s.handle cfg (.fetched ⟨0⟩ (.ok #[1, 2]))
    let cut := s.handle cfg .refresh
    (s.handle cfg (.select "ATLANTIS")).session = s ∧
      refused.session = { s with desk := { s.desk with awaited := none } } ∧
      refused.error = some (.cartridge (.tooLarge "PONG" 2 1)) ∧
      cut.session.raster = s.raster ∧ deviceDeeds cut.deeds = [.call .tick] ∧
      cut.error = some (.render ⟨2, 1⟩) := by
  intro cfg machine s refused cut
  obtain ⟨ignored, refusal, drawing⟩ := failures_leave_alone cfg s
  have unlisted := ignored (.select "ATLANTIS") _ (.unlisted (by decide) (by decide +kernel))
  have tooLarge := refusal ⟨0⟩ (.ok #[1, 2]) _ (.tooLarge (by decide +kernel) (by decide))
  obtain ⟨lead, -, draws, untouched⟩ := drawing (.handle .refresh) (some .step) (by decide +kernel)
  have isTick : Step.lead? cfg s.desk.transport.state (.handle .refresh) = some [.tick] := by
    decide +kernel
  obtain rfl : lead = [.tick] := Option.some.inj (draws.symm.trans isTick)
  obtain ⟨session, error, done⟩ := untouched (by decide +kernel)
  have raster : cut.session.raster = _ := congrArg Session.raster session
  have title : s.desk.selected.getD "" = "PONG" := by decide +kernel
  refine ⟨unlisted.1, tooLarge.1, title ▸ tooLarge.2.1, raster, done, ?_⟩
  exact error.trans (by decide +kernel)

/-- The event comes to nothing at the desk. -/
def Event.isIgnored (cfg : Config) (d : Desk) : Event → Bool
  | .select title => !Catalog.isListed title
  | .key code _ => (cfg.layout.key? code).isNone
  | .fetched ticket _ => decide (d.awaited ≠ some ticket)
  | .refresh | .playPause | .step | .reset => false

theorem isIgnored_iff {cfg : Config} {d : Desk} {event : Event} :
    event.isIgnored cfg d = true ↔ ∃ error, Ignored cfg d event error := by
  constructor
  · intro isIgnored
    cases event with
    | select title =>
      have unlisted : Catalog.isListed title = false := by simpa [Event.isIgnored] using isIgnored
      by_cases empty : title = ""
      · exact ⟨none, empty ▸ .selectedNothing⟩
      · exact ⟨_, .unlisted empty unlisted⟩
    | key code edge => exact ⟨none, .unmapped (Option.isNone_iff_eq_none.mp isIgnored)⟩
    | fetched ticket result => exact ⟨none, .superseded (of_decide_eq_true isIgnored)⟩
    | _ => cases isIgnored
  · rintro ⟨error, ignored⟩
    cases ignored with
    | selectedNothing => simp [Event.isIgnored, isListed_empty]
    | unlisted nonempty unlisted => simp [Event.isIgnored, unlisted]
    | unmapped unmapped => simp [Event.isIgnored, unmapped]
    | superseded other => simp [Event.isIgnored, other]

/-- The operations of a run without the events that come to nothing where the run meets them. -/
def heeded (cfg : Config) : List Operation → Session M D → List Operation
  | [], _ => []
  | op :: ops, s =>
    let rest := heeded cfg ops (s.operate cfg op).session
    match op with
    | .handle event => if event.isIgnored cfg s.desk then rest else op :: rest
    | _ => op :: rest

/-- A run comes to the same without the events that come to nothing. -/
theorem after_heeded (cfg : Config) (ops : List Operation) (s : Session M D) :
    after cfg (heeded cfg ops s) s = after cfg ops s ∧
      deviceDeeds (deeds cfg (heeded cfg ops s) s) = deviceDeeds (deeds cfg ops s) := by
  induction ops generalizing s with
  | nil => exact ⟨rfl, rfl⟩
  | cons op ops ih =>
    obtain ⟨session, done⟩ := ih (s.operate cfg op).session
    have kept : after cfg (op :: heeded cfg ops (s.operate cfg op).session) s =
          after cfg (op :: ops) s ∧
        deviceDeeds (deeds cfg (op :: heeded cfg ops (s.operate cfg op).session) s) =
          deviceDeeds (deeds cfg (op :: ops) s) := by
      simp only [after_cons, deeds_cons, deviceDeeds_append, session, done, and_self]
    unfold heeded
    split
    next event =>
      split
      next isIgnored =>
        -- the operations after the event meet the session that the event met
        obtain ⟨error, ignored⟩ := isIgnored_iff.mp isIgnored
        obtain ⟨same, -, nothing⟩ := handle_of_ignored cfg s ignored
        rw [operate, same] at session done ⊢
        rw [after_cons, deeds_cons, deviceDeeds_append, operate, same, nothing, List.nil_append]
        exact ⟨session, done⟩
      next => exact kept
    next => exact kept

end HexPlayer.Session
