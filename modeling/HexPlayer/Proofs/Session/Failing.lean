import HexPlayer.Proofs.Session.Drawings

/-!
# When an operation fails

`Fails` lists the failures that an event can have, each with what it takes: the desk refuses the
event, the frame of a drawing has the wrong size, or the display takes a presentation badly.
`error_exactly` says that an event reports a failure exactly if it is on the list, that nothing else
went wrong in it, and what booting reports.
-/

namespace HexPlayer.Session

open Cartridge (Program Ticket)

/-- The desk refuses the event. -/
inductive Refuses (cfg : Config) (d : Desk) : Event → Error → Prop where
  | unlisted {title : String} (nonempty : title ≠ "")
      (unlisted : Catalog.isListed title = false) :
    Refuses cfg d (.select title) (.unknownTitle title)
  | undelivered {ticket : Ticket} {error : Cartridge.Error} (awaited : d.awaited = some ticket) :
    Refuses cfg d (.fetched ticket (.error error)) (.cartridge error)
  | tooLarge {ticket : Ticket} {program : Program} (awaited : d.awaited = some ticket)
      (exceeds : cfg.maxProgramLength < program.size) :
    Refuses cfg d (.fetched ticket (.ok program))
      (.cartridge (.tooLarge (d.selected.getD "") program.size cfg.maxProgramLength))

/-- A decision carries a refusal exactly if the desk refuses the event. -/
theorem Takes.refusal_iff {cfg : Config} {d : Desk} {event : Event} {decision : Decision}
    (takes : Takes cfg d (.handle event) decision) (error : Error) :
    decision.refusal = some error ↔ Refuses cfg d event error := by
  constructor
  · intro refused
    cases takes with
    | selectedUnlisted nonempty unlisted =>
      obtain rfl := Option.some.inj refused
      exact .unlisted nonempty unlisted
    | failed awaited =>
      obtain rfl := Option.some.inj refused
      exact .undelivered awaited
    | tooLarge awaited exceeds =>
      obtain rfl := Option.some.inj refused
      exact .tooLarge awaited exceeds
    | _ => cases refused
  · intro refuses
    cases refuses with
    | unlisted nonempty unlisted =>
      cases takes with
      | selectedNothing => exact absurd rfl nonempty
      | selectedUnlisted _ _ => rfl
      | selected listed => cases unlisted.symm.trans listed
    | undelivered awaited =>
      cases takes with
      | superseded other => exact absurd awaited other
      | failed _ => rfl
    | tooLarge awaited exceeds =>
      cases takes with
      | superseded other => exact absurd awaited other
      | tooLarge _ _ => rfl
      | loaded _ fits => exact absurd fits (Nat.not_le.mpr exceeds)

variable {M D : Type} [Machine M] [Display D]

/-- A drawing for the desk `d`, of the frame that the calls of `lead` lead to, fails. -/
inductive DrawFails (cfg : Config) (s : Session M D) (d : Desk) (lead : List Call) :
    Error → Prop where
  | mismatched (wrong : (s.frameAfter lead).size ≠ cfg.painter.resolution.area) :
    DrawFails cfg s d lead (.render ⟨cfg.painter.resolution.area, (s.frameAfter lead).size⟩)
  | unshown {cause : String} (fits : (s.frameAfter lead).size = cfg.painter.resolution.area)
      (complains : s.complaint? (cfg.painter.repaint s.raster (s.frameAfter lead)) (d.panel cfg) =
        some cause) :
    DrawFails cfg s d lead (.display cause)

/-- What can go wrong with an event, and the failure that it is reported by. -/
inductive Fails (cfg : Config) (s : Session M D) : Event → Error → Prop where
  | refused {event : Event} {error : Error} (refuses : Refuses cfg s.desk event error) :
    Fails cfg s event error
  | drawing {event : Event} {lead : List Call} {error : Error}
      (draws : event.lead? cfg s.desk.transport.state = some lead)
      (fails : DrawFails cfg s (s.desk.decide cfg event).desk lead error) :
    Fails cfg s event error
  | stroke {code : Char} {edge : Edge} {stroke : Stroke} {cause : String}
      (mapped : cfg.layout.stroke? code edge = some stroke)
      (complains : s.complaint? s.raster ((s.desk.decide cfg (.key code edge)).desk.panel cfg) =
        some cause) :
    Fails cfg s (.key code edge) (.display cause)

/-- What can go wrong with booting. An unlisted default title is reported only if the first picture
is shown. -/
inductive BootFails (cfg : Config) (s : Session M D) : Error → Prop where
  | drawing {error : Error} (fails : DrawFails cfg s (s.desk.boot cfg).desk [] error) :
    BootFails cfg s error
  | unlisted {title : String} (shows : ∀ error, ¬ DrawFails cfg s (s.desk.boot cfg).desk [] error)
      (default : cfg.defaultTitle = some title) (nonempty : title ≠ "")
      (unlisted : Catalog.isListed title = false) :
    BootFails cfg s (.unknownTitle title)

section Failures

variable (cfg : Config)

/-- All failures of acts that are carried out one after another. -/
def failures : List Act → Session M D → List Error
  | [], _ => []
  | act :: acts, s =>
    (s.perform cfg act).error.toList ++ failures acts (s.perform cfg act).session

/-- All failures of the acts of a decision, and the refusal behind them. -/
def failuresOf (s : Session M D) (decision : Decision) : List Error :=
  failures cfg decision.acts { s with desk := decision.desk } ++ decision.refusal.toList

/-- Acts report the first of their failures. -/
theorem error_performAll (acts : List Act) (s : Session M D) :
    (performAll cfg acts s).error = (failures cfg acts s).head? := by
  induction acts generalizing s with
  | nil => rfl
  | cons act acts ih =>
    rw [performAll, Outcome.error_andThen, ih, failures, List.head?_append, Option.head?_toList]

/-- A decision reports the first failure. -/
theorem error_follow (s : Session M D) (decision : Decision) :
    (s.follow cfg decision).error = (failuresOf cfg s decision).head? := by
  rw [follow, failuresOf, List.head?_append, Option.head?_toList, error_performAll]

/-- Only the acts that present can fail, each of them once. -/
theorem length_failures_le (acts : List Act) (s : Session M D) :
    (failures cfg acts s).length ≤ acts.countP Act.presents := by
  induction acts generalizing s with
  | nil => exact Nat.le_refl 0
  | cons act acts ih =>
    have first : (s.perform cfg act).error.toList.length ≤ [act].countP Act.presents := by
      cases act with
      | call call => exact Nat.le_refl 0
      | record entry => exact Nat.le_refl 0
      | draw action => exact Option.length_toList_le
      | present => exact Option.length_toList_le
    rw [failures, List.length_append, List.countP_cons, Nat.add_comm]
    exact Nat.add_le_add (ih _) (by simpa [List.countP_cons] using first)

/-- A decision with no act that presents reports its refusal, if it has one. -/
theorem error_follow_of_silent (s : Session M D) {decision : Decision}
    (silent : ∀ act ∈ decision.acts, act.presents = false) :
    (s.follow cfg decision).error = decision.refusal := by
  have none : failures cfg decision.acts { s with desk := decision.desk } = [] := by
    have few := length_failures_le cfg decision.acts { s with desk := decision.desk }
    rw [List.countP_eq_zero.mpr fun act member => by simp [silent act member]] at few
    exact List.length_eq_zero_iff.mp (Nat.le_zero.mp few)
  rw [error_follow, failuresOf, none, List.nil_append, Option.head?_toList]

/-- A list of one failure at most is its first. -/
theorem eq_toList_head? {errors : List Error} (once : errors.length ≤ 1) :
    errors = errors.head?.toList := by
  cases errors with
  | nil => rfl
  | cons first rest =>
    obtain rfl : rest = [] := by simpa using once
    rfl

end Failures

/-- An event is refused, or presents something once, or neither. -/
theorem Takes.fails_once {cfg : Config} {d : Desk} {event : Event} {decision : Decision}
    (takes : Takes cfg d (.handle event) decision) :
    decision.acts.countP Act.presents + decision.refusal.toList.length ≤ 1 := by
  cases takes <;> simp [Act.presents]

/-- The desk refuses to boot exactly if the default title is neither empty nor listed. -/
theorem Takes.boot_refusal_iff {cfg : Config} {d : Desk} {decision : Decision}
    (takes : Takes cfg d .boot decision) (error : Error) :
    decision.refusal = some error ↔ ∃ title, cfg.defaultTitle = some title ∧ title ≠ "" ∧
      Catalog.isListed title = false ∧ error = .unknownTitle title := by
  cases takes with
  | bootedEmpty noTitle =>
    refine ⟨fun refused => (by cases refused), ?_⟩
    rintro ⟨title, default, nonempty, -⟩
    exact absurd (noTitle title default) nonempty
  | bootedListed default listed =>
    refine ⟨fun refused => (by cases refused), ?_⟩
    rintro ⟨title, isDefault, -, unlisted, -⟩
    obtain rfl := Option.some.inj (default.symm.trans isDefault)
    cases unlisted.symm.trans listed
  | @bootedUnlisted title default unlisted nonempty =>
    constructor
    · intro refused
      obtain rfl := Option.some.inj refused
      exact ⟨title, default, nonempty, unlisted, rfl⟩
    · rintro ⟨other, isDefault, -, -, rfl⟩
      rw [Option.some.inj (default.symm.trans isDefault)]

section Operations

variable (cfg : Config) (s : Session M D)

/-- A drawing reports a failure exactly if it is one that it can have. -/
theorem error_draw_iff (d : Desk) (lead : List Call) (error : Error) :
    let reached : Session M D := { s with desk := d, machine := Machine.afterCalls lead s.machine }
    (reached.draw cfg).error = some error ↔ DrawFails cfg s d lead error := by
  intro reached
  by_cases fits : (s.frameAfter lead).size = cfg.painter.resolution.area
  · have drawn : (reached.draw cfg).error = (s.complaint? (cfg.painter.repaint s.raster
        (s.frameAfter lead)) (d.panel cfg)).map .display := by
      rw [draw_of_size_eq cfg reached fits]
      rfl
    rw [drawn, Option.map_eq_some_iff]
    constructor
    · rintro ⟨cause, complains, rfl⟩
      exact .unshown fits complains
    · intro fails
      cases fails with
      | mismatched wrong => exact absurd fits wrong
      | unshown _ complains => exact ⟨_, complains, rfl⟩
  · rw [draw_of_size_ne cfg reached fits]
    constructor
    · intro failed
      obtain rfl := Option.some.inj failed
      exact .mismatched fits
    · intro fails
      cases fails with
      | mismatched _ => rfl
      | unshown right _ => exact absurd right fits

/-- A stroke reports what the display complains about. -/
theorem error_handle_of_mapped {code : Char} {edge : Edge} {stroke : Stroke}
    (mapped : cfg.layout.stroke? code edge = some stroke) :
    (s.handle cfg (.key code edge)).error =
      (s.complaint? s.raster ((s.desk.decide cfg (.key code edge)).desk.panel cfg)).map
        .display := by
  simp [handle, follow, Desk.decide, Desk.key, mapped, performAll, perform, present, complaint?]

/-- What goes wrong with an event is no more than what it reports. -/
theorem failuresOf_decide (event : Event) :
    failuresOf cfg s (s.desk.decide cfg event) = (s.handle cfg event).error.toList := by
  have presented := length_failures_le cfg (s.desk.decide cfg event).acts
    { s with desk := (s.desk.decide cfg event).desk }
  have once := (takes_take cfg s.desk (.handle event)).fails_once
  have few : (failuresOf cfg s (s.desk.decide cfg event)).length ≤ 1 := by
    rw [failuresOf, List.length_append]
    exact Nat.le_trans (Nat.add_le_add_right presented _) once
  rw [handle, error_follow, ← eq_toList_head? few]

/-- An event reports a failure exactly if it is one that it can have. -/
theorem error_handle_iff (event : Event) (error : Error) :
    (s.handle cfg event).error = some error ↔ Fails cfg s event error := by
  have takes : Takes cfg s.desk (.handle event) (s.desk.decide cfg event) := takes_take cfg s.desk _
  have refusal := takes.refusal_iff error
  -- how far the acts reach says which of the failures the event can have
  cases takes.reaches with
  | @drawing lead entries action draws acts accepted =>
    have accepts : (s.desk.decide cfg event).refusal = none := accepted.resolve_left (by simp)
    have failed := (handle_of_lead cfg s draws).2.2
    rw [accepts, Option.or_none] at failed
    have isDrawing : (s.handle cfg event).error = some error ↔
        DrawFails cfg s (s.desk.decide cfg event).desk lead error :=
      (Eq.congr_left failed).trans (error_draw_iff cfg s _ lead error)
    refine isDrawing.trans ⟨.drawing draws, fun fails => ?_⟩
    cases fails with
    | refused refuses => cases accepts.symm.trans (refusal.mpr refuses)
    | drawing leads fails =>
      obtain rfl := Option.some.inj (draws.symm.trans leads)
      exact fails
    | stroke mapped complains => cases draws
  | @stroke code edge stroke isKey mapped decided =>
    obtain rfl : event = .key code edge := Step.handle.inj isKey
    rw [error_handle_of_mapped cfg s mapped, Option.map_eq_some_iff]
    constructor
    · rintro ⟨cause, complains, rfl⟩
      exact .stroke mapped complains
    · intro fails
      cases fails with
      | refused refuses => cases refuses
      | drawing leads fails => cases leads
      | stroke mapped complains => exact ⟨_, complains, rfl⟩
  | nothing undrawn silent =>
    rw [handle, error_follow_of_silent cfg s silent]
    refine refusal.trans ⟨.refused, fun fails => ?_⟩
    cases fails with
    | refused refuses => exact refuses
    | drawing leads fails => cases undrawn.symm.trans leads
    | stroke mapped complains =>
      have shown := silent .present (by simp [Desk.decide, Desk.key, mapped])
      cases shown

/-- Booting reports a failure exactly if it is one that it can have. -/
theorem error_boot_iff (error : Error) :
    (s.boot cfg).error = some error ↔ BootFails cfg s error := by
  have refusal := (takes_take cfg s.desk .boot).boot_refusal_iff
  have draws : Step.lead? cfg s.desk.transport.state .boot = some [] := rfl
  have failed : (s.boot cfg).error = _ := (operate_of_lead cfg s draws).2.2
  have drawn (other : Error) := error_draw_iff cfg s (s.desk.boot cfg).desk [] other
  rw [failed, Option.or_eq_some_iff]
  constructor
  · rintro (fails | ⟨shows, refused⟩)
    · exact .drawing ((drawn error).mp fails)
    · obtain ⟨title, default, nonempty, unlisted, rfl⟩ := (refusal error).mp refused
      refine .unlisted (fun other fails => ?_) default nonempty unlisted
      cases shows.symm.trans ((drawn other).mpr fails)
  · intro fails
    cases fails with
    | drawing fails => exact .inl ((drawn error).mpr fails)
    | unlisted shows default nonempty unlisted =>
      refine .inr ⟨Option.eq_none_iff_forall_ne_some.mpr fun other fails => ?_, ?_⟩
      · exact shows other ((drawn other).mp fails)
      · exact (refusal _).mpr ⟨_, default, nonempty, unlisted, rfl⟩

end Operations

/-- A first picture that is cut short is reported in place of an unlisted default title. -/
example :
    let cfg : Config := { resolution := ⟨2, 1⟩, pixelSize := 1, defaultTitle := some "ATLANTIS" }
    let machine : StandIn.Scripted := ⟨#[1], []⟩
    ((fresh cfg machine ({} : StandIn.Monitor)).boot cfg).error = some (.render ⟨2, 1⟩) := by
  decide +kernel

/-- An event reports a failure exactly if it is one that it can have, and nothing else went wrong in
it. Booting reports what goes wrong with its picture, or else an unlisted default title. -/
theorem error_exactly (cfg : Config) (s : Session M D) :
    (∀ event error, (s.handle cfg event).error = some error ↔ Fails cfg s event error) ∧
    (∀ event, failuresOf cfg s (s.desk.decide cfg event) = (s.handle cfg event).error.toList) ∧
    ∀ error, (s.boot cfg).error = some error ↔ BootFails cfg s error :=
  ⟨error_handle_iff cfg s, failuresOf_decide cfg s, error_boot_iff cfg s⟩

end HexPlayer.Session
