import HexPlayer.Proofs.Picture.Rendering
import HexPlayer.Proofs.Session.Presenting

/-!
# Steps that draw

A step draws once at most. `lead?` names the calls that it makes on the machine before, and
`operate_of_lead` says what a step that draws amounts to: those calls, and a drawing of the frame
that they lead to. A frame of the wrong size is neither painted nor presented; one of the right size
is painted and presented, whatever the display answers. `Takes.reaches` tells the steps that draw
from those that present a stroke and from those that present nothing.
-/

namespace HexPlayer.Session

/-- The calls that an event makes on the machine before it draws, if it draws. -/
def Event.lead? (cfg : Config) (state : RunState) : Event → Option (List Call)
  | .refresh => if state = .running then some [.tick] else none
  | .step => if state = .stopped then some [.tick] else none
  | .reset => if cfg.redrawOnReset then some [.reset] else none
  | .select title => if Catalog.isListed title then some [.reset] else none
  | .key .. | .playPause | .fetched .. => none

/-- The calls that a step makes on the machine before it draws, if it draws. -/
def Step.lead? (cfg : Config) (state : RunState) : Step → Option (List Call)
  | .boot => some []
  | .handle event => event.lead? cfg state
  | .nextRequest => none

/-- How far the acts of a step reach: to a drawing, to the presentation of a stroke, or to no
presentation at all. -/
inductive Reaches (cfg : Config) (d : Desk) (step : Step) (decision : Decision) : Prop where
  | drawing {lead : List Call} (entries : List Journal.Entry) (action : Option Action)
      (draws : step.lead? cfg d.transport.state = some lead)
      (acts : decision.acts =
        entries.map Act.record ++ (lead.map Act.call ++ [.draw action]))
      (accepted : step = .boot ∨ decision.refusal = none)
  | stroke {code : Char} {edge : Edge} {stroke : Stroke}
      (isKey : step = .handle (.key code edge))
      (mapped : cfg.layout.stroke? code edge = some stroke)
      (decided : decision =
        { desk := { d with lamps := d.lamps.register stroke }
          acts := [.call (.ofStroke stroke), .present] })
  | nothing (undrawn : step.lead? cfg d.transport.state = none)
      (silent : ∀ act ∈ decision.acts, act.presents = false)

/-- Every step reaches as far as one of the three. -/
theorem Takes.reaches {cfg : Config} {d : Desk} {step : Step} {decision : Decision}
    (takes : Takes cfg d step decision) : Reaches cfg d step decision := by
  cases takes with
  | bootedEmpty noTitle => exact .drawing [] none rfl rfl (.inl rfl)
  | bootedListed default listed => exact .drawing [] none rfl rfl (.inl rfl)
  | bootedUnlisted default unlisted nonempty => exact .drawing [] none rfl rfl (.inl rfl)
  | refreshed running => exact .drawing [_] (some .step) (if_pos running) rfl (.inr rfl)
  | stepped stopped => exact .drawing [_] (some .step) (if_pos stopped) rfl (.inr rfl)
  | resetDrawn redraw => exact .drawing [_] (some .render) (if_pos redraw) rfl (.inr rfl)
  | selected listed => exact .drawing [_, _] (some .render) (if_pos listed) rfl (.inr rfl)
  | struck mapped => exact .stroke rfl mapped rfl
  | rested stopped => exact .nothing (if_neg (by simp [stopped])) (by simp [Act.presents])
  | ranOn running => exact .nothing (if_neg (by simp [running])) (by simp [Act.presents])
  | resetUndrawn redraw => exact .nothing (if_neg (by simp [redraw])) (by simp [Act.presents])
  | selectedNothing =>
    exact .nothing (by simp [Step.lead?, Event.lead?, isListed_empty]) (by simp)
  | selectedUnlisted nonempty unlisted => exact .nothing (if_neg (by simp [unlisted])) (by simp)
  | popped => exact .nothing rfl (by simp)
  | failed awaited => exact .nothing rfl (by simp)
  | tooLarge awaited exceeds => exact .nothing rfl (by simp)
  | _ => exact .nothing rfl (by simp [Act.presents])

variable {M D : Type} [Machine M] [Display D]

omit [Display D] in
/-- The frame that the machine shows after calls. -/
def frameAfter (s : Session M D) (calls : List Call) : Frame :=
  Machine.frame (Machine.afterCalls calls s.machine)

omit [Machine M] in
/-- The cause for which the display would fail if it was handed a raster and a panel. -/
def complaint? (s : Session M D) (raster : Raster) (panel : Panel) : Option String :=
  (Display.present raster panel s.display).2

section Draw

variable (cfg : Config) (s : Session M D)

/-- A frame of the wrong size is refused, and nothing is done. -/
theorem draw_of_size_ne
    (wrong : (Machine.frame s.machine).size ≠ cfg.painter.resolution.area) :
    let mismatch : FrameMismatch := ⟨cfg.painter.resolution.area, (Machine.frame s.machine).size⟩
    s.draw cfg = { session := s, error := some (.render mismatch) } := by
  have refused := cfg.painter.render_of_size_ne s.raster wrong
  simp [draw, refused]

/-- A frame of the right size is painted and presented. -/
theorem draw_of_size_eq
    (fits : (Machine.frame s.machine).size = cfg.painter.resolution.area) :
    let frame := Machine.frame s.machine
    let raster := cfg.painter.repaint s.raster frame
    let panel := s.desk.panel cfg
    s.draw cfg =
      { session := { s with raster, display := (Display.present raster panel s.display).1 }
        deeds := .painted frame :: (strayDeeds (frame.countP Painter.isStray) ++
          [.presented raster panel (s.complaint? raster panel)])
        error := (s.complaint? raster panel).map .display } := by
  have rendered := cfg.painter.render_of_size_eq s.raster fits
  simp [draw, rendered, present, complaint?, Outcome.andThen]

/-- To the devices a drawing of the right size is the painting and the presentation. -/
theorem deviceDeeds_draw_of_size_eq
    (fits : (Machine.frame s.machine).size = cfg.painter.resolution.area) :
    let raster := cfg.painter.repaint s.raster (Machine.frame s.machine)
    let panel := s.desk.panel cfg
    deviceDeeds (s.draw cfg).deeds =
      [.painted (Machine.frame s.machine),
        .presented raster panel (s.complaint? raster panel)] := by
  have split (deed : Deed) (isOnDevice : deed.isOnDevice = true) (rest : List Deed) :
      deviceDeeds (deed :: rest) = deed :: deviceDeeds rest := by
    simp [deviceDeeds, isOnDevice]
  rw [draw_of_size_eq cfg s fits, split _ rfl, deviceDeeds_append, deviceDeeds_strayDeeds,
    List.nil_append]
  rfl

end Draw

/-- Entries of the journal and calls are carried out without fail before what comes after them. -/
theorem performAll_lead (cfg : Config) (entries : List Journal.Entry) (lead : List Call)
    (acts : List Act) (s : Session M D) :
    let rest := performAll cfg acts { s with machine := Machine.afterCalls lead s.machine }
    performAll cfg (entries.map Act.record ++ (lead.map Act.call ++ acts)) s =
      { rest with
        deeds := entries.map Deed.recorded ++ (lead.map Deed.call ++ rest.deeds) } := by
  induction entries with
  | nil =>
    induction lead generalizing s with
    | nil => rfl
    | cons call lead ih =>
      have later := ih { s with machine := Machine.call call s.machine }
      simp only [List.map_nil, List.nil_append] at later
      simp only [List.map_nil, List.nil_append, List.map_cons, List.cons_append, performAll,
        perform, Outcome.andThen, later, Machine.afterCalls_cons, Option.none_or]
  | cons entry entries ih =>
    simp only [List.map_cons, List.cons_append, performAll, perform, Outcome.andThen, ih,
      List.nil_append, Option.none_or]

/-- Entries of the journal are not on the devices. -/
@[simp]
theorem deviceDeeds_recorded (entries : List Journal.Entry) :
    deviceDeeds (entries.map Deed.recorded) = [] := by
  simp [deviceDeeds, Deed.isOnDevice]

/-- Calls are on the devices. -/
@[simp]
theorem deviceDeeds_call (calls : List Call) :
    deviceDeeds (calls.map Deed.call) = calls.map Deed.call := by
  simp [deviceDeeds, Deed.isOnDevice]

/-- A decision to write to the journal leaves the devices alone. -/
theorem follow_records (cfg : Config) (s : Session M D) (desk : Desk)
    (entries : List Journal.Entry) (refusal : Option Error) :
    s.follow cfg { desk, acts := entries.map .record, refusal } =
      { session := { s with desk }, deeds := entries.map .recorded, error := refusal } := by
  have performed := performAll_lead cfg entries [] [] { s with desk }
  simp only [List.map_nil, List.append_nil] at performed
  simp [follow, performed, performAll]

/-- A drawing does the same to session and devices whatever action asked for it. -/
theorem perform_draw (cfg : Config) (action : Option Action) (s : Session M D) :
    (s.perform cfg (.draw action)).session = (s.draw cfg).session ∧
      (s.perform cfg (.draw action)).error = (s.draw cfg).error ∧
      deviceDeeds (s.perform cfg (.draw action)).deeds = deviceDeeds (s.draw cfg).deeds := by
  cases action with
  | none => exact ⟨rfl, rfl, rfl⟩
  | some action =>
    exact ⟨Outcome.session_recordError .., Outcome.error_recordError ..,
      deviceDeeds_recordError ..⟩

/-- A step that draws makes its calls and draws the frame that they lead to. -/
theorem operate_of_lead (cfg : Config) (s : Session M D) {step : Step} {lead : List Call}
    (draws : step.lead? cfg s.desk.transport.state = some lead) :
    let decision := s.desk.take cfg step
    let reached : Session M D :=
      { s with desk := decision.desk, machine := Machine.afterCalls lead s.machine }
    let o := s.operate cfg step.operation
    o.session = (reached.draw cfg).session ∧
      deviceDeeds o.deeds = lead.map Deed.call ++ deviceDeeds (reached.draw cfg).deeds ∧
      o.error = (reached.draw cfg).error.or decision.refusal := by
  intro decision reached o
  have reaches := (takes_take cfg s.desk step).reaches
  cases reaches with
  | nothing undrawn silent => cases undrawn.symm.trans draws
  | stroke isKey mapped decided =>
    subst isKey
    cases draws
  | @drawing others entries action leads acts accepted =>
    obtain rfl : others = lead := Option.some.inj (leads.symm.trans draws)
    obtain ⟨session, error, done⟩ := perform_draw cfg action reached
    have performed : performAll cfg decision.acts { s with desk := decision.desk } =
        { reached.perform cfg (.draw action) with
          deeds := entries.map Deed.recorded ++
            (others.map Deed.call ++ (reached.perform cfg (.draw action)).deeds) } := by
      rw [acts, performAll_lead]
      simp [performAll, Outcome.andThen, reached]
    have followed : o = s.follow cfg decision := operate_operation cfg s step
    rw [followed, follow, performed]
    refine ⟨session, ?_, congrArg (Option.or · decision.refusal) error⟩
    rw [deviceDeeds_append, deviceDeeds_append, deviceDeeds_recorded, deviceDeeds_call, done,
      List.nil_append]

/-- An event that draws makes its calls and draws the frame that they lead to. -/
theorem handle_of_lead (cfg : Config) (s : Session M D) {event : Event} {lead : List Call}
    (draws : event.lead? cfg s.desk.transport.state = some lead) :
    let decision := s.desk.decide cfg event
    let reached : Session M D :=
      { s with desk := decision.desk, machine := Machine.afterCalls lead s.machine }
    let o := s.handle cfg event
    o.session = (reached.draw cfg).session ∧
      deviceDeeds o.deeds = lead.map Deed.call ++ deviceDeeds (reached.draw cfg).deeds ∧
      o.error = (reached.draw cfg).error.or decision.refusal :=
  @operate_of_lead M D _ _ cfg s (.handle event) lead draws

end HexPlayer.Session
