import HexPlayer.Proofs.Session.Motion

/-!
# What a session shows of itself

A session shows its run state with every panel that it presents, but not every change of the run
state is presented: after a play/pause nothing is. With devices that never fail, the panel that was
shown last therefore says how things stand but for the play/pauses since; `shown_after` counts them
along a run.
-/

namespace HexPlayer

/-- The machine shows frames of the right size, whatever calls are made on it. -/
def Machine.Fits {M : Type} [Machine M] (p : Painter) (m : M) : Prop :=
  ∀ made, (frame (afterCalls made m)).size = p.resolution.area

theorem Machine.Fits.call {M : Type} [Machine M] {p : Painter} {m : M} (fits : Fits p m)
    (call : Call) : Fits p (Machine.call call m) :=
  fun made => fits (call :: made)

/-- The display never fails, whatever it is handed. -/
def Display.NeverFails {D : Type} [Display D] (d : D) : Prop :=
  ∀ shown raster panel, (present raster panel (afterPresents shown d)).2 = none

theorem Display.NeverFails.present {D : Type} [Display D] {d : D} (neverFails : NeverFails d)
    (raster : Raster) (panel : Panel) : NeverFails (Display.present raster panel d).1 :=
  fun shown => neverFails ((raster, panel) :: shown)

/-- All that such a display answers is that it did not fail. -/
theorem Display.NeverFails.answersTo {D : Type} [Display D] {d : D} (neverFails : NeverFails d)
    (shown : List (Raster × Panel)) : ∀ answer ∈ Display.answersTo shown d, answer = none := by
  induction shown generalizing d with
  | nil => exact fun answer member => by cases member
  | cons first rest ih =>
    exact List.forall_mem_cons.mpr ⟨neverFails [] _ _, ih (neverFails.present _ _)⟩

namespace Session

/-- The panel that the display took, if the deed is a presentation that did not fail. -/
def Deed.panel? : Deed → Option Panel
  | .presented _ panel none => some panel
  | .presented _ _ (some _) | .call _ | .painted _ | .asked _ | .recorded _ => none

/-- The panels that were shown. -/
def panels (deeds : List Deed) : List Panel := deeds.filterMap Deed.panel?

/-- The act hands a panel to the display. -/
def Act.presents : Act → Bool
  | .draw _ | .present => true
  | .call _ | .record _ => false

@[simp]
theorem panels_append (first second : List Deed) :
    panels (first ++ second) = panels first ++ panels second :=
  List.filterMap_append ..

theorem panel?_of_not_onDevice (deed : Deed) (off : deed.isOnDevice = false) :
    deed.panel? = none := by
  cases deed <;> first | rfl | cases off

/-- A display that did not fail took every panel that it was handed. -/
theorem panels_eq_map_handed {deeds : List Deed} (taken : ∀ answer ∈ answers deeds, answer = none) :
    panels deeds = (handed deeds).map Prod.snd := by
  induction deeds with
  | nil => rfl
  | cons deed deeds ih =>
    cases deed with
    | presented raster panel cause =>
      obtain ⟨rfl, others⟩ := List.forall_mem_cons.mp taken
      exact congrArg (panel :: ·) (ih others)
    | _ => exact ih taken

/-- Quiet acts present nothing. -/
theorem countP_presents_of_isQuiet {acts : List Act} (quiet : ∀ act ∈ acts, act.isQuiet = true) :
    acts.countP Act.presents = 0 := by
  rw [List.countP_eq_zero]
  intro act member
  have isQuiet := quiet act member
  cases act with
  | call call => exact Bool.false_ne_true
  | draw action => cases isQuiet
  | present => cases isQuiet
  | record entry => exact Bool.false_ne_true

/-- Booting, the selection of a listed title and a refresh of a session that runs each present
something. -/
theorem Takes.presents {cfg : Config} {d : Desk} {step : Step} {decision : Decision}
    (takes : Takes cfg d step decision)
    (changes : step = .boot ∨ step.operation.isSwap = true ∨
      step = .handle .refresh ∧ d.transport.state = .running) :
    0 < decision.acts.countP Act.presents := by
  cases takes with
  | selectedNothing => simp [Step.operation, Operation.isSwap, isListed_empty] at changes
  | selectedUnlisted nonempty unlisted =>
    simp [Step.operation, Operation.isSwap, unlisted] at changes
  | rested stopped => simp [Step.operation, Operation.isSwap, stopped] at changes
  | bootedEmpty noTitle => simp [Act.presents]
  | bootedListed default listed => simp [Act.presents]
  | bootedUnlisted default unlisted nonempty => simp [Act.presents]
  | refreshed running => simp [Act.presents]
  | selected listed => simp [Act.presents]
  | _ => simp [Step.operation, Operation.isSwap] at changes

variable {M D : Type} [Machine M] [Display D]

/-- The devices of the session never fail. -/
structure Reliable (cfg : Config) (s : Session M D) : Prop where
  fits : Machine.Fits cfg.painter s.machine
  neverFails : Display.NeverFails s.display

section Reliable

variable {cfg : Config} {s : Session M D} (reliable : Reliable cfg s)
include reliable

theorem reliable_present : Reliable cfg (s.present cfg).session where
  fits := reliable.fits
  neverFails := reliable.neverFails.present _ _

/-- A presentation shows the panel of the desk. -/
theorem panels_present : panels (s.present cfg).deeds = [s.desk.panel cfg] := by
  have taken : (Display.present s.raster (s.desk.panel cfg) s.display).2 = none :=
    reliable.neverFails [] _ _
  simp [present, panels, taken, Deed.panel?]

theorem reliable_draw : Reliable cfg (s.draw cfg).session := by
  unfold draw
  dsimp only
  split
  next => exact reliable
  next painted _ =>
    have painting : Reliable cfg { s with raster := painted.surface } := ⟨reliable.1, reliable.2⟩
    exact reliable_present painting

/-- A drawing shows the panel of the desk. -/
theorem panels_draw : panels (s.draw cfg).deeds = [s.desk.panel cfg] := by
  unfold draw
  dsimp only
  split
  next mismatch failed =>
    -- a frame of the right size is always rendered
    have fits : (Machine.frame s.machine).size = cfg.painter.resolution.area := reliable.fits []
    simp [Painter.render, fits] at failed
  next painted _ =>
    have painting : Reliable cfg { s with raster := painted.surface } := ⟨reliable.1, reliable.2⟩
    have noStray : panels (.painted (Machine.frame s.machine) :: strayDeeds painted.stray) = [] :=
      view_strayDeeds panel?_of_not_onDevice painted.stray
    rw [Outcome.deeds_andThen, panels_append, noStray, List.nil_append]
    exact panels_present painting

theorem reliable_perform (act : Act) : Reliable cfg (s.perform cfg act).session := by
  cases act with
  | call call => exact ⟨reliable.fits.call call, reliable.neverFails⟩
  | draw action =>
    cases action with
    | none => exact reliable_draw reliable
    | some action =>
      rw [perform, Outcome.session_recordError]
      exact reliable_draw reliable
  | present => exact reliable_present reliable
  | record entry => exact reliable

theorem panels_perform (act : Act) :
    panels (s.perform cfg act).deeds =
      List.replicate ([act].countP Act.presents) (s.desk.panel cfg) := by
  cases act with
  | call call => rfl
  | draw action =>
    cases action with
    | none => exact panels_draw reliable
    | some action =>
      exact (view_recordError panel?_of_not_onDevice _ _).trans (panels_draw reliable)
  | present => exact panels_present reliable
  | record entry => rfl

theorem reliable_performAll (acts : List Act) :
    Reliable cfg (performAll cfg acts s).session := by
  induction acts generalizing s with
  | nil => exact reliable
  | cons act acts ih => exact ih (reliable_perform reliable act)

/-- Each act that presents shows the panel of the desk. -/
theorem panels_performAll (acts : List Act) :
    panels (performAll cfg acts s).deeds =
      List.replicate (acts.countP Act.presents) (s.desk.panel cfg) := by
  induction acts generalizing s with
  | nil => rfl
  | cons act acts ih =>
    have first := panels_perform reliable act
    have later := ih (reliable_perform reliable act)
    rw [performAll, Outcome.deeds_andThen, panels_append, first, later, desk_perform,
      List.replicate_append_replicate, ← List.countP_append, List.singleton_append]

theorem reliable_step (step : Step) :
    Reliable cfg (s.operate cfg step.operation).session := by
  have decided : Reliable cfg { s with desk := (s.desk.take cfg step).desk } :=
    ⟨reliable.1, reliable.2⟩
  rw [operate_operation]
  exact reliable_performAll decided _

/-- A step shows the desk that it decides on. -/
theorem panels_step (step : Step) :
    panels (s.operate cfg step.operation).deeds =
      List.replicate ((s.desk.take cfg step).acts.countP Act.presents)
        ((s.operate cfg step.operation).session.desk.panel cfg) := by
  have decided : Reliable cfg { s with desk := (s.desk.take cfg step).desk } :=
    ⟨reliable.1, reliable.2⟩
  rw [operate_operation, desk_follow]
  exact panels_performAll decided _

theorem reliable_after_steps (steps : List Step) :
    Reliable cfg (after cfg (steps.map Step.operation) s) := by
  induction steps generalizing s with
  | nil => exact reliable
  | cons step rest ih => exact ih (reliable_step reliable step)

theorem reliable_operate (op : Operation) : Reliable cfg (s.operate cfg op).session := by
  rw [(operate_eq_steps cfg s op).1]
  exact reliable_after_steps reliable _

/-- Steps that serve show nothing. -/
theorem panels_serving {steps : List Step} (serve : ∀ step ∈ steps, step.serves = true) :
    panels (deeds cfg (steps.map Step.operation) s) = [] := by
  induction steps generalizing s with
  | nil => rfl
  | cons step rest ih =>
    have quiet := (takes_take cfg s.desk step).isQuiet (serve step List.mem_cons_self)
    have first := panels_step reliable step
    have later := ih (reliable_step reliable step) fun other member =>
      serve other (List.mem_cons_of_mem _ member)
    rw [countP_presents_of_isQuiet quiet, List.replicate_zero] at first
    rw [List.map_cons, deeds_cons, panels_append, first, later, List.append_nil]

/-- Whatever an operation shows is the desk that it leads to. -/
theorem panels_operate (op : Operation) :
    ∃ count, panels (s.operate cfg op).deeds =
      List.replicate count ((s.operate cfg op).session.desk.panel cfg) := by
  rcases operation_eq op with ⟨step, rfl⟩ | ⟨source, rfl⟩
  · exact ⟨_, panels_step reliable step⟩
  · have served := (operate_eq_steps cfg s (.serveAll source)).2
    have nothing : panels (deeds cfg (((Operation.serveAll source).steps s.desk).map
        Step.operation) s) = [] := panels_serving reliable fun _ => serves_of_mem_steps
    unfold panels at nothing
    rw [← view_deviceDeeds panel?_of_not_onDevice, ← served,
      view_deviceDeeds panel?_of_not_onDevice] at nothing
    exact ⟨0, nothing⟩

/-- Booting, the selection of a listed title and a refresh of a session that runs each show
something. -/
theorem panels_ne_nil {op : Operation}
    (changes : op = .boot ∨ op.isSwap = true ∨
      op = .handle .refresh ∧ s.desk.transport.state = .running) :
    panels (s.operate cfg op).deeds ≠ [] := by
  rcases operation_eq op with ⟨step, rfl⟩ | ⟨source, rfl⟩
  · have isChange : step = .boot ∨ step.operation.isSwap = true ∨
        step = .handle .refresh ∧ s.desk.transport.state = .running := by
      rw [operation_eq_handle_iff] at changes
      refine changes.imp_left fun boots => ?_
      cases step <;> first | rfl | cases boots
    have presents := (takes_take cfg s.desk step).presents isChange
    rw [panels_step reliable, ne_eq, List.replicate_eq_nil_iff]
    exact Nat.ne_of_gt presents
  · rcases changes with boots | swaps | ⟨refreshes, -⟩
    · cases boots
    · cases swaps
    · cases refreshes

end Reliable

/-- The stage showed something. -/
def Stage.shows (stage : Stage M D) : Bool := !(panels stage.outcome.deeds).isEmpty

/-- The play/pauses since something was shown. -/
def togglesSinceShown (run : List (Stage M D)) : Nat :=
  (run.rtakeWhile fun stage => !stage.shows).countP fun stage => stage.operation.isToggle

/-- The panel that was shown last has the run state that the play/pauses since have turned into the
one at hand. -/
def Shown (run : List (Stage M D)) (seen : List Panel) (state : RunState) : Prop :=
  ∃ panel, seen.getLast? = some panel ∧ (panel.state = state ↔ Even (togglesSinceShown run))

omit [Machine M] [Display D] in
theorem togglesSinceShown_of_shows (run : List (Stage M D)) {stage : Stage M D}
    (shows : stage.shows = true) : togglesSinceShown (run ++ [stage]) = 0 := by
  simp [togglesSinceShown, shows]

omit [Machine M] [Display D] in
theorem togglesSinceShown_of_not_shows (run : List (Stage M D)) {stage : Stage M D}
    (hides : stage.shows = false) :
    togglesSinceShown (run ++ [stage]) =
      togglesSinceShown run + if stage.operation.isToggle then 1 else 0 := by
  simp [togglesSinceShown, hides, List.countP_append, List.countP_singleton]

section Shown

variable {cfg : Config} {s : Session M D} (reliable : Reliable cfg s)
include reliable

/-- An operation that shows something shows how things stand after it. -/
theorem shown_concat_of_shows (run : List (Stage M D)) (seen : List Panel) {op : Operation}
    (shows : panels (s.operate cfg op).deeds ≠ []) :
    Shown (run ++ [⟨s, op, s.operate cfg op⟩]) (seen ++ panels (s.operate cfg op).deeds)
      (s.operate cfg op).session.desk.transport.state := by
  obtain ⟨count, shown⟩ := panels_operate reliable op
  have isShown : (⟨s, op, s.operate cfg op⟩ : Stage M D).shows = true := by
    simpa [Stage.shows] using shows
  have last : (seen ++ panels (s.operate cfg op).deeds).getLast? =
      some ((s.operate cfg op).session.desk.panel cfg) := by
    rw [shown] at shows ⊢
    have isPositive : count ≠ 0 := fun none => shows (by rw [none, List.replicate_zero])
    rw [List.getLast?_append, List.getLast?_replicate, if_neg isPositive]
    rfl
  refine ⟨_, last, ?_⟩
  rw [togglesSinceShown_of_shows run isShown]
  exact iff_of_true rfl Even.zero

/-- One more operation keeps what is shown last right but for the play/pauses since. -/
theorem Shown.concat {run : List (Stage M D)} {seen : List Panel}
    (shown : Shown run seen s.desk.transport.state) (op : Operation) :
    Shown (run ++ [⟨s, op, s.operate cfg op⟩]) (seen ++ panels (s.operate cfg op).deeds)
      (s.operate cfg op).session.desk.transport.state := by
  by_cases nothing : panels (s.operate cfg op).deeds = []
  · obtain ⟨panel, last, same⟩ := shown
    have hides : (⟨s, op, s.operate cfg op⟩ : Stage M D).shows = false := by
      simp [Stage.shows, nothing]
    -- a selection would have shown something, so that only a play/pause can change the run state
    have noSwap : op.isSwap = false := Bool.eq_false_iff.mpr fun swaps =>
      panels_ne_nil reliable (.inr (.inl swaps)) nothing
    refine ⟨panel, by rw [nothing, List.append_nil, last], ?_⟩
    rw [togglesSinceShown_of_not_shows run hides, transport_operate, state_turn, noSwap]
    cases toggle : op.isToggle with
    | true =>
      have turned : panel.state = s.desk.transport.state.toggled ↔
          ¬ panel.state = s.desk.transport.state := by
        cases panel.state <;> cases s.desk.transport.state <;> decide
      simpa [toggle, turned, Nat.even_add_one] using not_congr same
    | false => simpa [toggle] using same
  · exact shown_concat_of_shows reliable run seen nothing

/-- A run keeps what is shown last right but for the play/pauses since. -/
theorem Shown.stages {run : List (Stage M D)} {seen : List Panel}
    (shown : Shown run seen s.desk.transport.state) (ops : List Operation) :
    Shown (run ++ stages cfg ops s) (seen ++ panels (deeds cfg ops s))
      (after cfg ops s).desk.transport.state := by
  induction ops generalizing run seen s with
  | nil => simpa [Session.stages, panels] using shown
  | cons op ops ih =>
    have next := shown.concat reliable op
    have later := ih (reliable_operate reliable op) next
    rw [List.append_assoc, List.append_assoc] at later
    rwa [deeds_cons, panels_append]

/-- From booting on the panel that was shown last says how things stand but for the play/pauses
since. -/
theorem shown_after (ops : List Operation) :
    Shown (stages cfg (.boot :: ops) s) (panels (deeds cfg (.boot :: ops) s))
      (after cfg (.boot :: ops) s).desk.transport.state := by
  have shows : panels (s.operate cfg .boot).deeds ≠ [] := panels_ne_nil reliable (.inl rfl)
  have booted : Shown [⟨s, .boot, s.operate cfg .boot⟩] (panels (s.operate cfg .boot).deeds)
      (s.operate cfg .boot).session.desk.transport.state :=
    shown_concat_of_shows reliable [] [] shows
  have later := booted.stages (reliable_operate reliable .boot) ops
  rwa [deeds_cons, panels_append]

theorem reliable_after (ops : List Operation) : Reliable cfg (after cfg ops s) := by
  induction ops generalizing s with
  | nil => exact reliable
  | cons op ops ih => exact ih (reliable_operate reliable op)

end Shown

/-- A roll takes whatever it is handed. -/
theorem neverFails_roll (roll : StandIn.Roll) : Display.NeverFails roll := fun _ _ _ => rfl

end Session

end HexPlayer
