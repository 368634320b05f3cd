import HexPlayer.Proofs.Session.Trace

/-!
# What is on display

A display shows what it was handed last. `Conveys` says what one operation hands over: the panel
of the desk that it leads to and, last of all, the raster as it leaves it. An operation that hands
nothing over leaves raster, title and lamps alone (`same_of_handed_eq_nil`), so that from booting on
the display is up to date with them.
-/

namespace HexPlayer.Session

/-- All that is handed over has the panel, and what is handed over last has the raster `after`. If
nothing is, this is the raster `before`. -/
structure Conveys (panel : Panel) (before after : Raster) (seen : List (Raster × Panel)) :
    Prop where
  panel : ∀ shown ∈ seen, shown.2 = panel
  raster : (seen.getLast?.map Prod.fst).getD before = after

namespace Conveys

variable {panel : Panel} {before between after : Raster} {seen first second : List (Raster × Panel)}

theorem nil (panel : Panel) (raster : Raster) : Conveys panel raster raster [] := ⟨nofun, rfl⟩

theorem single (panel : Panel) (before after : Raster) :
    Conveys panel before after [(after, panel)] :=
  ⟨fun _ member => List.mem_singleton.mp member ▸ rfl, rfl⟩

theorem append (conveysFirst : Conveys panel before between first)
    (conveysSecond : Conveys panel between after second) :
    Conveys panel before after (first ++ second) where
  panel shown member :=
    (List.mem_append.mp member).elim (conveysFirst.panel shown) (conveysSecond.panel shown)
  raster := by
    rw [← conveysSecond.raster, ← conveysFirst.raster, List.getLast?_append]
    cases second.getLast? <;> rfl

/-- Something that was handed over last has the panel and the raster. -/
theorem getLast?_eq (conveys : Conveys panel before after seen) (nonempty : seen ≠ []) :
    seen.getLast? = some (after, panel) := by
  cases last : seen.getLast? with
  | none => exact absurd (List.getLast?_eq_none_iff.mp last) nonempty
  | some shown =>
    have isPanel := conveys.panel shown (List.mem_of_getLast? last)
    have isRaster := conveys.raster
    rw [last] at isRaster
    rw [← isPanel, ← isRaster]
    rfl

/-- If nothing is handed over, the raster is the one there was. -/
theorem eq_of_nil (conveys : Conveys panel before after []) : after = before := conveys.raster.symm

end Conveys

/-- A step with no act that presents leaves title and lamps alone. -/
theorem Takes.unpresented {cfg : Config} {d : Desk} {step : Step} {decision : Decision}
    (takes : Takes cfg d step decision) (silent : decision.acts.countP Act.presents = 0) :
    decision.desk.selected = d.selected ∧ decision.desk.lamps = d.lamps := by
  cases takes with
  | bootedListed default listed => simp [Act.presents] at silent
  | struck mapped => simp [Act.presents] at silent
  | selected listed => simp [Act.presents] at silent
  | _ => exact ⟨rfl, rfl⟩

/-- The presentations among what is seen of acts. -/
theorem count_presentation_traceOf (acts : List Act) :
    (traceOf acts).count .presentation = acts.countP Act.presents := by
  induction acts with
  | nil => rfl
  | cons act acts ih =>
    cases act <;> simpa [List.countP_cons, Act.presents] using ih

variable {M D : Type} [Machine M] [Display D] {cfg : Config}

section Conveys

variable (cfg) (s : Session M D)

omit [Machine M] in
theorem conveys_present :
    Conveys (s.desk.panel cfg) s.raster (s.present cfg).session.raster
      (handed (s.present cfg).deeds) :=
  .single _ s.raster s.raster

/-- A drawing hands over the raster that it paints. -/
theorem conveys_draw :
    Conveys (s.desk.panel cfg) s.raster (s.draw cfg).session.raster
      (handed (s.draw cfg).deeds) := by
  unfold draw
  dsimp only
  split
  next => exact .nil _ s.raster
  next painted _ =>
    have noStray : handed (.painted (Machine.frame s.machine) :: strayDeeds painted.stray) = [] :=
      view_strayDeeds handed?_of_not_onDevice painted.stray
    rw [Outcome.deeds_andThen, handed_append, noStray, List.nil_append]
    exact .single _ s.raster painted.surface

theorem conveys_perform (act : Act) :
    Conveys (s.desk.panel cfg) s.raster (s.perform cfg act).session.raster
      (handed (s.perform cfg act).deeds) := by
  cases act with
  | call call => exact .nil _ s.raster
  | draw action =>
    cases action with
    | none => exact conveys_draw cfg s
    | some action =>
      have same : handed ((s.draw cfg).recordError (.actionFailed action)).deeds =
          handed (s.draw cfg).deeds := view_recordError handed?_of_not_onDevice _ _
      rw [perform, Outcome.session_recordError, same]
      exact conveys_draw cfg s
  | present => exact conveys_present cfg s
  | record entry => exact .nil _ s.raster

theorem conveys_performAll (acts : List Act) :
    Conveys (s.desk.panel cfg) s.raster (performAll cfg acts s).session.raster
      (handed (performAll cfg acts s).deeds) := by
  induction acts generalizing s with
  | nil => exact .nil _ s.raster
  | cons act acts ih =>
    have later := ih (s.perform cfg act).session
    rw [desk_perform] at later
    rw [performAll, Outcome.session_andThen, Outcome.deeds_andThen, handed_append]
    exact (conveys_perform cfg s act).append later

/-- A step hands over the panel of the desk that it decides on. -/
theorem conveys_step (step : Step) :
    Conveys ((s.operate cfg step.operation).session.desk.panel cfg) s.raster
      (s.operate cfg step.operation).session.raster
      (handed (s.operate cfg step.operation).deeds) := by
  rw [operate_operation, desk_follow]
  exact conveys_performAll cfg { s with desk := (s.desk.take cfg step).desk } _

/-- Quiet acts hand nothing over. -/
theorem handed_performAll_of_isQuiet {acts : List Act}
    (quiet : ∀ act ∈ acts, act.isQuiet = true) :
    handed (performAll cfg acts s).deeds = [] := by
  induction acts generalizing s with
  | nil => rfl
  | cons act acts ih =>
    have first := quiet act List.mem_cons_self
    have nothing : handed (s.perform cfg act).deeds = [] := by
      cases act with
      | call call => rfl
      | draw action => cases first
      | present => cases first
      | record entry => rfl
    rw [performAll, Outcome.deeds_andThen, handed_append, nothing, List.nil_append]
    exact ih _ fun other member => quiet other (List.mem_cons_of_mem _ member)

/-- Steps that serve hand nothing over and leave the raster alone. -/
theorem handed_serving {steps : List Step} (serve : ∀ step ∈ steps, step.serves = true) :
    handed (deeds cfg (steps.map Step.operation) s) = [] ∧
      (after cfg (steps.map Step.operation) s).raster = s.raster := by
  induction steps generalizing s with
  | nil => exact ⟨rfl, rfl⟩
  | cons step rest ih =>
    have quiet := (takes_take cfg s.desk step).isQuiet (serve step List.mem_cons_self)
    have nothing : handed (s.operate cfg step.operation).deeds = [] := by
      rw [operate_operation]
      exact handed_performAll_of_isQuiet cfg _ quiet
    have conveys := conveys_step cfg s step
    rw [nothing] at conveys
    obtain ⟨later, raster⟩ := ih (s.operate cfg step.operation).session fun other member =>
      serve other (List.mem_cons_of_mem _ member)
    rw [List.map_cons, deeds_cons, handed_append, nothing, later, after_cons, raster]
    exact ⟨rfl, conveys.eq_of_nil⟩

/-- Serving the whole outbox hands nothing over and leaves the raster alone. -/
theorem handed_serveAll (source : Cartridge.Source) :
    handed (s.operate cfg (.serveAll source)).deeds = [] ∧
      (s.operate cfg (.serveAll source)).session.raster = s.raster := by
  obtain ⟨session, done⟩ := operate_eq_steps cfg s (.serveAll source)
  have serve : ∀ step ∈ (Operation.serveAll source).steps s.desk, step.serves = true :=
    fun _ => serves_of_mem_steps
  obtain ⟨nothing, raster⟩ := handed_serving cfg s serve
  unfold handed at nothing ⊢
  rw [← view_deviceDeeds handed?_of_not_onDevice] at nothing ⊢
  exact ⟨done ▸ nothing, session ▸ raster⟩

/-- An operation hands over the panel of the desk that it leads to and, last of all, the raster that
it leads to. -/
theorem conveys_operate (op : Operation) :
    Conveys ((s.operate cfg op).session.desk.panel cfg) s.raster
      (s.operate cfg op).session.raster (handed (s.operate cfg op).deeds) := by
  rcases operation_eq op with ⟨step, rfl⟩ | ⟨source, rfl⟩
  · exact conveys_step cfg s step
  · obtain ⟨nothing, raster⟩ := handed_serveAll cfg s source
    rw [nothing, raster]
    exact .nil _ _

end Conveys

/-- What was handed over last has the raster, the title and the lamps of the session. -/
def Current (seen : List (Raster × Panel)) (s : Session M D) : Prop :=
  ∃ panel, seen.getLast? = some (s.raster, panel) ∧
    panel.title = s.desk.selected ∧ panel.lamps = s.desk.lamps

section Current

variable {s : Session M D} (fits : Machine.Fits cfg.painter s.machine)
include fits

/-- On a machine whose frames fit, each act that presents hands something over. -/
theorem length_handed_step (step : Step) :
    (handed (s.operate cfg step.operation).deeds).length =
      (s.desk.take cfg step).acts.countP Act.presents := by
  have seen : trace (s.operate cfg step.operation).deeds =
      traceOf (s.desk.take cfg step).acts := by
    rw [operate_operation, ← traceOn_of_fits fits]
    exact view_performAll Deed.sight? (traceOn cfg.painter) (fun _ => rfl)
      (traceOn_append cfg.painter) (trace_perform cfg) _ _
  rw [length_handed, seen, count_presentation_traceOf]

/-- An operation that hands nothing over leaves title and lamps alone. -/
theorem same_of_handed_eq_nil {op : Operation} (nothing : handed (s.operate cfg op).deeds = []) :
    (s.operate cfg op).session.desk.selected = s.desk.selected ∧
      (s.operate cfg op).session.desk.lamps = s.desk.lamps := by
  rcases operation_eq op with ⟨step, rfl⟩ | ⟨source, rfl⟩
  · have silent := length_handed_step fits step
    rw [nothing, List.length_nil] at silent
    rw [operate_operation, desk_follow]
    exact (takes_take cfg s.desk step).unpresented silent.symm
  · have same := sameFront_serveAll cfg source s
    exact ⟨same.selected, same.lamps⟩

/-- Booting and the selection of a listed title each hand something over. -/
theorem handed_ne_nil {op : Operation} (changes : op = .boot ∨ op.isSwap = true) :
    handed (s.operate cfg op).deeds ≠ [] := by
  rcases operation_eq op with ⟨step, rfl⟩ | ⟨source, rfl⟩
  · have isChange : step = .boot ∨ step.operation.isSwap = true ∨
        step = .handle .refresh ∧ s.desk.transport.state = .running := by
      refine changes.imp (fun boots => ?_) .inl
      cases step <;> first | rfl | cases boots
    have presents := (takes_take cfg s.desk step).presents isChange
    rw [← length_handed_step fits step] at presents
    exact List.ne_nil_of_length_pos presents
  · rcases changes with boots | swaps
    · cases boots
    · cases swaps

omit fits in
/-- An operation that hands something over brings the display up to date. -/
theorem current_of_handed_ne_nil (seen : List (Raster × Panel)) {op : Operation}
    (something : handed (s.operate cfg op).deeds ≠ []) :
    Current (seen ++ handed (s.operate cfg op).deeds) (s.operate cfg op).session := by
  have last := (conveys_operate cfg s op).getLast?_eq something
  exact ⟨_, by rw [List.getLast?_append, last, Option.some_or], rfl, rfl⟩

/-- An operation keeps the display up to date. -/
theorem Current.operate {seen : List (Raster × Panel)} (current : Current seen s)
    (op : Operation) :
    Current (seen ++ handed (s.operate cfg op).deeds) (s.operate cfg op).session := by
  by_cases nothing : handed (s.operate cfg op).deeds = []
  · obtain ⟨panel, last, title, lamps⟩ := current
    obtain ⟨sameTitle, sameLamps⟩ := same_of_handed_eq_nil fits nothing
    have conveys := conveys_operate cfg s op
    rw [nothing] at conveys
    rw [nothing, List.append_nil]
    exact ⟨panel, conveys.eq_of_nil ▸ last, title.trans sameTitle.symm, lamps.trans sameLamps.symm⟩
  · exact current_of_handed_ne_nil seen nothing

/-- A run keeps the display up to date. -/
theorem Current.after {seen : List (Raster × Panel)} (current : Current seen s)
    (ops : List Operation) :
    Current (seen ++ handed (deeds cfg ops s)) (Session.after cfg ops s) := by
  induction ops generalizing seen s with
  | nil => simpa [handed] using current
  | cons op ops ih =>
    have later := ih (fits_after fits [op]) (current.operate fits op)
    rwa [List.append_assoc, ← handed_append] at later

end Current

/-- From booting on, on a machine whose frames fit, what was handed to the display last has the
raster, the title and the lamps of the session. Every panel has the run state that its operation
leads to; the selection of a title shows the session stopped. All of it reaches the display, which
answers what is recorded. -/
theorem display_is_current (cfg : Config) {machine : M} (display : D)
    (fits : Machine.Fits cfg.painter machine) (ops : List Operation) :
    let s := fresh cfg machine display
    let done := deeds cfg (.boot :: ops) s
    let reached := after cfg (.boot :: ops) s
    Current (handed done) reached ∧
    reached.display = Display.afterPresents (handed done) display ∧
    answers done = Display.answersTo (handed done) display ∧
    ∀ stage ∈ stages cfg (.boot :: ops) s,
      (∀ shown ∈ handed stage.outcome.deeds,
        shown.2.state = stage.outcome.session.desk.transport.state) ∧
      stage.outcome.session.display =
        Display.afterPresents (handed stage.outcome.deeds) stage.before.display ∧
      (stage.operation.isSwap = true → handed stage.outcome.deeds ≠ [] ∧
        ∀ shown ∈ handed stage.outcome.deeds, shown.2.state = .stopped) := by
  intro s done reached
  have booted : Current (handed (s.operate cfg .boot).deeds) (s.operate cfg .boot).session :=
    current_of_handed_ne_nil [] (handed_ne_nil fits (.inl rfl))
  obtain ⟨isShown, isAnswered⟩ := display_after cfg (.boot :: ops) s
  refine ⟨?_, isShown, isAnswered, fun stage member => ?_⟩
  · have current := booted.after (fits_after (s := s) fits [.boot]) ops
    rwa [← handed_append] at current
  · have effects := effects_of_mem_stages member
    obtain ⟨before, op, rest, -, rfl⟩ := exists_of_mem_stages member
    have conveys := conveys_operate cfg (after cfg before s) op
    have states (shown) (isShown : shown ∈ handed ((after cfg before s).operate cfg op).deeds) :
        shown.2.state = ((after cfg before s).operate cfg op).session.desk.transport.state :=
      congrArg Panel.state (conveys.panel shown isShown)
    refine ⟨states, effects.display, fun swap => ?_⟩
    have stopped : ((after cfg before s).operate cfg op).session.desk.transport.state =
        .stopped := by
      rw [transport_operate, state_turn, if_pos swap]
    have reached : Machine.Fits cfg.painter (after cfg before s).machine :=
      fits_after (s := s) fits before
    exact ⟨handed_ne_nil reached (.inr swap), fun shown isShown =>
      (states shown isShown).trans stopped⟩

/-- A title is selected while the session runs and a key is held, and its program is loaded. A roll
has on record what was shown meanwhile. -/
theorem current_after_selection :
    let cfg : Config := { resolution := ⟨2, 1⟩, pixelSize := 1 }
    let machine : StandIn.Scripted := ⟨#[0, 0], [#[1, 0]]⟩
    let s := fresh cfg machine ({} : StandIn.Roll)
    let ops : List Operation := [.handle .playPause, .handle .refresh,
      .handle (.key 'q' .pressed), .handle (.select "UFO"),
      .serveAll (.ofPrograms [("UFO", #[8])])]
    let reached := after cfg (.boot :: ops) s
    let seen := handed (deeds cfg (.boot :: ops) s)
    Machine.Fits cfg.painter machine ∧ Current seen reached ∧
      reached.display = Display.afterPresents seen {} ∧ reached.display.seen = seen ∧
      reached.display.seen.map (fun shown => (shown.2.title, shown.2.state)) =
        [(some "PONG", .stopped), (some "PONG", .running), (some "PONG", .running),
          (some "UFO", .stopped)] := by
  intro cfg machine s ops reached seen
  have fits : Machine.Fits cfg.painter machine := (steady_scripted (by decide)).size
  obtain ⟨current, isShown, -⟩ := display_is_current cfg ({} : StandIn.Roll) fits ops
  exact ⟨fits, current, isShown, seen_after cfg (.boot :: ops) s, by decide +kernel⟩

end HexPlayer.Session
