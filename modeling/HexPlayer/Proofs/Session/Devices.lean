import HexPlayer.Proofs.Picture.Painting
import HexPlayer.Proofs.Session.Steps

/-!
# What acts do to the devices

The desk decides on acts without a look at the devices. The machine gets the calls among the acts,
and the raster is repainted with the frame that the machine shows at each drawing. For a run,
`calls_deeds` and `raster_after` say so of the acts that its steps decide on; the display has no
part in either of them.

That something is among the deeds of a session does not yet say that it reached a device. `Effects`
says so: `machine_after` and `display_after` lead from the devices before a run to those after it by
the calls that were made and the panels that were handed over.
-/

namespace HexPlayer

/-- A machine after calls. -/
def Machine.afterCalls {M : Type} [Machine M] (calls : List Call) (m : M) : M :=
  calls.foldl (fun m call => Machine.call call m) m

@[simp]
theorem Machine.afterCalls_nil {M : Type} [Machine M] (m : M) : afterCalls [] m = m := rfl

@[simp]
theorem Machine.afterCalls_cons {M : Type} [Machine M] (call : Call) (calls : List Call) (m : M) :
    afterCalls (call :: calls) m = afterCalls calls (Machine.call call m) := rfl

theorem Machine.afterCalls_append {M : Type} [Machine M] (first second : List Call) (m : M) :
    afterCalls (first ++ second) m = afterCalls second (afterCalls first m) :=
  List.foldl_append

/-- A display after it was handed rasters and panels. -/
def Display.afterPresents {D : Type} [Display D] (shown : List (Raster × Panel)) (d : D) : D :=
  shown.foldl (fun d shown => (present shown.1 shown.2 d).1) d

theorem Display.afterPresents_append {D : Type} [Display D] (first second : List (Raster × Panel))
    (d : D) : afterPresents (first ++ second) d = afterPresents second (afterPresents first d) :=
  List.foldl_append

/-- What a display answers to rasters and panels: for each of them the cause if it fails then. -/
def Display.answersTo {D : Type} [Display D] : List (Raster × Panel) → D → List (Option String)
  | [], _ => []
  | shown :: rest, d =>
    (present shown.1 shown.2 d).2 :: answersTo rest (present shown.1 shown.2 d).1

/-- A display answers as what it was handed before has left it. -/
theorem Display.answersTo_append {D : Type} [Display D] (first second : List (Raster × Panel))
    (d : D) : answersTo (first ++ second) d =
      answersTo first d ++ answersTo second (afterPresents first d) := by
  induction first generalizing d with
  | nil => rfl
  | cons shown rest ih => exact congrArg _ (ih _)

/-- The program that a call loads, if it loads one. -/
def Call.program? : Call → Option Cartridge.Program
  | .load program => some program
  | .reset | .tick | .press _ | .release _ => none

namespace Session

/-- The call on the machine, if the deed is one. -/
def Deed.call? : Deed → Option Call
  | .call made => some made
  | .painted _ | .presented .. | .asked _ | .recorded _ => none

/-- The calls that were made on the machine. -/
def calls (deeds : List Deed) : List Call := deeds.filterMap Deed.call?

/-- What the display was handed, if the deed is a presentation, whether or not it failed. -/
def Deed.handed? : Deed → Option (Raster × Panel)
  | .presented raster panel _ => some (raster, panel)
  | .call _ | .painted _ | .asked _ | .recorded _ => none

/-- The rasters and panels that the display was handed. -/
def handed (deeds : List Deed) : List (Raster × Panel) := deeds.filterMap Deed.handed?

/-- The answer of the display, if the deed is a presentation. -/
def Deed.answer? : Deed → Option (Option String)
  | .presented _ _ cause => some cause
  | .call _ | .painted _ | .asked _ | .recorded _ => none

/-- What the display answered, presentation by presentation. -/
def answers (deeds : List Deed) : List (Option String) := deeds.filterMap Deed.answer?

/-- The call on the machine, if the act is one. -/
def Act.call? : Act → Option Call
  | .call made => some made
  | .draw _ | .present | .record _ => none

/-- The calls on the machine among acts. -/
def callsOf (acts : List Act) : List Call := acts.filterMap Act.call?

/-- The programs that were loaded into the machine. -/
def loads (deeds : List Deed) : List Cartridge.Program := (calls deeds).filterMap Call.program?

/-- The programs to be loaded among acts. -/
def loadsOf (acts : List Act) : List Cartridge.Program := (callsOf acts).filterMap Call.program?

/-- The frames that the drawings among acts read from a machine, each as it stands at its
drawing. -/
def framesDrawn {M : Type} [Machine M] : List Act → M → List Frame
  | [], _ => []
  | .call call :: acts, m => framesDrawn acts (Machine.call call m)
  | .draw _ :: acts, m => Machine.frame m :: framesDrawn acts m
  | .present :: acts, m => framesDrawn acts m
  | .record _ :: acts, m => framesDrawn acts m

/-- The acts that the desk decides on in a run. -/
def Desk.actsOfRun (cfg : Config) (ops : List Operation) (d : Desk) : List Act :=
  d.acts cfg (unroll cfg ops d)

@[simp]
theorem calls_append (first second : List Deed) :
    calls (first ++ second) = calls first ++ calls second :=
  List.filterMap_append ..

@[simp]
theorem handed_append (first second : List Deed) :
    handed (first ++ second) = handed first ++ handed second :=
  List.filterMap_append ..

@[simp]
theorem answers_append (first second : List Deed) :
    answers (first ++ second) = answers first ++ answers second :=
  List.filterMap_append ..

@[simp]
theorem callsOf_nil : callsOf [] = [] := rfl

@[simp]
theorem callsOf_call (call : Call) (acts : List Act) :
    callsOf (.call call :: acts) = call :: callsOf acts := rfl

@[simp]
theorem callsOf_draw (action : Option Action) (acts : List Act) :
    callsOf (.draw action :: acts) = callsOf acts := rfl

@[simp]
theorem callsOf_present (acts : List Act) : callsOf (.present :: acts) = callsOf acts := rfl

@[simp]
theorem callsOf_record (entry : Journal.Entry) (acts : List Act) :
    callsOf (.record entry :: acts) = callsOf acts := rfl

@[simp]
theorem callsOf_append (first second : List Act) :
    callsOf (first ++ second) = callsOf first ++ callsOf second :=
  List.filterMap_append ..

theorem Desk.actsOfRun_append (cfg : Config) (first second : List Operation) (d : Desk) :
    d.actsOfRun cfg (first ++ second) =
      d.actsOfRun cfg first ++ (d.walk cfg (unroll cfg first d)).actsOfRun cfg second := by
  simp only [actsOfRun, unroll_append, acts_append]

section

variable {M : Type} [Machine M]

/-- Drawings read the machine as the acts before them leave it. -/
theorem framesDrawn_append (first second : List Act) (m : M) :
    framesDrawn (first ++ second) m =
      framesDrawn first m ++ framesDrawn second (Machine.afterCalls (callsOf first) m) := by
  induction first generalizing m with
  | nil => rfl
  | cons act acts ih =>
    cases act <;> simp [framesDrawn, ih]

end

/-- A failure in the journal is no matter of the devices. -/
theorem deviceDeeds_recordError {M D : Type} (entry : Error → Journal.Entry) (o : Outcome M D) :
    deviceDeeds (o.recordError entry).deeds = deviceDeeds o.deeds := by
  unfold Outcome.recordError
  split
  · rfl
  · simp [deviceDeeds, Deed.isOnDevice]

/-- Nor are bytes that are neither zero nor one. -/
theorem deviceDeeds_strayDeeds (count : Nat) : deviceDeeds (strayDeeds count) = [] := by
  unfold strayDeeds
  split <;> rfl

section View

variable {M D α : Type} {view : Deed → Option α}
  (onDevice : ∀ deed, deed.isOnDevice = false → view deed = none)
include onDevice

/-- The deeds that are not on a device can be left out of a view of the devices. -/
theorem view_deviceDeeds (deeds : List Deed) :
    (deviceDeeds deeds).filterMap view = deeds.filterMap view := by
  induction deeds with
  | nil => rfl
  | cons deed deeds ih =>
    rw [deviceDeeds, List.filter_cons, List.filterMap_cons]
    split
    next isOnDevice => rw [List.filterMap_cons, ← ih, deviceDeeds]
    next offDevice => rw [onDevice deed (Bool.eq_false_iff.mpr offDevice), ← ih, deviceDeeds]

theorem view_recordError (entry : Error → Journal.Entry) (o : Outcome M D) :
    (o.recordError entry).deeds.filterMap view = o.deeds.filterMap view := by
  rw [← view_deviceDeeds onDevice, deviceDeeds_recordError, view_deviceDeeds onDevice]

theorem view_strayDeeds (count : Nat) : (strayDeeds count).filterMap view = [] := by
  rw [← view_deviceDeeds onDevice, deviceDeeds_strayDeeds, List.filterMap_nil]

end View

theorem call?_of_not_onDevice (deed : Deed) (off : deed.isOnDevice = false) :
    deed.call? = none := by
  cases deed <;> first | rfl | cases off

theorem handed?_of_not_onDevice (deed : Deed) (off : deed.isOnDevice = false) :
    deed.handed? = none := by
  cases deed <;> first | rfl | cases off

theorem answer?_of_not_onDevice (deed : Deed) (off : deed.isOnDevice = false) :
    deed.answer? = none := by
  cases deed <;> first | rfl | cases off

/-- Only on the devices were calls made. -/
theorem calls_deviceDeeds (deeds : List Deed) : calls (deviceDeeds deeds) = calls deeds :=
  view_deviceDeeds call?_of_not_onDevice deeds

/-- Only on the devices was anything handed over. -/
theorem handed_deviceDeeds (deeds : List Deed) : handed (deviceDeeds deeds) = handed deeds :=
  view_deviceDeeds handed?_of_not_onDevice deeds

/-- Only what was done on the devices was answered. -/
theorem answers_deviceDeeds (deeds : List Deed) : answers (deviceDeeds deeds) = answers deeds :=
  view_deviceDeeds answer?_of_not_onDevice deeds

variable {M D : Type} [Machine M] [Display D]

theorem machine_draw (cfg : Config) (s : Session M D) :
    (s.draw cfg).session.machine = s.machine := by
  unfold draw
  dsimp only
  split <;> rfl

/-- Drawing repaints the raster with the machine's frame, whether or not the display fails. -/
theorem raster_draw (cfg : Config) (s : Session M D) :
    (s.draw cfg).session.raster = cfg.painter.repaint s.raster (Machine.frame s.machine) := by
  unfold draw Painter.repaint
  dsimp only
  cases cfg.painter.render (Machine.frame s.machine) s.raster <;> rfl

theorem machine_perform (cfg : Config) (s : Session M D) (act : Act) :
    (s.perform cfg act).session.machine = Machine.afterCalls (callsOf [act]) s.machine := by
  cases act with
  | call call => rfl
  | draw action =>
    cases action with
    | none => exact machine_draw cfg s
    | some action =>
      rw [perform, Outcome.session_recordError]
      exact machine_draw cfg s
  | present => rfl
  | record entry => rfl

theorem raster_perform (cfg : Config) (s : Session M D) (act : Act) :
    (s.perform cfg act).session.raster =
      (framesDrawn [act] s.machine).foldl cfg.painter.repaint s.raster := by
  cases act with
  | call call => rfl
  | draw action =>
    cases action with
    | none => exact raster_draw cfg s
    | some action =>
      rw [perform, Outcome.session_recordError]
      exact raster_draw cfg s
  | present => rfl
  | record entry => rfl

/-- The machine gets the calls among the acts. -/
theorem machine_performAll (cfg : Config) (acts : List Act) (s : Session M D) :
    (performAll cfg acts s).session.machine = Machine.afterCalls (callsOf acts) s.machine := by
  induction acts generalizing s with
  | nil => rfl
  | cons act acts ih =>
    rw [performAll, Outcome.session_andThen, ih, machine_perform, ← Machine.afterCalls_append,
      ← callsOf_append, List.singleton_append]

/-- The raster is repainted with the frame of each drawing. -/
theorem raster_performAll (cfg : Config) (acts : List Act) (s : Session M D) :
    (performAll cfg acts s).session.raster =
      (framesDrawn acts s.machine).foldl cfg.painter.repaint s.raster := by
  induction acts generalizing s with
  | nil => rfl
  | cons act acts ih =>
    rw [performAll, Outcome.session_andThen, ih, machine_perform, raster_perform,
      ← List.foldl_append, ← framesDrawn_append, List.singleton_append]

theorem machine_after_steps (cfg : Config) (steps : List Step) (s : Session M D) :
    (after cfg (steps.map Step.operation) s).machine =
      Machine.afterCalls (callsOf (s.desk.acts cfg steps)) s.machine := by
  induction steps generalizing s with
  | nil => rfl
  | cons step rest ih =>
    have first : (s.operate cfg step.operation).session.machine =
        Machine.afterCalls (callsOf (s.desk.take cfg step).acts) s.machine := by
      rw [operate_operation]
      exact machine_performAll cfg _ _
    rw [List.map_cons, after_cons, ih, first, operate_operation, desk_follow, Desk.acts,
      callsOf_append, Machine.afterCalls_append]

theorem raster_after_steps (cfg : Config) (steps : List Step) (s : Session M D) :
    (after cfg (steps.map Step.operation) s).raster =
      (framesDrawn (s.desk.acts cfg steps) s.machine).foldl cfg.painter.repaint s.raster := by
  induction steps generalizing s with
  | nil => rfl
  | cons step rest ih =>
    have machine := machine_after_steps cfg [step] s
    have raster : (s.operate cfg step.operation).session.raster =
        (framesDrawn (s.desk.take cfg step).acts s.machine).foldl cfg.painter.repaint s.raster := by
      rw [operate_operation]
      exact raster_performAll cfg _ _
    simp only [List.map_cons, List.map_nil, after_cons, after_nil, Desk.acts,
      List.append_nil] at machine
    rw [List.map_cons, after_cons, ih, raster, machine, operate_operation, desk_follow, Desk.acts,
      framesDrawn_append, List.foldl_append]

/-- The raster after a run was repainted with the frame of each drawing. -/
theorem raster_after (cfg : Config) (ops : List Operation) (s : Session M D) :
    (after cfg ops s).raster =
      (framesDrawn (s.desk.actsOfRun cfg ops) s.machine).foldl cfg.painter.repaint s.raster := by
  rw [← after_unroll, raster_after_steps, Desk.actsOfRun]

section View

variable {α : Type} (view : Deed → Option α) (look : List Act → M → List α) {cfg : Config}
variable (nothing : ∀ m, look [] m = [])
  (append : ∀ first second m, look (first ++ second) m =
    look first m ++ look second (Machine.afterCalls (callsOf first) m))
  (single : ∀ act (s : Session M D),
    (s.perform cfg act).deeds.filterMap view = look [act] s.machine)
include nothing append single

/-- What is seen of single acts is seen of all. -/
theorem view_performAll (acts : List Act) (s : Session M D) :
    (performAll cfg acts s).deeds.filterMap view = look acts s.machine := by
  induction acts generalizing s with
  | nil => exact (nothing s.machine).symm
  | cons act acts ih =>
    rw [performAll, Outcome.deeds_andThen, List.filterMap_append, single, ih, machine_perform,
      ← append, List.singleton_append]

theorem view_deeds_steps (steps : List Step) (s : Session M D) :
    (deeds cfg (steps.map Step.operation) s).filterMap view =
      look (s.desk.acts cfg steps) s.machine := by
  induction steps generalizing s with
  | nil => exact (nothing s.machine).symm
  | cons step rest ih =>
    have machine := machine_after_steps cfg [step] s
    have first : (s.operate cfg step.operation).deeds.filterMap view =
        look (s.desk.take cfg step).acts s.machine := by
      rw [operate_operation]
      exact view_performAll view look nothing append single _ _
    simp only [List.map_cons, List.map_nil, after_cons, after_nil, Desk.acts,
      List.append_nil] at machine
    rw [List.map_cons, deeds_cons, List.filterMap_append, ih, first, machine, operate_operation,
      desk_follow, Desk.acts, append]

/-- What is seen of acts is seen of a run, whose acts the desk decides on. -/
theorem view_deeds (onDevice : ∀ deed, deed.isOnDevice = false → view deed = none)
    (ops : List Operation) (s : Session M D) :
    (deeds cfg ops s).filterMap view = look (s.desk.actsOfRun cfg ops) s.machine := by
  rw [← view_deviceDeeds onDevice, ← deviceDeeds_unroll, view_deviceDeeds onDevice,
    view_deeds_steps view look nothing append single, Desk.actsOfRun]

end View

theorem calls_perform (cfg : Config) (act : Act) (s : Session M D) :
    calls (s.perform cfg act).deeds = callsOf [act] := by
  have drawing : calls (s.draw cfg).deeds = [] := by
    unfold draw
    dsimp only
    split
    · rfl
    · rw [Outcome.deeds_andThen, calls_append]
      exact congrArg (· ++ []) (view_strayDeeds call?_of_not_onDevice _)
  cases act with
  | call call => rfl
  | draw action =>
    cases action with
    | none => exact drawing
    | some action => exact (view_recordError call?_of_not_onDevice _ _).trans drawing
  | present => rfl
  | record entry => rfl

theorem calls_performAll (cfg : Config) (acts : List Act) (s : Session M D) :
    calls (performAll cfg acts s).deeds = callsOf acts :=
  view_performAll Deed.call? (fun acts _ => callsOf acts) (fun _ => rfl)
    (fun first second _ => callsOf_append first second) (calls_perform cfg) acts s

/-- The calls of a run are those among the acts that the desk decides on. -/
theorem calls_deeds (cfg : Config) (ops : List Operation) (s : Session M D) :
    calls (deeds cfg ops s) = callsOf (s.desk.actsOfRun cfg ops) :=
  view_deeds Deed.call? (fun acts _ => callsOf acts) (fun _ => rfl)
    (fun first second _ => callsOf_append first second) (calls_perform cfg) call?_of_not_onDevice
    ops s

/-- The calls of a run are those of its single steps, one after the other. -/
theorem calls_singleStages (cfg : Config) (ops : List Operation) (s : Session M D) :
    calls (deeds cfg ops s) =
      (singleStages cfg ops s).flatMap fun stage => calls stage.outcome.deeds := by
  rw [calls, ← view_deviceDeeds call?_of_not_onDevice, ← deviceDeeds_unroll,
    view_deviceDeeds call?_of_not_onDevice]
  exact List.filterMap_flatMap ..

/-- The deeds took machine and display from where the one session has them to where the other has
them: the machine got the calls, the display was handed the presentations one after the other, and
what is recorded of these is what it answered. -/
structure Effects (s : Session M D) (done : List Deed) (t : Session M D) : Prop where
  machine : t.machine = Machine.afterCalls (calls done) s.machine
  display : t.display = Display.afterPresents (handed done) s.display
  answered : answers done = Display.answersTo (handed done) s.display

namespace Effects

variable {s t u : Session M D} {first second done : List Deed}

theorem refl (s : Session M D) : Effects s [] s := ⟨rfl, rfl, rfl⟩

theorem append (effectsFirst : Effects s first t) (effectsSecond : Effects t second u) :
    Effects s (first ++ second) u where
  machine := by
    rw [effectsSecond.machine, effectsFirst.machine, calls_append, Machine.afterCalls_append]
  display := by
    rw [effectsSecond.display, effectsFirst.display, handed_append, Display.afterPresents_append]
  answered := by
    rw [answers_append, effectsFirst.answered, effectsSecond.answered, effectsFirst.display,
      handed_append, Display.answersTo_append]

/-- Questions to the source and entries of the journal are without effect. -/
theorem of_deviceDeeds_eq (effects : Effects s first t)
    (same : deviceDeeds second = deviceDeeds first) : Effects s second t where
  machine := by
    rw [effects.machine, ← calls_deviceDeeds, ← same, calls_deviceDeeds]
  display := by
    rw [effects.display, ← handed_deviceDeeds, ← same, handed_deviceDeeds]
  answered := by
    rw [← answers_deviceDeeds, same, answers_deviceDeeds, effects.answered, ← handed_deviceDeeds,
      ← same, handed_deviceDeeds]

end Effects

section Effects

variable (cfg : Config)

theorem effects_present (s : Session M D) :
    Effects s (s.present cfg).deeds (s.present cfg).session := ⟨rfl, rfl, rfl⟩

theorem effects_draw (s : Session M D) : Effects s (s.draw cfg).deeds (s.draw cfg).session := by
  unfold draw
  dsimp only
  split
  next => exact .refl s
  next painted _ =>
    have painting : Effects s (.painted (Machine.frame s.machine) :: strayDeeds painted.stray)
        { s with raster := painted.surface } := by
      unfold strayDeeds
      split <;> exact ⟨rfl, rfl, rfl⟩
    exact painting.append (effects_present cfg _)

theorem effects_perform (s : Session M D) (act : Act) :
    Effects s (s.perform cfg act).deeds (s.perform cfg act).session := by
  cases act with
  | call call => exact ⟨rfl, rfl, rfl⟩
  | draw action =>
    cases action with
    | none => exact effects_draw cfg s
    | some action =>
      rw [perform, Outcome.session_recordError]
      exact (effects_draw cfg s).of_deviceDeeds_eq (deviceDeeds_recordError _ _)
  | present => exact effects_present cfg s
  | record entry => exact ⟨rfl, rfl, rfl⟩

theorem effects_performAll (acts : List Act) (s : Session M D) :
    Effects s (performAll cfg acts s).deeds (performAll cfg acts s).session := by
  induction acts generalizing s with
  | nil => exact .refl s
  | cons act acts ih => exact (effects_perform cfg s act).append (ih _)

theorem effects_steps (steps : List Step) (s : Session M D) :
    Effects s (deeds cfg (steps.map Step.operation) s)
      (after cfg (steps.map Step.operation) s) := by
  induction steps generalizing s with
  | nil => exact .refl s
  | cons step rest ih =>
    have first : Effects s (s.operate cfg step.operation).deeds
        (s.operate cfg step.operation).session := by
      rw [operate_operation]
      -- the desk moves on before the acts are carried out, and the devices stay where they are
      obtain ⟨machine, display, answered⟩ := effects_performAll cfg (s.desk.take cfg step).acts
        { s with desk := (s.desk.take cfg step).desk }
      exact ⟨machine, display, answered⟩
    exact first.append (ih _)

/-- The deeds of an operation are its effects. -/
theorem effects_operate (s : Session M D) (op : Operation) :
    Effects s (s.operate cfg op).deeds (s.operate cfg op).session := by
  obtain ⟨session, done⟩ := operate_eq_steps cfg s op
  rw [session]
  exact (effects_steps cfg _ s).of_deviceDeeds_eq done

/-- The deeds of a run are its effects. -/
theorem effects_after (ops : List Operation) (s : Session M D) :
    Effects s (deeds cfg ops s) (after cfg ops s) := by
  induction ops generalizing s with
  | nil => exact .refl s
  | cons op ops ih => exact (effects_operate cfg s op).append (ih _)

/-- So are those of each of its stages. -/
theorem effects_of_mem_stages {cfg : Config} {ops : List Operation} {s : Session M D}
    {stage : Stage M D} (member : stage ∈ stages cfg ops s) :
    Effects stage.before stage.outcome.deeds stage.outcome.session := by
  obtain ⟨before, op, rest, -, rfl⟩ := exists_of_mem_stages member
  exact effects_operate cfg _ op

/-- The machine after a run is the one before it after the calls of the run. -/
theorem machine_after (ops : List Operation) (s : Session M D) :
    (after cfg ops s).machine = Machine.afterCalls (calls (deeds cfg ops s)) s.machine :=
  (effects_after cfg ops s).machine

/-- The display after a run is the one before it after it was handed what the run presents, and each
cause that is recorded is what it answered. -/
theorem display_after (ops : List Operation) (s : Session M D) :
    (after cfg ops s).display = Display.afterPresents (handed (deeds cfg ops s)) s.display ∧
      answers (deeds cfg ops s) = Display.answersTo (handed (deeds cfg ops s)) s.display :=
  ⟨(effects_after cfg ops s).display, (effects_after cfg ops s).answered⟩

end Effects

end Session

end HexPlayer
