import HexPlayer.Proofs.Session.Presenting
import HexPlayer.Proofs.Session.Requests
import HexPlayer.Proofs.Session.Selections

/-!
# The selected title and the one on show

Every panel shows the title that is selected when it is presented. A selection that cannot be
presented leaves the old panel up; but for that, the title on show is the selected one
(`title_of_shown`). A title that is not on offer is refused at booting and at its selection, and
nowhere else (`unknown_operate`).
-/

namespace HexPlayer.Session

open Cartridge (Source)

/-- A title is refused as unknown at booting, or at its selection because it is not listed. -/
theorem Takes.of_unknown {cfg : Config} {d : Desk} {step : Step} {decision : Decision}
    (takes : Takes cfg d step decision) {title : String}
    (refused : decision.refusal = some (.unknownTitle title)) :
    step = .boot ∨ step = .handle (.select title) ∧ Catalog.isListed title = false := by
  cases takes with
  | bootedUnlisted default unlisted nonempty => exact .inl rfl
  | selectedUnlisted nonempty unlisted =>
    obtain rfl := Error.unknownTitle.inj (Option.some.inj refused)
    exact .inr ⟨rfl, unlisted⟩
  | failed awaited => cases Option.some.inj refused
  | tooLarge awaited exceeds => cases Option.some.inj refused
  | _ => cases refused

variable {M D : Type}

/-- The title that was selected before, and the one that the stage selects, if it selects one. -/
def Stage.choice? (stage : Stage M D) : Option (Option String × String) :=
  match stage.operation with
  | .handle (.select title) => some (stage.before.desk.selected, title)
  | _ => none

theorem fst_of_choice? {stage : Stage M D} {choice : Option String × String}
    (chooses : stage.choice? = some choice) : choice.1 = stage.before.desk.selected := by
  unfold Stage.choice? at chooses
  split at chooses
  next => exact Option.some.inj chooses ▸ rfl
  next => cases chooses

variable [Machine M] [Display D]

/-- No act is refused for its title. -/
theorem error_perform_ne_unknown (cfg : Config) (act : Act) (s : Session M D) (title : String) :
    (s.perform cfg act).error ≠ some (.unknownTitle title) := by
  have presented (s : Session M D) : (s.present cfg).error ≠ some (.unknownTitle title) := by
    simp [present]
  have drawn : (s.draw cfg).error ≠ some (.unknownTitle title) := by
    unfold draw
    dsimp only
    split
    next => simp
    next => exact presented _
  cases act with
  | call call => simp [perform]
  | draw action =>
    cases action with
    | none => exact drawn
    | some action => rwa [perform, Outcome.error_recordError]
  | present => exact presented s
  | record entry => simp [perform]

theorem error_performAll_ne_unknown (cfg : Config) (acts : List Act) (s : Session M D)
    (title : String) : (performAll cfg acts s).error ≠ some (.unknownTitle title) := by
  induction acts generalizing s with
  | nil => simp [performAll]
  | cons act acts ih =>
    intro refused
    rw [performAll, Outcome.error_andThen, Option.or_eq_some_iff] at refused
    rcases refused with first | ⟨-, later⟩
    · exact error_perform_ne_unknown cfg act s title first
    · exact ih _ later

theorem unknown_step {cfg : Config} {s : Session M D} {step : Step} {title : String}
    (refused : (s.operate cfg step.operation).error = some (.unknownTitle title)) :
    step = .boot ∨ step = .handle (.select title) ∧ Catalog.isListed title = false := by
  rw [operate_operation, follow, Option.or_eq_some_iff] at refused
  rcases refused with acted | ⟨-, decided⟩
  · exact absurd acted (error_performAll_ne_unknown cfg _ _ title)
  · exact (takes_take cfg s.desk step).of_unknown decided

/-- An operation is refused for its title at booting, or because it selects one that is not
listed. -/
theorem unknown_operate {cfg : Config} {s : Session M D} {op : Operation} {title : String}
    (refused : (s.operate cfg op).error = some (.unknownTitle title)) :
    op = .boot ∨ op = .handle (.select title) ∧ Catalog.isListed title = false := by
  rcases operation_eq op with ⟨step, rfl⟩ | ⟨source, rfl⟩
  · rcases unknown_step refused with rfl | ⟨rfl, unlisted⟩
    · exact .inl rfl
    · exact .inr ⟨rfl, unlisted⟩
  · rw [error_operate_eq_steps] at refused
    obtain ⟨stage, isStage, failure⟩ := List.exists_of_findSome?_eq_some refused
    obtain ⟨before, op, rest, isSteps, rfl⟩ := exists_of_mem_stages isStage
    have member : op ∈ ((Operation.serveAll source).steps s.desk).map Step.operation := by
      rw [isSteps]
      simp
    obtain ⟨step, isStep, rfl⟩ := List.mem_map.mp member
    have serves := serves_of_mem_steps isStep
    rcases unknown_step failure with rfl | ⟨rfl, -⟩ <;> cases serves

section Shown

variable {cfg : Config} {s : Session M D}

/-- Whatever an operation shows is the panel of the desk that it leads to. -/
theorem eq_panel_of_mem_panels {op : Operation} {panel : Panel}
    (shown : panel ∈ panels (s.operate cfg op).deeds) :
    panel = (s.operate cfg op).session.desk.panel cfg := by
  obtain ⟨deed, member, isPanel⟩ := List.mem_filterMap.mp shown
  cases deed with
  | presented raster handedPanel cause =>
    cases cause with
    | some cause => cases isPanel
    | none =>
      obtain rfl : handedPanel = panel := Option.some.inj isPanel
      have isHanded : (raster, handedPanel) ∈ handed (s.operate cfg op).deeds :=
        List.mem_filterMap.mpr ⟨_, member, rfl⟩
      exact (conveys_operate cfg s op).panel _ isHanded
  | _ => cases isPanel

/-- Unless a selection went by since that showed nothing, the panel that was shown last has the
selected title. -/
theorem title_of_shown {ops : List Operation}
    (noneHidden : ∀ stage ∈ (stages cfg ops s).rtakeWhile fun stage => !stage.shows,
      stage.operation.selection? cfg = none)
    {panel : Panel} (last : (panels (deeds cfg ops s)).getLast? = some panel) :
    panel.title = (after cfg ops s).desk.selected := by
  induction ops using List.reverseRecOn with
  | nil => cases last
  | append_singleton ops op ih =>
    let met := after cfg ops s
    let stage : Stage M D := ⟨met, op, met.operate cfg op⟩
    have run : stages cfg (ops ++ [op]) s = stages cfg ops s ++ [stage] := stages_append ..
    have done : deeds cfg (ops ++ [op]) s = deeds cfg ops s ++ (met.operate cfg op).deeds := by
      rw [deeds_append, deeds_cons, deeds_nil, List.append_nil]
    have reached : after cfg (ops ++ [op]) s = (met.operate cfg op).session := after_append ..
    rw [run] at noneHidden
    rw [done, panels_append, List.getLast?_append] at last
    rw [reached]
    by_cases nothing : panels (met.operate cfg op).deeds = []
    · have hides : stage.shows = false := by simp [stage, Stage.shows, nothing]
      rw [List.rtakeWhile_concat_pos _ _ _ (by simp [hides])] at noneHidden
      have unselected : op.selection? cfg = none := noneHidden stage (by simp)
      rw [nothing, List.getLast?_nil, Option.none_or] at last
      rw [selected_operate, unselected, Option.none_or]
      exact ih (fun other member => noneHidden other (List.mem_append_left _ member)) last
    · cases shown : (panels (met.operate cfg op).deeds).getLast? with
      | none => exact absurd (List.getLast?_eq_none_iff.mp shown) nothing
      | some other =>
        rw [shown, Option.some_or, Option.some.injEq] at last
        subst last
        exact congrArg Panel.title (eq_panel_of_mem_panels (List.mem_of_getLast? shown))

end Shown

end HexPlayer.Session
