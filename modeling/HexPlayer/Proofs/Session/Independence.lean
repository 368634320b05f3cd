import HexPlayer.Proofs.Session.Devices

/-!
# What a session does not depend on

Two sessions of one configuration that are told the same do the same, whatever their machines show
and however their displays fail: they make the same calls and keep the same desk. The frames decide
about the raster alone, and the displays not even about that.
-/

namespace HexPlayer.Session

variable {M₁ M₂ D₁ D₂ : Type} [Machine M₁] [Machine M₂] [Display D₁] [Display D₂]

/-- Machines that show equal frames after all calls up to each drawing show it equal frames. -/
theorem framesDrawn_congr (acts : List Act) {m₁ : M₁} {m₂ : M₂}
    (alike : ∀ made, made <+: callsOf acts →
      Machine.frame (Machine.afterCalls made m₁) = Machine.frame (Machine.afterCalls made m₂)) :
    framesDrawn acts m₁ = framesDrawn acts m₂ := by
  induction acts generalizing m₁ m₂ with
  | nil => rfl
  | cons act acts ih =>
    cases act with
    -- the call comes before all that is made until the next drawing
    | call call =>
      apply ih
      intro made isPrefix
      exact alike (call :: made) (List.cons_prefix_cons.mpr ⟨rfl, isPrefix⟩)
    | draw action =>
      have now : Machine.frame m₁ = Machine.frame m₂ := alike [] List.nil_prefix
      rw [framesDrawn, framesDrawn, now, ih alike]
    | present => exact ih alike
    | record entry => exact ih alike

/-- Failures and frames never steer a session. After any number of operations, two fresh sessions
have made the same calls, which brought each machine to where it is, and have the same desk: run
state and due refresh, lamps, selected title, next and awaited ticket, and outbox. If the machines
show equal frames after the same calls, the rasters are equal as well. -/
theorem devices_never_steer (cfg : Config) (machine₁ : M₁) (display₁ : D₁) (machine₂ : M₂)
    (display₂ : D₂) (ops : List Operation) :
    let s₁ := fresh cfg machine₁ display₁
    let s₂ := fresh cfg machine₂ display₂
    (∀ n,
      calls (deeds cfg (ops.take n) s₁) = calls (deeds cfg (ops.take n) s₂) ∧
      (after cfg (ops.take n) s₁).machine =
        Machine.afterCalls (calls (deeds cfg (ops.take n) s₁)) machine₁ ∧
      (after cfg (ops.take n) s₂).machine =
        Machine.afterCalls (calls (deeds cfg (ops.take n) s₁)) machine₂ ∧
      (after cfg (ops.take n) s₁).desk = (after cfg (ops.take n) s₂).desk) ∧
    ((∀ made, made <+: calls (deeds cfg ops s₁) →
        Machine.frame (Machine.afterCalls made machine₁) =
          Machine.frame (Machine.afterCalls made machine₂)) →
      ∀ n, (after cfg (ops.take n) s₁).raster = (after cfg (ops.take n) s₂).raster) := by
  intro s₁ s₂
  have desk : s₁.desk = s₂.desk := rfl
  have raster : s₁.raster = s₂.raster := rfl
  refine ⟨fun n => ?_, fun alike n => ?_⟩
  · have made : calls (deeds cfg (ops.take n) s₁) = calls (deeds cfg (ops.take n) s₂) := by
      rw [calls_deeds, calls_deeds, desk]
    refine ⟨made, machine_after cfg _ s₁, ?_, ?_⟩
    · rw [made]
      exact machine_after cfg _ s₂
    · rw [desk_after, desk_after, desk]
  · have whole : s₁.desk.actsOfRun cfg (ops.take n) <+: s₁.desk.actsOfRun cfg ops := by
      rw [← List.take_append_drop n ops, Desk.actsOfRun_append, List.take_append_drop]
      exact List.prefix_append ..
    have drawn : framesDrawn (s₁.desk.actsOfRun cfg (ops.take n)) machine₁ =
        framesDrawn (s₁.desk.actsOfRun cfg (ops.take n)) machine₂ := by
      apply framesDrawn_congr
      intro made isPrefix
      apply alike made
      rw [calls_deeds]
      exact isPrefix.trans (whole.filterMap Act.call?)
    rw [raster_after, raster_after, ← desk, ← raster]
    exact congrArg (List.foldl cfg.painter.repaint s₁.raster) drawn

end HexPlayer.Session
