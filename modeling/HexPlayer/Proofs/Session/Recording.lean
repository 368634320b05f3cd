import HexPlayer.Proofs.Session.Devices

/-!
# Devices that keep a record

A tape is a machine that keeps the calls made on it, and a roll is a display that keeps what it is
handed. After a run a tape has the calls of the run on record (`made_after`), and a roll the rasters
and panels that were presented (`seen_after`).
-/

namespace HexPlayer

namespace StandIn

/-- A machine that keeps the calls made on it and shows one frame throughout. -/
structure Tape where
  frame : Frame := #[]
  made : List Call := []

instance : Machine Tape where
  frame := Tape.frame
  call call tape := { tape with made := tape.made ++ [call] }

/-- A display that keeps all that it is handed, and never fails. -/
structure Roll where
  seen : List (Raster × Panel) := []

instance : Display Roll where
  present raster panel roll := (⟨roll.seen ++ [(raster, panel)]⟩, none)

theorem made_afterCalls (calls : List Call) (tape : Tape) :
    (Machine.afterCalls calls tape).made = tape.made ++ calls := by
  induction calls generalizing tape with
  | nil => exact (List.append_nil _).symm
  | cons call calls ih =>
    rw [Machine.afterCalls_cons, ih]
    exact List.append_assoc ..

theorem seen_afterPresents (shown : List (Raster × Panel)) (roll : Roll) :
    (Display.afterPresents shown roll).seen = roll.seen ++ shown := by
  induction shown generalizing roll with
  | nil => exact (List.append_nil _).symm
  | cons first rest ih => exact (ih _).trans (List.append_assoc ..)

end StandIn

namespace Session

open StandIn (Roll Tape)

variable {M D : Type} [Machine M] [Display D] (cfg : Config) (ops : List Operation)

/-- A tape has the calls of a run on record. -/
theorem made_after (s : Session Tape D) :
    (after cfg ops s).machine.made = s.machine.made ++ calls (deeds cfg ops s) := by
  rw [machine_after, StandIn.made_afterCalls]

/-- A roll has on record what a run presents. -/
theorem seen_after (s : Session M Roll) :
    (after cfg ops s).display.seen = s.display.seen ++ handed (deeds cfg ops s) := by
  rw [(display_after cfg ops s).1, StandIn.seen_afterPresents]

end Session

end HexPlayer
