import HexPlayer.Proofs.Terminal.Canvas

/-!
# The two boxes

The picture's box and the panel's, both cut to the sheet, have no cell in common. So the sheet is
the picture on its left, whatever panel is drawn beside it, plain tiles are all that stands to the
left of the panel, and the tiles of neither box are blank.
-/

namespace HexPlayer.Terminal

namespace Scene

/-- The picture's box, cut to a sheet of this size. -/
def leftBox (r : Resolution) (width height : Nat) : Rect := (pictureBox r).cutTo width height

/-- The panel's box, cut to a sheet of this size. -/
def rightBox (r : Resolution) (width height : Nat) : Rect := (panelBox r).cutTo width height

/-- The cells for machine pixels, inside the picture's box. -/
def canvas (r : Resolution) (width height : Nat) : Rect := (leftBox r width height).inner

section Boxes

variable {r : Resolution} {width height x y : Nat}

/-- The panel's box is one column to the right of the picture's, also where it is shrunk. -/
theorem x_panelBox (r : Resolution) : (panelBox r).x = (pictureBox r).right + 1 := by
  unfold panelBox Rect.sized
  split <;> rfl

theorem not_has_both (both : (leftBox r width height).Has x y ∧ (rightBox r width height).Has x y) :
    False := by
  have left := (Rect.has_cutTo.mp both.1).1.column.2
  have right := (Rect.has_cutTo.mp both.2).1.column.1
  rw [x_panelBox] at right
  omega

/-- Nothing to the left of the panel's box is in it. -/
theorem not_has_rightBox (left : x < (panelBox r).x) : ¬ (rightBox r width height).Has x y :=
  fun has => Nat.not_le.mpr left (Rect.has_cutTo.mp has).1.column.1

/-- A box with a border that is not too large is as large as asked for. -/
theorem pictureBox_eq (small : (2 + r.width) * (2 + r.height) ≤ Rect.maxCells) :
    pictureBox r = ⟨0, 0, 2 + r.width, 2 + r.height⟩ := by
  have wide : 2 + r.width ≤ (2 + r.width) * (2 + r.height) := Nat.le_mul_of_pos_right _ (by omega)
  have tall : 2 + r.height ≤ (2 + r.width) * (2 + r.height) := Nat.le_mul_of_pos_left _ (by omega)
  have side {pixels : Nat} (fits : 2 + pixels ≤ Rect.maxCells) : boxSide pixels = 2 + pixels :=
    Nat.mod_eq_of_lt (Nat.lt_succ_of_le fits)
  rw [pictureBox, side (Nat.le_trans wide small), side (Nat.le_trans tall small),
    Rect.sized_eq _ _ small]

section Small

variable (small : (2 + r.width) * (2 + r.height) ≤ Rect.maxCells)
include small

theorem canvas_eq : canvas r width height =
    ⟨1, 1, min (2 + r.width) width - 2, min (2 + r.height) height - 2⟩ := by
  simp [canvas, leftBox, pictureBox_eq small, Rect.cutTo, Rect.inner, Rect.right, Rect.bottom]

theorem canvas_le (width height : Nat) : (canvas r width height).width ≤ r.width ∧
    (canvas r width height).height ≤ r.height := by
  rw [canvas_eq small]
  exact ⟨by dsimp only; omega, by dsimp only; omega⟩

/-- Where the picture's box is not cut, every machine pixel has a cell. -/
theorem canvas_whole (wide : 2 + r.width ≤ width) (tall : 2 + r.height ≤ height) :
    canvas r width height = ⟨1, 1, r.width, r.height⟩ := by
  rw [canvas_eq small, Nat.min_eq_left wide, Nat.min_eq_left tall, Nat.add_sub_cancel_left,
    Nat.add_sub_cancel_left]

end Small

end Boxes

section Within

variable {box : Rect} {drawing : Rect → Sheet → Sheet} {s : Sheet}

theorem drawnIn_within
    (confined : ∀ r : Rect, r.hasCell = true → ∀ s, Sheet.DrawnIn r s (drawing r s)) :
    Sheet.DrawnIn (box.cutTo s.width s.height) s (within box drawing s) := by
  unfold within
  dsimp only
  split
  next hasCell => exact confined _ hasCell s
  next => exact .refl _ s

theorem each_within {P : Nat → Tile → Prop} (each : s.Each P)
    (keeps : (box.cutTo s.width s.height).hasCell = true →
      (drawing (box.cutTo s.width s.height) s).Each P) : (within box drawing s).Each P := by
  unfold within
  dsimp only
  split
  next hasCell => exact keeps hasCell
  next => exact each

end Within

section Draw

variable (p : Painter) (raster : Raster) (earlier : Planes) (shown : Panel) (width height : Nat)

/-- The sheet before the panel is drawn. -/
def unpanelled (planes : Planes) : Sheet :=
  within (pictureBox p.resolution) (picture p planes) (.blank width height)

theorem drawnIn_left : Sheet.DrawnIn (leftBox p.resolution width height) (.blank width height)
    (unpanelled p width height (planes p raster earlier)) :=
  drawnIn_within (s := .blank width height) fun _ hasCell s => drawnIn_picture hasCell s

theorem drawnIn_right : Sheet.DrawnIn (rightBox p.resolution width height)
    (unpanelled p width height (planes p raster earlier))
    (draw p width height (planes p raster earlier) shown) := by
  have drawn := drawnIn_left p raster earlier width height
  have cut : rightBox p.resolution width height = (panelBox p.resolution).cutTo
      (unpanelled p width height (planes p raster earlier)).width
      (unpanelled p width height (planes p raster earlier)).height := by
    rw [drawn.width, drawn.height]
    rfl
  rw [cut]
  exact drawnIn_within fun _ hasCell => drawnIn_panel hasCell shown

/-- The sheet has the size that was asked for. -/
theorem size_draw :
    (draw p width height (planes p raster earlier) shown).width = width ∧
      (draw p width height (planes p raster earlier) shown).height = height :=
  have left := drawnIn_left p raster earlier width height
  have right := drawnIn_right p raster earlier shown width height
  ⟨right.width.trans left.width, right.height.trans left.height⟩

theorem plain_blank : (Sheet.blank width height).Each fun _ => Tile.Plain := by
  intro x y tile isTile
  rw [Sheet.blank, Grid.cell?_filled] at isTile
  split at isTile
  next =>
    obtain rfl := Option.some.inj isTile
    exact ⟨⟨' ', rfl⟩, rfl⟩
  next => cases isTile

theorem plain_unpanelled (planes : Planes) :
    (unpanelled p width height planes).Each fun _ => Tile.Plain :=
  each_within (plain_blank width height) fun _ => plain_picture planes (plain_blank width height)

/-- To the left of the panel's box all tiles are plain. -/
theorem plain_draw {x y : Nat} {tile : Tile} (left : x < (panelBox p.resolution).x)
    (isTile : (draw p width height (planes p raster earlier) shown).cell? x y = some tile) :
    tile.Plain := by
  rw [(drawnIn_right p raster earlier shown width height).outside (not_has_rightBox left)] at isTile
  exact plain_unpanelled p width height _ x y tile isTile

/-- No glyph goes beyond the sheet. -/
theorem fitsIn_draw :
    (draw p width height (planes p raster earlier) shown).Each (Tile.FitsIn width) := by
  have drawn := drawnIn_left p raster earlier width height
  have fits : (unpanelled p width height (planes p raster earlier)).Each (Tile.FitsIn width) := by
    intro x y tile isTile
    have inSheet := ((Grid.isSome_cell? _ x y).mp (Option.isSome_of_mem isTile)).1
    rw [drawn.width] at inSheet
    obtain ⟨c, isNarrow⟩ := (plain_unpanelled p width height _ x y tile isTile).glyph
    exact ⟨inSheet, by rw [isNarrow]; exact inSheet⟩
  exact each_within fits fun hasCell =>
    fitsIn_panel (Nat.le_trans (Rect.right_cutTo_le hasCell) (Nat.le_of_eq drawn.width)) shown fits

/-- The tiles of neither box are blank. -/
theorem cell?_draw_of_outside {x y : Nat} (left : ¬ (leftBox p.resolution width height).Has x y)
    (right : ¬ (rightBox p.resolution width height).Has x y) :
    (draw p width height (planes p raster earlier) shown).cell? x y =
      (Sheet.blank width height).cell? x y :=
  ((drawnIn_right p raster earlier shown width height).outside right).trans
    ((drawnIn_left p raster earlier width height).outside left)

/-- The tiles of the picture's box are those of the picture. -/
theorem cell?_draw_of_left {x y : Nat} (has : (leftBox p.resolution width height).Has x y) :
    (draw p width height (planes p raster earlier) shown).cell? x y =
      (picture p (planes p raster earlier) (leftBox p.resolution width height)
        (.blank width height)).cell? x y := by
  rw [(drawnIn_right p raster earlier shown width height).outside fun right =>
    not_has_both ⟨has, right⟩]
  exact congrArg (Grid.cell? · x y) (if_pos (Rect.hasCell_of_has has))

end Draw

end Scene

end HexPlayer.Terminal
