import HexPlayer.Proofs.Terminal.Boxes
import HexPlayer.Proofs.Terminal.Printing
import HexPlayer.Session.Desk

/-!
# Showing pictures

A display is shown one raster after the other, each with a panel, and the terminal may get another
size in between. Whatever was shown before, the screen shows the sheet that was drawn last to the
left of the panel: `drawn_afterAll`. The cells of the picture follow from there.
-/

namespace HexPlayer.Terminal

open Session (Config)

namespace Screen

theorem area_print (before after : Sheet) (screen : Screen) :
    (screen.print before after).area = screen.area := by
  rw [area, area, width_print, height_print]

/-- The area that is drawn on begins at the top left corner of the terminal and ends within it. -/
theorem area_le (s : Screen) :
    s.area.x = 0 ∧ s.area.y = 0 ∧ s.area.width ≤ s.width ∧ s.area.height ≤ s.height := by
  have corner : (Rect.sized 0 0 s.width s.height).x = 0 ∧
      (Rect.sized 0 0 s.width s.height).y = 0 := by
    unfold Rect.sized
    split <;> exact ⟨rfl, rfl⟩
  refine ⟨corner.1, corner.2, ?_, ?_⟩
  · exact Nat.le_trans (Nat.sub_le _ _) (Nat.min_le_right _ _)
  · exact Nat.le_trans (Nat.sub_le _ _) (Nat.min_le_right _ _)

/-- All of a terminal that has no more than the most cells is drawn on. -/
theorem area_eq {s : Screen} (small : s.width * s.height ≤ Rect.maxCells) :
    s.area = ⟨0, 0, s.width, s.height⟩ := by
  simp [area, Rect.sized_eq _ _ small, Rect.cutTo, Rect.right, Rect.bottom]

end Screen

/-- What a display is given to show. The terminal may get another size just before. -/
structure Showing where
  size : Option (Nat × Nat) := none
  raster : Raster
  panel : Panel

namespace SceneDisplay

/-- The display after the terminal got a size, if it did. -/
def resizeTo (d : SceneDisplay) : Option (Nat × Nat) → SceneDisplay
  | none => d
  | some (width, height) => d.resize width height

theorem painter_resizeTo (d : SceneDisplay) (size : Option (Nat × Nat)) :
    (d.resizeTo size).painter = d.painter := by
  cases size <;> rfl

/-- The display after one showing. -/
def afterShowing (d : SceneDisplay) (showing : Showing) : SceneDisplay :=
  (Display.present showing.raster showing.panel (d.resizeTo showing.size)).1

theorem afterShowing_eq (d : SceneDisplay) (showing : Showing) :
    let sized := d.resizeTo showing.size
    let planes := Scene.planes sized.painter showing.raster sized.planes
    let sheet := Scene.draw sized.fitted.painter sized.fitted.sheet.width
      sized.fitted.sheet.height planes showing.panel
    d.afterShowing showing =
      { sized.fitted with
        screen := sized.fitted.screen.print sized.fitted.sheet sheet
        sheet := sheet
        planes := planes } := rfl

/-- The display after showings in turn. -/
def afterAll (d : SceneDisplay) (showings : List Showing) : SceneDisplay :=
  showings.foldl afterShowing d

/-- The column at which the panel's box begins. -/
def edge (p : Painter) : Nat := (Scene.panelBox p.resolution).x

theorem edge_eq {p : Painter}
    (small : (2 + p.resolution.width) * (2 + p.resolution.height) ≤ Rect.maxCells) :
    edge p = p.resolution.width + 3 := by
  rw [edge, Scene.x_panelBox, Scene.pictureBox_eq small, Rect.right]
  dsimp only
  omega

/-- To the left of the panel the screen shows the sheet that was printed. -/
structure Settled (p : Painter) (d : SceneDisplay) : Prop where
  painter : d.painter = p
  shows : d.screen.Shows (edge p) d.sheet

/-- The display has drawn a raster and a panel on all of its area. -/
structure Drawn (p : Painter) (raster : Raster) (panel : Panel) (d : SceneDisplay) : Prop
    extends Settled p d where
  sheet : ∃ earlier, d.sheet = Scene.draw p d.screen.area.width d.screen.area.height
    (Scene.planes p raster earlier) panel

theorem settled_blank (p : Painter) (width height : Nat) : Settled p (blank p width height) where
  painter := rfl
  shows := by
    intro x y tile _ isTile
    let area := (Screen.blank width height).area
    have onSheet : (Sheet.blank area.width area.height).cell? x y = some tile := isTile
    rw [Sheet.blank, Grid.cell?_filled] at onSheet
    split at onSheet
    next inArea =>
      obtain ⟨-, -, narrower, lower⟩ := (Screen.blank width height).area_le
      have inTerminal : x < width ∧ y < height :=
        ⟨Nat.lt_of_lt_of_le inArea.1 narrower, Nat.lt_of_lt_of_le inArea.2 lower⟩
      obtain rfl := Option.some.inj onSheet
      exact (Grid.cell?_filled width height ({} : Cell) x y).trans (if_pos inTerminal)
    next => cases onSheet

section Present

variable {p : Painter} {d : SceneDisplay}

/-- A terminal with another size still shows the sheet, unless it is drawn anew from blank. -/
theorem settled_fitted_resizeTo (settled : Settled p d) (size : Option (Nat × Nat)) :
    let fitted := (d.resizeTo size).fitted
    Settled p fitted ∧ fitted.sheet.width = fitted.screen.area.width ∧
      fitted.sheet.height = fitted.screen.area.height := by
  intro fitted
  by_cases same : (d.resizeTo size).sheet.width = (d.resizeTo size).screen.area.width ∧
      (d.resizeTo size).sheet.height = (d.resizeTo size).screen.area.height
  · have isKept : fitted = d.resizeTo size := if_pos same
    rw [isKept]
    refine ⟨?_, same⟩
    cases size with
    | none => exact settled
    | some size =>
      obtain ⟨width, height⟩ := size
      refine ⟨settled.painter, fun x y tile left isTile => ?_⟩
      -- the sheet has the new area's size, so that its cells are on the terminal
      have inSheet : x < d.sheet.width ∧ y < d.sheet.height :=
        (d.sheet.isSome_cell? x y).mp (Option.isSome_of_mem isTile)
      obtain ⟨-, -, narrower, lower⟩ := (d.resize width height).screen.area_le
      have inTerminal : x < width ∧ y < height :=
        ⟨Nat.lt_of_lt_of_le (same.1 ▸ inSheet.1) narrower,
          Nat.lt_of_lt_of_le (same.2 ▸ inSheet.2) lower⟩
      refine (Grid.cell?_resized d.screen width height {} x y).trans ?_
      rw [if_pos inTerminal, settled.shows x y tile left isTile, Option.getD_some]
  · have isBlank : fitted = blank (d.resizeTo size).painter (d.resizeTo size).screen.width
        (d.resizeTo size).screen.height := if_neg same
    rw [isBlank, painter_resizeTo, settled.painter]
    exact ⟨settled_blank p _ _, rfl, rfl⟩

/-- Drawing a scene of the area's size and printing it. -/
theorem drawn_print (settled : Settled p d) (width : d.sheet.width = d.screen.area.width)
    (height : d.sheet.height = d.screen.area.height) {raster : Raster} {panel : Panel}
    {earlier : Planes} {sheet : Sheet}
    (isDrawn : sheet = Scene.draw p d.sheet.width d.sheet.height (Scene.planes p raster earlier)
      panel) (planes : Planes) :
    Drawn p raster panel
      { d with screen := d.screen.print d.sheet sheet, sheet := sheet, planes := planes } := by
  have size : sheet.width = d.sheet.width ∧ sheet.height = d.sheet.height := by
    rw [isDrawn]
    exact Scene.size_draw ..
  have fits : sheet.Each (Tile.FitsIn sheet.width) := by
    rw [size.1, isDrawn]
    exact Scene.fitsIn_draw _ _ _ _ _ _
  have plain (x y : Nat) (tile : Tile) (left : x < edge p) (isTile : sheet.cell? x y = some tile) :
      tile.Plain := by
    rw [isDrawn] at isTile
    exact Scene.plain_draw _ _ _ _ _ _ left isTile
  refine ⟨⟨settled.painter, ?_⟩, earlier, ?_⟩
  · exact Screen.shows_print plain fits size.1.symm size.2.symm settled.shows
  · rw [Screen.area_print, ← width, ← height]
    exact isDrawn

theorem drawn_afterShowing (settled : Settled p d) (showing : Showing) :
    Drawn p showing.raster showing.panel (d.afterShowing showing) := by
  obtain ⟨fitted, width, height⟩ := settled_fitted_resizeTo settled showing.size
  have sized : (d.resizeTo showing.size).painter = p :=
    (painter_resizeTo d showing.size).trans settled.painter
  rw [afterShowing_eq, fitted.painter, sized]
  exact drawn_print fitted width height rfl _

end Present

/-- Whatever was shown before, the display has drawn what it was given last. -/
theorem drawn_afterAll (p : Painter) (columns rows : Nat) (earlier : List Showing)
    (last : Showing) :
    Drawn p last.raster last.panel ((blank p columns rows).afterAll (earlier ++ [last])) := by
  have settled : Settled p ((blank p columns rows).afterAll earlier) := by
    induction earlier using List.reverseRecOn with
    | nil => exact settled_blank p columns rows
    | append_singleton showings showing ih =>
      rw [afterAll, List.foldl_append]
      exact (drawn_afterShowing ih showing).toSettled
  rw [afterAll, List.foldl_append]
  exact drawn_afterShowing settled last

theorem size_fitted (d : SceneDisplay) :
    d.fitted.screen.width = d.screen.width ∧ d.fitted.screen.height = d.screen.height := by
  unfold fitted
  split <;> exact ⟨rfl, rfl⟩

theorem size_afterShowing (d : SceneDisplay) (showing : Showing) :
    ((d.afterShowing showing).screen.width, (d.afterShowing showing).screen.height) =
      showing.size.getD (d.screen.width, d.screen.height) := by
  obtain ⟨width, height⟩ := (d.resizeTo showing.size).size_fitted
  rw [afterShowing_eq, Screen.width_print, Screen.height_print, width, height]
  cases showing.size <;> rfl

/-- The terminal has the size that it got last. -/
theorem size_afterAll (d : SceneDisplay) (showings : List Showing) :
    ((d.afterAll showings).screen.width, (d.afterAll showings).screen.height) =
      (showings.filterMap Showing.size).getLast?.getD (d.screen.width, d.screen.height) := by
  induction showings using List.reverseRecOn with
  | nil => rfl
  | append_singleton showings showing ih =>
    have last : d.afterAll (showings ++ [showing]) = (d.afterAll showings).afterShowing showing :=
      List.foldl_append ..
    rw [last, size_afterShowing, ih, List.filterMap_append]
    cases isSize : showing.size <;> simp [isSize]

/-- The picture's box on the terminal. -/
def leftBox (d : SceneDisplay) (r : Resolution) : Rect :=
  Scene.leftBox r d.screen.area.width d.screen.area.height

/-- The panel's box on the terminal. -/
def rightBox (d : SceneDisplay) (r : Resolution) : Rect :=
  Scene.rightBox r d.screen.area.width d.screen.area.height

/-- The cells of the terminal for machine pixels. -/
def canvas (d : SceneDisplay) (r : Resolution) : Rect :=
  Scene.canvas r d.screen.area.width d.screen.area.height

/-- On a terminal with room for the picture each machine pixel has a cell of its own. -/
theorem alone_of_room {d : SceneDisplay} {r : Resolution} (wide : 2 ≤ r.width) (tall : 2 ≤ r.height)
    (small : (2 + r.width) * (2 + r.height) ≤ Rect.maxCells)
    (room : 2 + r.width ≤ d.screen.area.width ∧ 2 + r.height ≤ d.screen.area.height) {x y : Nat}
    (column : x < r.width) (row : y < r.height) :
    (d.canvas r).Has (1 + x) (1 + y) ∧
      ∀ pixel, Scene.FallsOn r (d.canvas r) pixel (1 + x, 1 + y) ↔ pixel = (x, y) := by
  have isWhole : d.canvas r = ⟨1, 1, r.width, r.height⟩ := Scene.canvas_whole small room.1 room.2
  rw [isWhole]
  refine ⟨⟨⟨Nat.le_add_right 1 x, ?_⟩, Nat.le_add_right 1 y, ?_⟩, fun pixel =>
    Scene.fallsOn_iff wide tall rfl rfl column row⟩
  · exact Nat.add_lt_add_left column 1
  · exact Nat.add_lt_add_left row 1

/-- What a cell of the picture shows. -/
def pixelCell (colour : Colour) : Cell := ⟨'▄', { fg := some colour }⟩

theorem pixelCell_ne {on off : Colour} (distinct : on ≠ off) : pixelCell on ≠ pixelCell off := by
  simpa [pixelCell] using distinct

/-- The cells of a box are cells of the terminal. -/
theorem has_terminal {d : SceneDisplay} {r : Resolution} {x y : Nat}
    (has : (d.leftBox r).Has x y ∨ (d.rightBox r).Has x y) :
    x < d.screen.width ∧ y < d.screen.height := by
  obtain ⟨-, -, narrower, lower⟩ := d.screen.area_le
  have inArea : x < d.screen.area.width ∧ y < d.screen.area.height :=
    has.elim (fun has => (Rect.has_cutTo.mp has).2) fun has => (Rect.has_cutTo.mp has).2
  exact ⟨Nat.lt_of_lt_of_le inArea.1 narrower, Nat.lt_of_lt_of_le inArea.2 lower⟩

namespace Drawn

variable {p : Painter} {raster : Raster} {panel : Panel} {d : SceneDisplay}
  (drawn : Drawn p raster panel d)
include drawn

/-- The sheet covers the area, and has nothing on it but the two boxes. -/
theorem sheet_spec :
    d.sheet.width = d.screen.area.width ∧ d.sheet.height = d.screen.area.height ∧
      ∀ x y, x < d.screen.area.width → y < d.screen.area.height →
        ¬ (d.leftBox p.resolution).Has x y → ¬ (d.rightBox p.resolution).Has x y →
        d.sheet.cell? x y = some {} := by
  obtain ⟨earlier, sheet⟩ := drawn.sheet
  rw [sheet]
  obtain ⟨width, height⟩ := Scene.size_draw p raster earlier panel d.screen.area.width
    d.screen.area.height
  refine ⟨width, height, fun x y column row left right => ?_⟩
  rw [Scene.cell?_draw_of_outside _ _ _ _ _ _ left right, Sheet.blank, Grid.cell?_filled,
    if_pos ⟨column, row⟩]

variable {x y : Nat} (has : (d.canvas p.resolution).Has x y)
include has

/-- The cells of the canvas show what the picture has there. -/
theorem cell?_of_has {tile : Tile}
    (isTile : ∀ earlier, (Scene.picture p (Scene.planes p raster earlier)
      (d.leftBox p.resolution) (.blank d.screen.area.width d.screen.area.height)).cell? x y =
        some tile) :
    d.screen.cell? x y = some tile.face := by
  obtain ⟨earlier, sheet⟩ := drawn.sheet
  have inBox := Rect.has_of_has_inner has
  have left : x < edge p := by
    have inPicture := (Rect.has_cutTo.mp inBox).1.column.2
    rw [edge, Scene.x_panelBox]
    omega
  refine drawn.shows x y tile left ?_
  rw [sheet, Scene.cell?_draw_of_left _ _ _ _ _ _ inBox]
  exact isTile earlier

variable (wide : 2 ≤ p.resolution.width) (tall : 2 ≤ p.resolution.height)
include wide tall

omit drawn in
/-- A canvas with a cell can be drawn on, and its cells are on the sheet. -/
theorem drawable_of_has : Scene.Drawable p.resolution (d.canvas p.resolution) ∧
    ((Sheet.blank d.screen.area.width d.screen.area.height).cell? x y).isSome := by
  have inSheet := (Rect.has_cutTo.mp (Rect.has_of_has_inner has)).2
  exact ⟨⟨wide, tall, Rect.hasCell_of_has has⟩, (Grid.isSome_cell? _ x y).mpr inSheet⟩

theorem cell?_of_lit {pixel : Nat × Nat}
    (falls : Scene.FallsOn p.resolution (d.canvas p.resolution) pixel (x, y))
    (lit : Scene.isLit p raster pixel = true) : d.screen.cell? x y = some (pixelCell p.on) := by
  obtain ⟨drawable, inSheet⟩ := drawable_of_has has wide tall
  exact drawn.cell?_of_has has fun _ =>
    Scene.cell?_picture_of_lit (Scene.plain_blank _ _) drawable inSheet falls lit

theorem cell?_of_unlit {pixel : Nat × Nat}
    (falls : Scene.FallsOn p.resolution (d.canvas p.resolution) pixel (x, y))
    (unlit : ∀ other, Scene.FallsOn p.resolution (d.canvas p.resolution) other (x, y) →
      Scene.isLit p raster other = false) :
    d.screen.cell? x y = some (pixelCell p.off) := by
  obtain ⟨drawable, inSheet⟩ := drawable_of_has has wide tall
  exact drawn.cell?_of_has has fun _ =>
    Scene.cell?_picture_of_unlit (Scene.plain_blank _ _) drawable inSheet falls unlit

/-- A cell on which one pixel falls alone shows whether that pixel is lit. -/
theorem cell?_of_alone (distinct : p.on ≠ p.off) {pixel : Nat × Nat}
    (alone : ∀ other, Scene.FallsOn p.resolution (d.canvas p.resolution) other (x, y) ↔
      other = pixel) :
    (d.screen.cell? x y = some (pixelCell p.on) ↔ Scene.isLit p raster pixel = true) ∧
      (d.screen.cell? x y = some (pixelCell p.off) ↔ ¬ Scene.isLit p raster pixel = true) := by
  have differs := pixelCell_ne distinct
  have falls := (alone pixel).mpr rfl
  by_cases lit : Scene.isLit p raster pixel = true
  · rw [drawn.cell?_of_lit has wide tall falls lit]
    simp [lit, differs]
  · have unlit := Bool.eq_false_iff.mpr lit
    have others (other : Nat × Nat) (falls' : Scene.FallsOn p.resolution
        (d.canvas p.resolution) other (x, y)) : Scene.isLit p raster other = false :=
      (alone other).mp falls' ▸ unlit
    rw [drawn.cell?_of_unlit has wide tall falls others]
    simp [lit, differs.symm]

/-- No cell of the canvas is left out, and lit pixels show over unlit ones. -/
theorem cell?_canvas
    (small : (2 + p.resolution.width) * (2 + p.resolution.height) ≤ Rect.maxCells) :
    (∃ pixel, Scene.FallsOn p.resolution (d.canvas p.resolution) pixel (x, y)) ∧
      ((∃ pixel, Scene.FallsOn p.resolution (d.canvas p.resolution) pixel (x, y) ∧
        Scene.isLit p raster pixel = true) → d.screen.cell? x y = some (pixelCell p.on)) ∧
      ((∀ pixel, Scene.FallsOn p.resolution (d.canvas p.resolution) pixel (x, y) →
        ¬ Scene.isLit p raster pixel = true) → d.screen.cell? x y = some (pixelCell p.off)) := by
  obtain ⟨columns, rows⟩ := Scene.canvas_le small d.screen.area.width d.screen.area.height
  have onCanvas : (d.canvas p.resolution).Has (x, y).1 (x, y).2 := has
  obtain ⟨pixel, falls⟩ := Scene.exists_fallsOn wide tall columns rows onCanvas
  refine ⟨⟨pixel, falls⟩, fun ⟨other, falls', lit⟩ => ?_, fun unlit => ?_⟩
  · exact drawn.cell?_of_lit has wide tall falls' lit
  · exact drawn.cell?_of_unlit has wide tall falls fun other falls' =>
      Bool.eq_false_iff.mpr (unlit other falls')

/-- The cell of a pixel of a rendered frame tells the byte of the frame. -/
theorem cell?_of_rendered (distinct : p.on ≠ p.off) {pixel : Nat × Nat}
    (alone : ∀ other, Scene.FallsOn p.resolution (d.canvas p.resolution) other (x, y) ↔
      other = pixel) (inGrid : pixel.1 < p.resolution.width ∧ pixel.2 < p.resolution.height)
    {frame : Frame} {before : Raster} {painted : Painted Raster}
    (width : before.width = p.resolution.width * p.scale)
    (height : before.height = p.resolution.height * p.scale)
    (rendered : p.render frame before = .ok painted) (isRaster : painted.surface = raster) :
    d.screen.cell? x y = some (pixelCell p.on) ↔
      frame[pixel.2 * p.resolution.width + pixel.1]? = some 1 := by
  have fits : frame.size = p.resolution.area := by
    refine Decidable.byContradiction fun wrong => ?_
    cases (p.render_of_size_ne before wrong).symm.trans rendered
  have isPainted : raster = p.repaint before frame := by
    rw [p.render_of_size_eq before fits] at rendered
    rw [← isRaster, ← Except.ok.inj rendered]
  refine (drawn.cell?_of_alone has wide tall distinct alone).1.trans ?_
  rw [isPainted]
  exact Scene.isLit_repaint p distinct fits width height inGrid.1 inGrid.2

end Drawn

/-- The picture on the terminal, whatever was shown before it and whatever panel stands beside it.
It is drawn on the area, which is all of a terminal that does not have too many cells. Each cell
inside its box has a pixel and is lit if one of its pixels is, and with room for all pixels each
has a cell of its own, so that the screen shows the frame. The two boxes have no cell in common,
all they have is on the terminal, and nothing else is drawn. -/
theorem screen_shows_picture (cfg : Config) (wide : 2 ≤ cfg.resolution.width)
    (tall : 2 ≤ cfg.resolution.height)
    (small : (2 + cfg.resolution.width) * (2 + cfg.resolution.height) ≤ Rect.maxCells)
    (columns rows : Nat) (earlier : List Showing) (last : Showing) :
    let r := cfg.resolution
    let scale := max cfg.pixelSize 1
    let d := (blank cfg.painter columns rows).afterAll (earlier ++ [last])
    let area := d.screen.area
    let lit (pixel : Nat × Nat) : Prop :=
      last.raster.pixel? (pixel.1 * scale) (pixel.2 * scale) = some cfg.on
    (d.screen.width, d.screen.height) =
        ((earlier ++ [last]).filterMap Showing.size).getLast?.getD (columns, rows) ∧
    (area.x = 0 ∧ area.y = 0 ∧ area.width ≤ d.screen.width ∧ area.height ≤ d.screen.height ∧
      (d.screen.width * d.screen.height ≤ Rect.maxCells →
        area = ⟨0, 0, d.screen.width, d.screen.height⟩)) ∧
    d.canvas r = ⟨1, 1, min (2 + r.width) area.width - 2, min (2 + r.height) area.height - 2⟩ ∧
    (∀ x y, (d.canvas r).Has x y →
      (∃ pixel, Scene.FallsOn r (d.canvas r) pixel (x, y)) ∧
      ((∃ pixel, Scene.FallsOn r (d.canvas r) pixel (x, y) ∧ lit pixel) →
        d.screen.cell? x y = some (pixelCell cfg.on)) ∧
      ((∀ pixel, Scene.FallsOn r (d.canvas r) pixel (x, y) → ¬ lit pixel) →
        d.screen.cell? x y = some (pixelCell cfg.off))) ∧
    (2 + r.width ≤ area.width ∧ 2 + r.height ≤ area.height →
      ∀ x y, x < r.width → y < r.height →
        (∀ pixel, Scene.FallsOn r (d.canvas r) pixel (1 + x, 1 + y) ↔ pixel = (x, y)) ∧
        (cfg.on ≠ cfg.off →
          (d.screen.cell? (1 + x) (1 + y) = some (pixelCell cfg.on) ↔ lit (x, y)) ∧
          (d.screen.cell? (1 + x) (1 + y) = some (pixelCell cfg.off) ↔ ¬ lit (x, y)) ∧
          ∀ frame before painted, before.width = r.width * scale →
            before.height = r.height * scale → cfg.painter.render frame before = .ok painted →
            painted.surface = last.raster →
            (d.screen.cell? (1 + x) (1 + y) = some (pixelCell cfg.on) ↔
              frame[y * r.width + x]? = some 1))) ∧
    (∀ x y, (d.leftBox r).Has x y → ¬ (d.rightBox r).Has x y) ∧
    (∀ x y, (d.leftBox r).Has x y ∨ (d.rightBox r).Has x y →
      x < d.screen.width ∧ y < d.screen.height) ∧
    (d.sheet.width = area.width ∧ d.sheet.height = area.height ∧
      ∀ x y, x < area.width → y < area.height → ¬ (d.leftBox r).Has x y →
        ¬ (d.rightBox r).Has x y → d.sheet.cell? x y = some {}) ∧
    ∀ x y tile, x < r.width + 3 → d.sheet.cell? x y = some tile →
      d.screen.cell? x y = some tile.face := by
  intro r scale d area lit
  have drawn := drawn_afterAll cfg.painter columns rows earlier last
  have isLit (pixel : Nat × Nat) : Scene.isLit cfg.painter last.raster pixel = true ↔ lit pixel :=
    decide_eq_true_iff
  obtain ⟨atLeft, atTop, narrower, lower⟩ := d.screen.area_le
  refine ⟨size_afterAll _ _, ⟨atLeft, atTop, narrower, lower, Screen.area_eq⟩,
    Scene.canvas_eq small, fun x y has => ?_, fun room x y column row => ?_,
    fun x y left right => Scene.not_has_both ⟨left, right⟩, fun x y has => has_terminal has,
    drawn.sheet_spec, fun x y tile left isTile => drawn.shows x y tile ?_ isTile⟩
  · obtain ⟨covered, on, off⟩ := drawn.cell?_canvas has wide tall small
    exact ⟨covered, fun ⟨pixel, falls, now⟩ => on ⟨pixel, falls, (isLit pixel).mpr now⟩,
      fun unlit => off fun pixel falls now => unlit pixel falls ((isLit pixel).mp now)⟩
  · obtain ⟨has, alone⟩ := alone_of_room wide tall small room column row
    refine ⟨alone, fun distinct => ?_⟩
    obtain ⟨on, off⟩ := drawn.cell?_of_alone has wide tall distinct alone
    exact ⟨on.trans (isLit (x, y)), off.trans (not_congr (isLit (x, y))),
      fun frame before painted width height rendered isRaster =>
        drawn.cell?_of_rendered has wide tall distinct alone ⟨column, row⟩ width height rendered
          isRaster⟩
  · rw [edge_eq (p := cfg.painter) small]
    exact left

/-- Two rows of two pixels, each of one device pixel. -/
def tiny : Config := { resolution := ⟨2, 2⟩, pixelSize := 1 }

/-- The second pixel of the first row is lit. -/
def corner : Raster := tiny.painter.repaint tiny.painter.blankRaster #[0, 1, 0, 0]

/-- A panel of nothing much. -/
def idle : Panel := ⟨.stopped, none, .dark, .standard⟩

/-- A terminal with too many cells is not drawn on in full. With four columns and twenty thousand
rows there is room for the whole picture, but its box is cut to three columns all the same, and a
cell shows on although the pixel whose own it would be is off. -/
theorem lit_over_unlit_on_tall :
    let d := (blank tiny.painter 4 20000).afterAll [{ raster := corner, panel := idle }]
    2 ≤ tiny.resolution.width ∧ 2 ≤ tiny.resolution.height ∧
      (2 + tiny.resolution.width) * (2 + tiny.resolution.height) ≤ Rect.maxCells ∧
      tiny.on ≠ tiny.off ∧
      2 + tiny.resolution.width ≤ d.screen.width ∧ 2 + tiny.resolution.height ≤ d.screen.height ∧
      tiny.painter.render #[0, 1, 0, 0] tiny.painter.blankRaster = .ok ⟨corner, 0⟩ ∧
      corner.pixel? 0 0 = some tiny.off ∧
      d.screen.cell? (1 + 0) (1 + 0) = some (pixelCell tiny.on) := by
  intro d
  have drawn : Drawn tiny.painter corner idle d :=
    drawn_afterAll tiny.painter 4 20000 [] { raster := corner, panel := idle }
  obtain ⟨width, height⟩ : d.screen.width = 4 ∧ d.screen.height = 20000 :=
    Prod.mk.inj (size_afterAll (blank tiny.painter 4 20000) [{ raster := corner, panel := idle }])
  have isArea : (Rect.sized 0 0 4 20000).cutTo 4 20000 = ⟨0, 0, 3, 18101⟩ := by decide +kernel
  have area : d.screen.area = ⟨0, 0, 3, 18101⟩ := by
    rw [Screen.area, width, height, isArea]
  have small : (2 + tiny.resolution.width) * (2 + tiny.resolution.height) ≤ Rect.maxCells := by
    decide
  have canvas : d.canvas tiny.resolution = ⟨1, 1, 1, 2⟩ := by
    refine (Scene.canvas_eq small).trans ?_
    rw [area]
    rfl
  have has : (d.canvas tiny.resolution).Has 1 1 := by
    rw [canvas]
    exact ⟨by decide, by decide⟩
  have falls : Scene.FallsOn tiny.resolution (d.canvas tiny.resolution) (1, 0) (1, 1) := by
    rw [canvas]
    exact ⟨by decide, by decide, by decide⟩
  refine ⟨by decide, by decide, small, by decide, by rw [width]; decide, by rw [height]; decide,
    ?_, by decide +kernel, ?_⟩
  · have clean : (#[0, 1, 0, 0] : Frame).countP Painter.isStray = 0 := by decide
    rw [tiny.painter.render_of_size_eq _ rfl, clean]
    rfl
  · exact drawn.cell?_of_lit has (by decide) (by decide) falls (by decide +kernel)

/-- A terminal with one column inside the box lets the pixels of a row share a cell; the same
picture is exact on the wider terminal that it gets next. -/
theorem screen_widened :
    let narrow : Showing := ⟨some (3, 4), corner, idle⟩
    let wide : Showing := ⟨some (40, 6), corner, idle⟩
    let first := (blank tiny.painter 3 3).afterAll [narrow]
    let second := (blank tiny.painter 3 3).afterAll [narrow, wide]
    2 ≤ tiny.resolution.width ∧ 2 ≤ tiny.resolution.height ∧
      (2 + tiny.resolution.width) * (2 + tiny.resolution.height) ≤ Rect.maxCells ∧
      first.screen.cell? 1 1 = some (pixelCell .white) ∧
      second.screen.cell? 1 1 = some (pixelCell .black) ∧
      second.screen.cell? 2 1 = some (pixelCell .white) := by
  intro narrow wide first second
  have small : (2 + tiny.resolution.width) * (2 + tiny.resolution.height) ≤ Rect.maxCells := by
    decide
  obtain ⟨size, -, isCanvas, cells, -⟩ :=
    screen_shows_picture tiny (by decide) (by decide) small 3 3 [] narrow
  obtain ⟨size', -, -, -, exact', -⟩ :=
    screen_shows_picture tiny (by decide) (by decide) small 3 3 [narrow] wide
  obtain ⟨width, height⟩ : first.screen.width = 3 ∧ first.screen.height = 4 := Prod.mk.inj size
  obtain ⟨width', height'⟩ : second.screen.width = 40 ∧ second.screen.height = 6 :=
    Prod.mk.inj size'
  have area : first.screen.area = ⟨0, 0, 3, 4⟩ := by
    rw [Screen.area_eq (by rw [width, height]; decide), width, height]
  have area' : second.screen.area = ⟨0, 0, 40, 6⟩ := by
    rw [Screen.area_eq (by rw [width', height']; decide), width', height']
  have canvas : first.canvas tiny.resolution = ⟨1, 1, 1, 2⟩ := by
    have cut : first.canvas tiny.resolution =
        ⟨1, 1, min 4 first.screen.area.width - 2, min 4 first.screen.area.height - 2⟩ := isCanvas
    rw [cut, area]
    rfl
  have room : 2 + tiny.resolution.width ≤ second.screen.area.width ∧
      2 + tiny.resolution.height ≤ second.screen.area.height := by
    rw [area']
    decide
  have isLit : corner.pixel? 1 0 = some tiny.on := by decide +kernel
  have isUnlit : corner.pixel? 0 0 ≠ some tiny.on := by decide +kernel
  have falls : Scene.FallsOn tiny.resolution (first.canvas tiny.resolution) (1, 0) (1, 1) := by
    rw [canvas]
    exact ⟨by decide, by decide, by decide⟩
  have has : (first.canvas tiny.resolution).Has 1 1 := by
    rw [canvas]
    exact ⟨by decide, by decide⟩
  have distinct : tiny.on ≠ tiny.off := by decide
  refine ⟨by decide, by decide, small, (cells 1 1 has).2.1 ⟨(1, 0), falls, isLit⟩, ?_, ?_⟩
  · exact ((exact' room 0 0 (by decide) (by decide)).2 distinct).2.1.mpr isUnlit
  · exact ((exact' room 1 0 (by decide) (by decide)).2 distinct).1.mpr isLit

end SceneDisplay

end HexPlayer.Terminal
