import HexPlayer.Proofs.Terminal.Drawing
import HexPlayer.Proofs.Terminal.Sampling

/-!
# The canvas of the picture

Machine pixels are scaled down to the canvas inside the picture's box. The canvas never has more
cells on a side than there are pixels, so that a pixel falls on each of its cells
(`exists_fallsOn`), and one alone where the canvas has all the cells it wants (`fallsOn_iff`). What
a cell shows then follows from the pixels that fall on it: `cell?_picture_of_lit` and
`cell?_picture_of_unlit`.
-/

namespace HexPlayer.Terminal

namespace Scene

section Scaling

variable {position cells pixels : Nat}

theorem scaled_lt (several : 2 ≤ pixels) (some : 0 < cells) (inside : position < pixels) :
    scaled position cells pixels < cells := by
  have whole : position * (cells - 1) ≤ (pixels - 1) * (cells - 1) :=
    Nat.mul_le_mul_right _ (by omega)
  have rounded : position * (cells - 1) / (pixels - 1) ≤ cells - 1 := Nat.div_le_of_le_mul whole
  rw [scaled]
  omega

/-- No cell is left out by rounding down, as long as there are no more cells than pixels. -/
theorem exists_scaled_eq (several : 2 ≤ pixels) (enough : cells ≤ pixels) {cell : Nat}
    (inside : cell < cells) : ∃ position < pixels, scaled position cells pixels = cell := by
  rcases Nat.eq_zero_or_pos (cells - 1) with single | multiple
  · exact ⟨0, by omega, by rw [scaled, Nat.zero_mul, Nat.zero_div]; omega⟩
  · -- the first pixel at or behind the cell's place among the pixels
    let position := (cell * (pixels - 1) + (cells - 2)) / (cells - 1)
    have lower : cell * (pixels - 1) ≤ position * (cells - 1) := by
      have rounded := Nat.lt_div_mul_add (a := cell * (pixels - 1) + (cells - 2)) multiple
      simp only [position]
      omega
    have upper : position * (cells - 1) ≤ cell * (pixels - 1) + (cells - 2) :=
      Nat.div_mul_le_self ..
    have last : cell * (pixels - 1) ≤ (cells - 1) * (pixels - 1) :=
      Nat.mul_le_mul_right _ (by omega)
    refine ⟨position, ?_, Nat.div_eq_of_lt_le lower ?_⟩
    · have short : position * (cells - 1) < pixels * (cells - 1) := by
        have split : pixels * (cells - 1) = (cells - 1) * (pixels - 1) + (cells - 1) := by
          rw [Nat.mul_comm pixels, ← Nat.mul_succ]
          congr 1
          omega
        omega
      exact Nat.lt_of_mul_lt_mul_right short
    · rw [Nat.succ_mul]
      omega

theorem scaled_self (several : 2 ≤ pixels) : scaled position pixels pixels = position :=
  Nat.mul_div_cancel _ (by omega)

end Scaling

/-- A machine pixel of the resolution falls on a cell of the sheet. -/
structure FallsOn (r : Resolution) (canvas : Rect) (pixel cell : Nat × Nat) : Prop where
  inGrid : pixel.1 < r.width ∧ pixel.2 < r.height
  column : cell.1 = canvas.x + scaled pixel.1 canvas.width r.width
  row : cell.2 = canvas.y + scaled pixel.2 canvas.height r.height

/-- There are two machine pixels or more on each side, and a canvas for them. -/
structure Drawable (r : Resolution) (canvas : Rect) : Prop where
  wide : 2 ≤ r.width
  tall : 2 ≤ r.height
  hasCell : canvas.hasCell = true

section Falling

variable {r : Resolution} {canvas : Rect} {pixel cell : Nat × Nat}

theorem cellOf?_point_eq_some_iff (inGrid : pixel ∈ pixels r) :
    cellOf? r canvas (point pixel) = some cell ↔
      Drawable r canvas ∧ FallsOn r canvas pixel cell := by
  have column : (point pixel).x.toNat = pixel.1 := rfl
  have row : (-(point pixel).y).toNat = pixel.2 := by simp [point]
  unfold cellOf?
  rw [column, row]
  split
  next undrawable =>
    refine iff_of_false (fun impossible => by cases impossible) fun ⟨drawable, _⟩ => ?_
    have := drawable.wide
    have := drawable.tall
    rcases undrawable with narrow | flat | none
    · omega
    · omega
    · rw [drawable.hasCell] at none
      cases none
  next drawable =>
    simp only [not_or, Nat.not_le, Bool.not_eq_false] at drawable
    obtain ⟨wide, tall, hasCell⟩ := drawable
    rw [Option.some.injEq, Prod.ext_iff]
    constructor
    · rintro ⟨isColumn, isRow⟩
      exact ⟨⟨wide, tall, hasCell⟩, mem_pixels.mp inGrid, isColumn.symm, isRow.symm⟩
    · rintro ⟨-, falls⟩
      exact ⟨falls.column.symm, falls.row.symm⟩

/-- Pixels fall inside the canvas. -/
theorem FallsOn.has (drawable : Drawable r canvas) (falls : FallsOn r canvas pixel cell) :
    canvas.Has cell.1 cell.2 := by
  obtain ⟨wide, tall⟩ := Rect.hasCell_iff.mp drawable.hasCell
  have column := scaled_lt drawable.wide wide falls.inGrid.1
  have row := scaled_lt drawable.tall tall falls.inGrid.2
  constructor
  · rw [falls.column, Rect.right]
    omega
  · rw [falls.row, Rect.bottom]
    omega

/-- A pixel falls on each cell of a canvas that is not larger than the resolution. -/
theorem exists_fallsOn (wide : 2 ≤ r.width) (tall : 2 ≤ r.height)
    (columns : canvas.width ≤ r.width) (rows : canvas.height ≤ r.height)
    (has : canvas.Has cell.1 cell.2) : ∃ pixel, FallsOn r canvas pixel cell := by
  obtain ⟨isColumn, isRow⟩ := has
  rw [Rect.right] at isColumn
  rw [Rect.bottom] at isRow
  have inColumns : cell.1 - canvas.x < canvas.width := by omega
  have inRows : cell.2 - canvas.y < canvas.height := by omega
  obtain ⟨x, inWidth, column⟩ := exists_scaled_eq wide columns inColumns
  obtain ⟨y, inHeight, row⟩ := exists_scaled_eq tall rows inRows
  exact ⟨(x, y), ⟨inWidth, inHeight⟩, by rw [column]; omega, by rw [row]; omega⟩

/-- On a canvas of the size of the resolution each pixel has a cell of its own. -/
theorem fallsOn_iff (wide : 2 ≤ r.width) (tall : 2 ≤ r.height) (columns : canvas.width = r.width)
    (rows : canvas.height = r.height) {x y : Nat} (inWidth : x < r.width)
    (inHeight : y < r.height) :
    FallsOn r canvas pixel (canvas.x + x, canvas.y + y) ↔ pixel = (x, y) := by
  constructor
  · rintro ⟨-, column, row⟩
    rw [columns, scaled_self wide] at column
    rw [rows, scaled_self tall] at row
    exact Prod.ext (by omega) (by omega)
  · rintro rfl
    exact ⟨⟨inWidth, inHeight⟩, by rw [columns, scaled_self wide], by rw [rows, scaled_self tall]⟩

variable {plane : Array Point} {chosen : Nat × Nat → Bool}
  (isPlane : plane.toList = ((pixels r).filter chosen).map point)
include isPlane

/-- A plane of some of the machine pixels covers the cells on which those fall. -/
theorem mem_cells_iff :
    cell ∈ plane.toList.filterMap (cellOf? r canvas) ↔
      Drawable r canvas ∧ ∃ pixel, chosen pixel = true ∧ FallsOn r canvas pixel cell := by
  rw [isPlane, List.mem_filterMap]
  constructor
  · rintro ⟨_, member, onCell⟩
    obtain ⟨pixel, isChosen, rfl⟩ := List.mem_map.mp member
    obtain ⟨inGrid, isChosen⟩ := List.mem_filter.mp isChosen
    obtain ⟨drawable, falls⟩ := (cellOf?_point_eq_some_iff inGrid).mp onCell
    exact ⟨drawable, pixel, isChosen, falls⟩
  · rintro ⟨drawable, pixel, isChosen, falls⟩
    have inGrid := mem_pixels.mpr falls.inGrid
    exact ⟨point pixel, List.mem_map_of_mem (List.mem_filter.mpr ⟨inGrid, isChosen⟩),
      (cellOf?_point_eq_some_iff inGrid).mpr ⟨drawable, falls⟩⟩

theorem drawnIn_putPlane (colour : Colour) (s : Sheet) :
    Sheet.DrawnIn canvas s (putPlane r canvas plane colour s) := by
  refine .modifyAll (fun place member => ?_) _ s
  obtain ⟨drawable, pixel, -, falls⟩ := (mem_cells_iff isPlane).mp member
  exact falls.has drawable

end Falling

/-- The block in a colour. -/
def block (colour : Colour) : Tile := ⟨.narrow '▄', { fg := some colour }⟩

theorem pixelTile_of_plain {tile : Tile} (plain : tile.Plain) (colour : Colour) :
    pixelTile colour tile = block colour := by
  simp only [pixelTile, block, plain.style]

theorem pixelTile_pixelTile (colour : Colour) (tile : Tile) :
    pixelTile colour (pixelTile colour tile) = pixelTile colour tile := rfl

theorem plain_pixelTile {tile : Tile} (plain : tile.Plain) (colour : Colour) :
    (pixelTile colour tile).Plain := ⟨⟨'▄', rfl⟩, plain.style⟩

section Picture

variable {p : Painter} {raster : Raster} {earlier : Planes} {box : Rect} {s : Sheet}

/-- The sheet under the pixels: the picture's box on its background. -/
def backdrop (p : Painter) (box : Rect) (s : Sheet) : Sheet :=
  (s.fillBackground box p.off).box box "CHIP-8"

theorem drawnIn_backdrop (hasCell : box.hasCell = true) (s : Sheet) :
    Sheet.DrawnIn box s (backdrop p box s) :=
  (Sheet.DrawnIn.fillBackground box p.off s).trans (.box hasCell "CHIP-8" _)

theorem plain_backdrop (plain : s.Each fun _ => Tile.Plain) :
    (backdrop p box s).Each fun _ => Tile.Plain :=
  (plain.modifyAll (fun _ _ plain => ⟨plain.glyph, plain.style⟩) _).box
    (fun _ _ c plain => ⟨⟨c, rfl⟩, plain.style⟩) _ _

/-- The picture leaves plain tiles, whatever its planes are. -/
theorem plain_picture (planes : Planes) (plain : s.Each fun _ => Tile.Plain) :
    (picture p planes box s).Each fun _ => Tile.Plain :=
  ((plain_backdrop plain).modifyAll (fun _ _ plain => plain_pixelTile plain _) _).modifyAll
    (fun _ _ plain => plain_pixelTile plain _) _

/-- The picture changes no tile outside its box. -/
theorem drawnIn_picture (hasCell : box.hasCell = true) (s : Sheet) :
    Sheet.DrawnIn box s (picture p (planes p raster earlier) box s) := by
  have inBox {s t : Sheet} (drawn : Sheet.DrawnIn box.inner s t) : Sheet.DrawnIn box s t :=
    ⟨drawn.width, drawn.height, fun other => drawn.outside fun has =>
      other (Rect.has_of_has_inner has)⟩
  exact (drawnIn_backdrop hasCell s).trans <|
    (inBox (drawnIn_putPlane (unlit_planes p raster earlier) p.off _)).trans
      (inBox (drawnIn_putPlane (lit_planes p raster earlier) p.on _))

section OnCell

variable (plain : s.Each fun _ => Tile.Plain) (drawable : Drawable p.resolution box.inner)
  {x y : Nat}
include plain drawable

/-- A cell of the picture as it is under the lit pixels: the block in the off colour if an unlit
pixel falls on it, and a plain tile anyway. -/
theorem cell?_under_lit (inSheet : (s.cell? x y).isSome) :
    ∃ tile, tile.Plain ∧
      (putPlane p.resolution box.inner (planes p raster earlier).unlit p.off
        (backdrop p box s)).cell? x y = some tile ∧
      ((∃ pixel, isLit p raster pixel = false ∧ FallsOn p.resolution box.inner pixel (x, y)) →
        tile = block p.off) := by
  have whole : box.hasCell = true := by
    obtain ⟨wide, tall⟩ := Rect.hasCell_iff.mp drawable.hasCell
    simp only [Rect.inner] at wide tall
    exact Rect.hasCell_iff.mpr ⟨by omega, by omega⟩
  have drawn := drawnIn_backdrop (p := p) whole s
  rw [Grid.isSome_cell?, ← drawn.width, ← drawn.height, ← Grid.isSome_cell?] at inSheet
  obtain ⟨old, isOld⟩ := Option.isSome_iff_exists.mp inSheet
  have plainOld := plain_backdrop plain x y old isOld
  rw [putPlane, Grid.cell?_modifyAll (pixelTile_pixelTile p.off), isOld]
  split
  next => exact ⟨_, plain_pixelTile plainOld p.off, rfl, fun _ => pixelTile_of_plain plainOld p.off⟩
  next uncovered =>
    refine ⟨old, plainOld, rfl, ?_⟩
    rintro ⟨pixel, isUnlit, falls⟩
    have covered := (mem_cells_iff (unlit_planes p raster earlier)).mpr
      ⟨drawable, pixel, by rw [isUnlit]; rfl, falls⟩
    exact absurd covered uncovered

/-- A cell on which a lit pixel falls is a block in the on colour. -/
theorem cell?_picture_of_lit (inSheet : (s.cell? x y).isSome) {pixel : Nat × Nat}
    (falls : FallsOn p.resolution box.inner pixel (x, y)) (lit : isLit p raster pixel = true) :
    (picture p (planes p raster earlier) box s).cell? x y = some (block p.on) := by
  obtain ⟨tile, plainTile, isTile, -⟩ := cell?_under_lit plain drawable inSheet
  have covered := (mem_cells_iff (lit_planes p raster earlier)).mpr ⟨drawable, pixel, lit, falls⟩
  have drawn : (picture p (planes p raster earlier) box s).cell? x y =
      some (pixelTile p.on tile) := by
    refine (Grid.cell?_modifyAll (pixelTile_pixelTile p.on) _ _ x y).trans ?_
    rw [if_pos covered]
    exact congrArg (Option.map (pixelTile p.on)) isTile
  rw [drawn, pixelTile_of_plain plainTile]

/-- A cell on which unlit pixels fall, and no other ones, is a block in the off colour. -/
theorem cell?_picture_of_unlit (inSheet : (s.cell? x y).isSome) {pixel : Nat × Nat}
    (falls : FallsOn p.resolution box.inner pixel (x, y))
    (unlit : ∀ other, FallsOn p.resolution box.inner other (x, y) → isLit p raster other = false) :
    (picture p (planes p raster earlier) box s).cell? x y = some (block p.off) := by
  obtain ⟨tile, -, isTile, isBlock⟩ := cell?_under_lit plain drawable inSheet
  have uncovered : (x, y) ∉ (planes p raster earlier).lit.toList.filterMap
      (cellOf? p.resolution box.inner) := by
    intro covered
    obtain ⟨-, other, lit, falls⟩ := (mem_cells_iff (lit_planes p raster earlier)).mp covered
    rw [unlit other falls] at lit
    cases lit
  refine (Grid.cell?_modifyAll (pixelTile_pixelTile p.on) _ _ x y).trans ?_
  rw [if_neg uncovered, ← isBlock ⟨pixel, unlit pixel falls, falls⟩]
  exact isTile

end OnCell

end Picture

end Scene

end HexPlayer.Terminal
