import HexPlayer.Proofs.Picture.Rendering
import HexPlayer.Terminal.Scene

/-!
# Sampling a rendered raster

The scene reads one device pixel of each square that the painter paints. Both count the squares row
by row at one scale, so that the planes of a rendered raster tell the bytes of the frame again:
`planes_of_rendered`. What the planes held before plays no part.
-/

namespace HexPlayer.Terminal

/-- The order of the rows, and within one row of the columns. -/
def Point.Before (a b : Point) : Prop := b.y < a.y ∨ b.y = a.y ∧ a.x < b.x

theorem Point.not_before_self (a : Point) : ¬ a.Before a := by
  unfold Before
  omega

/-- Points in their order are all different. -/
theorem Point.nodup_of_pairwise_before {points : List Point} (ordered : points.Pairwise Before) :
    points.Nodup := by
  refine ordered.imp fun {a b} before same => ?_
  subst same
  exact a.not_before_self before

namespace Scene

theorem mem_pixels {r : Resolution} {pixel : Nat × Nat} :
    pixel ∈ pixels r ↔ pixel.1 < r.width ∧ pixel.2 < r.height := by
  obtain ⟨x, y⟩ := pixel
  simp only [pixels, List.mem_flatMap, List.mem_map, List.mem_range, Prod.mk.injEq]
  constructor
  · rintro ⟨row, isRow, column, isColumn, rfl, rfl⟩
    exact ⟨isColumn, isRow⟩
  · rintro ⟨isColumn, isRow⟩
    exact ⟨y, isRow, x, isColumn, rfl, rfl⟩

/-- The machine pixels come row by row. -/
theorem pairwise_pixels (r : Resolution) :
    (pixels r).Pairwise fun a b => (point a).Before (point b) := by
  rw [pixels, List.pairwise_flatMap]
  constructor
  · intro y _
    rw [List.pairwise_map]
    refine List.pairwise_lt_range.imp fun {x x'} left => ?_
    exact .inr ⟨rfl, Int.ofNat_lt.mpr left⟩
  · refine List.pairwise_lt_range.imp fun {y y'} above a inRow b inRow' => ?_
    obtain ⟨x, -, rfl⟩ := List.mem_map.mp inRow
    obtain ⟨x', -, rfl⟩ := List.mem_map.mp inRow'
    exact .inl (Int.neg_lt_neg (Int.ofNat_lt.mpr above))

/-- Sorting puts the points behind those that the planes hold. -/
theorem foldl_add (isLit : Nat × Nat → Bool) (pixels : List (Nat × Nat)) (planes : Planes) :
    let sorted := pixels.foldl (fun planes pixel => planes.add (isLit pixel) (point pixel)) planes
    sorted.lit.toList = planes.lit.toList ++ (pixels.filter isLit).map point ∧
      sorted.unlit.toList =
        planes.unlit.toList ++ (pixels.filter fun pixel => !isLit pixel).map point := by
  induction pixels generalizing planes with
  | nil => simp
  | cons pixel rest ih =>
    obtain ⟨lit, unlit⟩ := ih (planes.add (isLit pixel) (point pixel))
    simp only [List.foldl_cons, lit, unlit]
    cases now : isLit pixel <;> simp [Planes.add, now]

theorem lit_planes (p : Painter) (raster : Raster) (earlier : Planes) :
    (planes p raster earlier).lit.toList =
      ((pixels p.resolution).filter (isLit p raster)).map point := by
  refine (foldl_add (isLit p raster) (pixels p.resolution) earlier.clear).1.trans ?_
  simp [Planes.clear]

theorem unlit_planes (p : Painter) (raster : Raster) (earlier : Planes) :
    (planes p raster earlier).unlit.toList =
      ((pixels p.resolution).filter fun pixel => !isLit p raster pixel).map point := by
  refine (foldl_add (isLit p raster) (pixels p.resolution) earlier.clear).2.trans ?_
  simp [Planes.clear]

/-- Points of some of the machine pixels come row by row. -/
theorem pairwise_map_point_filter (r : Resolution) (chosen : Nat × Nat → Bool) :
    (((pixels r).filter chosen).map point).Pairwise Point.Before :=
  List.pairwise_map.mpr ((pairwise_pixels r).filter chosen)

/-- A machine pixel of a rendered raster is lit if and only if its byte is one. -/
theorem isLit_repaint (p : Painter) (distinct : p.on ≠ p.off) {frame : Frame}
    (fits : frame.size = p.resolution.area) {r : Raster}
    (width : r.width = p.resolution.width * p.scale)
    (height : r.height = p.resolution.height * p.scale) {x y : Nat}
    (column : x < p.resolution.width) (row : y < p.resolution.height) :
    isLit p (p.repaint r frame) (x, y) = true ↔ frame[y * p.resolution.width + x]? = some 1 := by
  have inPicture : p.InPicture (x * p.scale) (y * p.scale) :=
    ⟨Nat.mul_lt_mul_of_pos_right column p.scale_pos, Nat.mul_lt_mul_of_pos_right row p.scale_pos⟩
  have pixel := p.pixel?_repaint_of_inPicture r fits (width ▸ inPicture.1) (height ▸ inPicture.2)
    inPicture
  have isIndex : p.index (x * p.scale) (y * p.scale) = y * p.resolution.width + x := by
    rw [Painter.index, Nat.mul_div_cancel _ p.scale_pos, Nat.mul_div_cancel _ p.scale_pos]
  rw [isIndex] at pixel
  rw [isLit, decide_eq_true_iff, pixel, Option.some.injEq]
  by_cases isOn : frame[y * p.resolution.width + x]? = some 1
  · rw [if_pos isOn]
    exact iff_of_true rfl isOn
  · rw [if_neg isOn]
    exact iff_of_false distinct.symm isOn

/-- Sampling undoes rendering. Of a frame of the right size that was rendered onto a raster of the
picture's size, in two different colours, the lit plane has the points of the bytes that are one
and the unlit plane has all others of the grid. Both are in the order of the rows and without
duplicates, whatever the raster and the planes held before. -/
theorem planes_of_rendered (resolution : Resolution) (pixelSize : Nat) {on off : Colour}
    (distinct : on ≠ off) {frame : Frame} (fits : frame.size = resolution.width * resolution.height)
    {r : Raster} (width : r.width = resolution.width * max pixelSize 1)
    (height : r.height = resolution.height * max pixelSize 1) (earlier : Planes) :
    let p := Painter.ofPixelSize resolution pixelSize on off
    ∃ painted, p.render frame r = .ok painted ∧
      let sampled := planes p painted.surface earlier
      (∀ a, a ∈ sampled.lit ↔ ∃ x y, x < resolution.width ∧ y < resolution.height ∧
        a = ⟨x, -y⟩ ∧ frame[y * resolution.width + x]? = some 1) ∧
      (∀ a, a ∈ sampled.unlit ↔ ∃ x y, x < resolution.width ∧ y < resolution.height ∧
        a = ⟨x, -y⟩ ∧ frame[y * resolution.width + x]? ≠ some 1) ∧
      (sampled.lit.toList.Pairwise Point.Before ∧ sampled.unlit.toList.Pairwise Point.Before) ∧
      sampled.lit.toList.Nodup ∧ sampled.unlit.toList.Nodup := by
  intro p
  refine ⟨_, p.render_of_size_eq r fits, ?_⟩
  intro sampled
  have lit := lit_planes p (p.repaint r frame) earlier
  have unlit := unlit_planes p (p.repaint r frame) earlier
  have litOrdered : sampled.lit.toList.Pairwise Point.Before :=
    lit ▸ pairwise_map_point_filter resolution _
  have unlitOrdered : sampled.unlit.toList.Pairwise Point.Before :=
    unlit ▸ pairwise_map_point_filter resolution _
  have isOn {pixel : Nat × Nat} (inGrid : pixel ∈ pixels resolution) :=
    isLit_repaint p distinct fits width height (mem_pixels.mp inGrid).1 (mem_pixels.mp inGrid).2
  refine ⟨fun a => ?_, fun a => ?_, ⟨litOrdered, unlitOrdered⟩,
    Point.nodup_of_pairwise_before litOrdered, Point.nodup_of_pairwise_before unlitOrdered⟩
  · rw [← Array.mem_toList_iff, lit, List.mem_map]
    constructor
    · rintro ⟨pixel, member, rfl⟩
      obtain ⟨inGrid, isLit⟩ := List.mem_filter.mp member
      obtain ⟨column, row⟩ := mem_pixels.mp inGrid
      exact ⟨pixel.1, pixel.2, column, row, rfl, (isOn inGrid).mp isLit⟩
    · rintro ⟨x, y, column, row, rfl, byte⟩
      have inGrid : (x, y) ∈ pixels resolution := mem_pixels.mpr ⟨column, row⟩
      exact ⟨(x, y), List.mem_filter.mpr ⟨inGrid, (isOn inGrid).mpr byte⟩, rfl⟩
  · rw [← Array.mem_toList_iff, unlit, List.mem_map]
    constructor
    · rintro ⟨pixel, member, rfl⟩
      obtain ⟨inGrid, isUnlit⟩ := List.mem_filter.mp member
      obtain ⟨column, row⟩ := mem_pixels.mp inGrid
      refine ⟨pixel.1, pixel.2, column, row, rfl, fun byte => ?_⟩
      rw [(isOn inGrid).mpr byte] at isUnlit
      cases isUnlit
    · rintro ⟨x, y, column, row, rfl, byte⟩
      have inGrid : (x, y) ∈ pixels resolution := mem_pixels.mpr ⟨column, row⟩
      have isUnlit : isLit p (p.repaint r frame) (x, y) = false :=
        Bool.eq_false_iff.mpr fun isLit => byte ((isOn inGrid).mp isLit)
      exact ⟨(x, y), List.mem_filter.mpr ⟨inGrid, by rw [isUnlit]; rfl⟩, rfl⟩

/-- With a side of zero, which counts as one, a stray byte is unlit, and points that were left over
from before are gone. -/
theorem planes_of_checked :
    let p := Painter.ofPixelSize ⟨3, 2⟩ 0 .white .black
    let frame : Frame := #[1, 0, 7, 0, 1, 0]
    let r := Raster.blank 3 2 .white
    let earlier : Planes := ⟨#[⟨9, 9⟩], #[⟨1, -1⟩]⟩
    Colour.white ≠ Colour.black ∧ frame.size = 3 * 2 ∧
      r.width = 3 * max 0 1 ∧ r.height = 2 * max 0 1 ∧
      ∃ painted, p.render frame r = .ok painted ∧
        ⟨1, -1⟩ ∈ (planes p painted.surface earlier).lit ∧
        ⟨9, 9⟩ ∉ (planes p painted.surface earlier).lit ∧
        ⟨2, 0⟩ ∈ (planes p painted.surface earlier).unlit ∧
        ⟨1, -1⟩ ∉ (planes p painted.surface earlier).unlit := by
  intro p frame r earlier
  have distinct : Colour.white ≠ Colour.black := by decide
  have fits : frame.size = 3 * 2 := rfl
  obtain ⟨painted, isPainted, lit, unlit, -⟩ :=
    planes_of_rendered ⟨3, 2⟩ 0 distinct fits (r := r) rfl rfl earlier
  refine ⟨distinct, fits, rfl, rfl, painted, isPainted, ?_, ?_, ?_, ?_⟩
  · exact (lit _).mpr ⟨1, 1, by decide, by decide, rfl, by decide⟩
  · intro stale
    obtain ⟨x, y, column, -, isPoint, -⟩ := (lit _).mp stale
    have atNine := congrArg Point.x isPoint
    dsimp only at atNine column
    omega
  · exact (unlit _).mpr ⟨2, 0, by decide, by decide, rfl, by decide⟩
  · intro stale
    obtain ⟨x, y, -, -, isPoint, byte⟩ := (unlit _).mp stale
    have isColumn := congrArg Point.x isPoint
    have isRow := congrArg Point.y isPoint
    obtain rfl : x = 1 := by
      dsimp only at isColumn
      omega
    obtain rfl : y = 1 := by
      dsimp only at isRow
      omega
    exact byte (by decide)

end Scene

end HexPlayer.Terminal
