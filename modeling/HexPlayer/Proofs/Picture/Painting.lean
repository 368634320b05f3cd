import HexPlayer.Picture.Painter
import Mathlib.Data.List.Induction

/-!
# The picture of a frame

The squares of a frame tile the picture: a device pixel of the picture lies in the square of one
byte alone, the one at `index`. A raster is therefore repainted all over, whatever was on it before,
and `pixel?_repaint` gives the colour of each pixel afterwards.
-/

namespace HexPlayer

/-- The device pixel lies in the square. -/
def Square.Covers (q : Square) (x y : Nat) : Prop :=
  q.x ≤ x ∧ x < q.x + q.side ∧ q.y ≤ y ∧ y < q.y + q.side

namespace Raster

/-- Paint squares one after the other. -/
def paintAll (squares : List Square) (r : Raster) : Raster :=
  squares.foldl (fun r q => r.paint q) r

@[simp]
theorem width_paintAll (squares : List Square) (r : Raster) :
    (r.paintAll squares).width = r.width := by
  induction squares generalizing r with
  | nil => rfl
  | cons q rest ih => exact ih (r.paint q)

@[simp]
theorem height_paintAll (squares : List Square) (r : Raster) :
    (r.paintAll squares).height = r.height := by
  induction squares generalizing r with
  | nil => rfl
  | cons q rest ih => exact ih (r.paint q)

/-- The pixels of a raster are those within its width and height. -/
theorem isSome_pixel? (r : Raster) (x y : Nat) :
    (r.pixel? x y).isSome ↔ x < r.width ∧ y < r.height := by
  unfold pixel?
  by_cases inside : x < r.width ∧ y < r.height
  · have row := Nat.mul_le_mul_right r.width (Nat.succ_le_of_lt inside.2)
    rw [Nat.succ_mul, Nat.mul_comm r.height] at row
    have bound : y * r.width + x < r.pixels.size := by
      rw [r.size_eq]
      omega
    rw [if_pos inside, Array.getElem?_eq_getElem bound]
    exact iff_of_true rfl inside
  · rw [if_neg inside]
    exact iff_of_false Bool.false_ne_true inside

theorem pixel?_paint_of_not_covers (r : Raster) {q : Square} {x y : Nat}
    (outside : ¬ q.Covers x y) : (r.paint q).pixel? x y = r.pixel? x y := by
  rw [pixel?_paint]
  exact if_neg fun inside => outside inside.2.2

/-- A square gives its colour to those of its pixels that lie on the raster. -/
theorem pixel?_paint_of_covers (r : Raster) {q : Square} {x y : Nat} (inside : q.Covers x y) :
    (r.paint q).pixel? x y = (r.pixel? x y).map fun _ => q.colour := by
  rw [pixel?_paint]
  by_cases onRaster : x < r.width ∧ y < r.height
  · obtain ⟨old, pixel⟩ := Option.isSome_iff_exists.mp ((r.isSome_pixel? x y).mpr onRaster)
    rw [if_pos ⟨onRaster.1, onRaster.2, inside⟩, pixel, Option.map_some]
  · have noPixel : r.pixel? x y = none :=
      Option.not_isSome_iff_eq_none.mp fun isSome => onRaster ((r.isSome_pixel? x y).mp isSome)
    rw [if_neg fun covered => onRaster ⟨covered.1, covered.2.1⟩, noPixel, Option.map_none]

/-- A pixel outside all squares is as it was. -/
theorem pixel?_paintAll_of_not_covers {squares : List Square} {x y : Nat}
    (outside : ∀ q ∈ squares, ¬ q.Covers x y) (r : Raster) :
    (r.paintAll squares).pixel? x y = r.pixel? x y := by
  induction squares generalizing r with
  | nil => rfl
  | cons q rest ih =>
    have later := ih (fun q member => outside q (List.mem_cons_of_mem _ member)) (r.paint q)
    exact later.trans (r.pixel?_paint_of_not_covers (outside q List.mem_cons_self))

/-- Squares that agree on a pixel of theirs give it their colour. -/
theorem pixel?_paintAll_of_covers {squares : List Square} {x y : Nat} {colour : Colour}
    (inside : ∃ q ∈ squares, q.Covers x y)
    (agree : ∀ q ∈ squares, q.Covers x y → q.colour = colour) (r : Raster) :
    (r.paintAll squares).pixel? x y = (r.pixel? x y).map fun _ => colour := by
  induction squares generalizing r with
  | nil => simp at inside
  | cons q rest ih =>
    have agreeLater := fun q member => agree q (List.mem_cons_of_mem _ member)
    have first : (r.paintAll (q :: rest)) = (r.paint q).paintAll rest := rfl
    rw [first]
    -- the last square over the pixel decides, and all of them agree
    by_cases later : ∃ q ∈ rest, q.Covers x y
    · rw [ih later agreeLater]
      by_cases now : q.Covers x y
      · rw [pixel?_paint_of_covers r now, Option.map_map]
        rfl
      · rw [pixel?_paint_of_not_covers r now]
    · have now : q.Covers x y := by
        obtain ⟨p, member, covers⟩ := inside
        rcases List.mem_cons.mp member with rfl | member
        · exact covers
        · exact absurd ⟨p, member, covers⟩ later
      have uncovered : ∀ q ∈ rest, ¬ q.Covers x y := fun q member covers =>
        later ⟨q, member, covers⟩
      rw [pixel?_paintAll_of_not_covers uncovered, pixel?_paint_of_covers r now,
        agree q List.mem_cons_self now]

end Raster

namespace Painter

variable (p : Painter)

/-- The index of the byte that a device pixel of the picture shows. -/
def index (x y : Nat) : Nat := y / p.scale * p.resolution.width + x / p.scale

/-- The device pixel belongs to the picture. -/
def InPicture (x y : Nat) : Prop :=
  x < p.resolution.width * p.scale ∧ y < p.resolution.height * p.scale

instance (x y : Nat) : Decidable (p.InPicture x y) := inferInstanceAs (Decidable (_ ∧ _))

/-- The raster after a frame was rendered onto it; a frame of the wrong size leaves it alone. -/
def repaint (r : Raster) (frame : Frame) : Raster :=
  match p.render frame r with
  | .ok painted => painted.surface
  | .error _ => r

/-- Each device pixel of the picture lies in the square of its index, and only in that one. -/
theorem covers_square_iff {i : Nat} (inFrame : i < p.resolution.area) (byte : UInt8) (x y : Nat) :
    (p.square i byte).Covers x y ↔ p.InPicture x y ∧ i = p.index x y := by
  have width_pos : 0 < p.resolution.width := by
    refine Nat.pos_of_ne_zero fun none => ?_
    rw [Resolution.area, none, Nat.zero_mul] at inFrame
    exact Nat.not_lt_zero i inFrame
  -- a square spans the device pixels whose quotients by the scale are its column and its row
  have spanned (k z : Nat) : k * p.scale ≤ z ∧ z < k * p.scale + p.scale ↔ k = z / p.scale := by
    rw [eq_comm, Nat.div_eq_iff p.scale_pos]
    have scale_pos := p.scale_pos
    omega
  have quotients : (p.square i byte).Covers x y ↔
      i / p.resolution.width = y / p.scale ∧ i % p.resolution.width = x / p.scale := by
    rw [← spanned, ← spanned]
    simp only [Square.Covers, square]
    omega
  rw [quotients, Nat.div_mod_unique width_pos, Nat.div_lt_iff_lt_mul p.scale_pos, InPicture, index,
    Nat.mul_comm p.resolution.width (y / p.scale)]
  constructor
  · intro covered
    obtain ⟨isIndex, column⟩ := covered
    refine ⟨⟨column, ?_⟩, by omega⟩
    rw [← Nat.div_lt_iff_lt_mul p.scale_pos]
    have before : y / p.scale * p.resolution.width ≤ i := isIndex ▸ Nat.le_add_left ..
    have below := Nat.lt_of_le_of_lt before inFrame
    rw [Resolution.area, Nat.mul_comm p.resolution.width] at below
    exact Nat.lt_of_mul_lt_mul_right below
  · intro shown
    obtain ⟨⟨column, -⟩, isIndex⟩ := shown
    exact ⟨by omega, column⟩

/-- The index of a pixel of the picture is within the frame. -/
theorem index_lt_area {x y : Nat} (inPicture : p.InPicture x y) :
    p.index x y < p.resolution.area := by
  have column := (Nat.div_lt_iff_lt_mul p.scale_pos).mpr inPicture.1
  have row := (Nat.div_lt_iff_lt_mul p.scale_pos).mpr inPicture.2
  calc p.index x y
      < y / p.scale * p.resolution.width + p.resolution.width := Nat.add_lt_add_left column _
    _ = (y / p.scale + 1) * p.resolution.width := (Nat.succ_mul ..).symm
    _ ≤ p.resolution.height * p.resolution.width := Nat.mul_le_mul_right _ row
    _ = p.resolution.area := Nat.mul_comm ..

theorem repaint_of_size_ne (r : Raster) {frame : Frame} (wrong : frame.size ≠ p.resolution.area) :
    p.repaint r frame = r := by
  simp [repaint, render, wrong]

theorem repaint_of_size_eq (r : Raster) {frame : Frame} (fits : frame.size = p.resolution.area) :
    p.repaint r frame = r.paintAll (frame.toList.mapIdx p.square) := by
  simp only [repaint, render, fits, if_true, Raster.paintAll, squares, ← Array.foldl_toList,
    Array.toList_mapIdx]
  rfl

@[simp]
theorem width_repaint (r : Raster) (frame : Frame) : (p.repaint r frame).width = r.width := by
  by_cases fits : frame.size = p.resolution.area
  · rw [p.repaint_of_size_eq r fits, Raster.width_paintAll]
  · rw [p.repaint_of_size_ne r fits]

@[simp]
theorem height_repaint (r : Raster) (frame : Frame) : (p.repaint r frame).height = r.height := by
  by_cases fits : frame.size = p.resolution.area
  · rw [p.repaint_of_size_eq r fits, Raster.height_paintAll]
  · rw [p.repaint_of_size_ne r fits]

/-- A frame of the right size gives each pixel of the picture the colour of its byte, and leaves the
others on the raster as they were. -/
theorem pixel?_repaint (r : Raster) {frame : Frame} (fits : frame.size = p.resolution.area)
    (x y : Nat) :
    (p.repaint r frame).pixel? x y =
      if p.InPicture x y then
        (r.pixel? x y).map fun _ => if frame[p.index x y]? = some 1 then p.on else p.off
      else r.pixel? x y := by
  rw [p.repaint_of_size_eq r fits]
  have isSquare (q : Square) : q ∈ frame.toList.mapIdx p.square ↔
      ∃ i, ∃ inFrame : i < frame.size, q = p.square i frame[i] := by
    simp [List.mem_mapIdx, eq_comm]
  by_cases inPicture : p.InPicture x y
  · rw [if_pos inPicture]
    have inFrame : p.index x y < frame.size := by
      rw [fits]
      exact p.index_lt_area inPicture
    have byte : frame[p.index x y]? = some frame[p.index x y] := Array.getElem?_eq_getElem inFrame
    apply Raster.pixel?_paintAll_of_covers
    · refine ⟨_, (isSquare _).mpr ⟨p.index x y, inFrame, rfl⟩, ?_⟩
      exact (p.covers_square_iff (fits ▸ inFrame) _ x y).mpr ⟨inPicture, rfl⟩
    · intro q member covers
      obtain ⟨i, inFrame, rfl⟩ := (isSquare q).mp member
      obtain rfl := ((p.covers_square_iff (fits ▸ inFrame) _ x y).mp covers).2
      rw [byte, square, colour]
      simp only [Option.some.injEq]
  · rw [if_neg inPicture]
    apply Raster.pixel?_paintAll_of_not_covers
    intro q member covers
    obtain ⟨i, inFrame, rfl⟩ := (isSquare q).mp member
    exact inPicture ((p.covers_square_iff (fits ▸ inFrame) _ x y).mp covers).1

/-- The raster is the picture of a frame, or blank where no frame is. -/
structure Depicts (shown : Option Frame) (r : Raster) : Prop where
  width : r.width = p.resolution.width * p.scale
  height : r.height = p.resolution.height * p.scale
  pixel : ∀ x y, p.InPicture x y → r.pixel? x y =
    some (if (shown.bind fun frame => frame[p.index x y]?) = some 1 then p.on else p.off)

variable {p}

theorem depicts_blankRaster : p.Depicts none p.blankRaster where
  width := rfl
  height := rfl
  pixel x y inPicture := by
    rw [blankRaster, Raster.pixel?_blank]
    exact if_pos inPicture

/-- Nothing of the old picture is left when a frame of the right size is painted over it. -/
theorem Depicts.repaint {shown : Option Frame} {r : Raster} (depicts : p.Depicts shown r)
    {frame : Frame} (fits : frame.size = p.resolution.area) :
    p.Depicts (some frame) (p.repaint r frame) where
  width := (p.width_repaint r frame).trans depicts.width
  height := (p.height_repaint r frame).trans depicts.height
  pixel x y inPicture := by
    rw [p.pixel?_repaint r fits, if_pos inPicture, depicts.pixel x y inPicture]
    rfl

/-- After any frames the raster is the picture of the last one that has the right size. -/
theorem depicts_foldl_repaint (frames : List Frame) :
    p.Depicts (frames.filter fun frame => frame.size = p.resolution.area).getLast?
      (frames.foldl p.repaint p.blankRaster) := by
  induction frames using List.reverseRecOn with
  | nil => exact depicts_blankRaster
  | append_singleton earlier frame ih =>
    rw [List.filter_append, List.foldl_append, List.foldl_cons, List.foldl_nil]
    by_cases fits : frame.size = p.resolution.area
    · simpa [fits] using ih.repaint fits
    · simpa [fits, p.repaint_of_size_ne _ fits] using ih

end Painter

end HexPlayer
