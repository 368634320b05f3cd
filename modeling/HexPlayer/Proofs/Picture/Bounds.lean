import HexPlayer.Proofs.Picture.Clipping
import HexPlayer.Proofs.Picture.Rendering
import HexPlayer.Proofs.Picture.Tiling

/-!
# Rendering in words

The size of a raster is computed in words of 64 bits before the raster is made, and so is every
square that a frame puts on it. `renderInWords` is the rendering of a frame with all that may stop
it. `render_in_words` says that nothing does on a raster of the size of the picture: the numbers
that were computed for the raster bound all others.
-/

namespace HexPlayer

/-- Quotient and remainder. -/
def divMod (n divisor : Nat) : Except Trap (Nat × Nat) :=
  if divisor = 0 then .error .zeroDivisor else .ok (n / divisor, n % divisor)

theorem divMod_of_pos (n : Nat) {divisor : Nat} (pos : 0 < divisor) :
    divMod n divisor = .ok (n / divisor, n % divisor) := if_neg (Nat.ne_of_gt pos)

namespace Painter

variable (p : Painter)

/-- A raster of the size of the picture in the off colour, in words. -/
def blankInWords : Except Trap Raster := do
  let width ← word (p.resolution.width * p.scale)
  let height ← word (p.resolution.height * p.scale)
  let _ ← word (width * height)
  return .blank width height p.off

/-- The square of the byte at an index of the frame, in words. -/
def squareInWords (index : Nat) (byte : UInt8) : Except Trap Square := do
  let (row, column) ← divMod index p.resolution.width
  let x ← word (column * p.scale)
  let y ← word (row * p.scale)
  return ⟨x, y, p.scale, p.colour byte⟩

/-- Paint the squares of a frame onto a raster, in words. -/
def paintFrameInWords (frame : Frame) (r : Raster) : Except Trap Raster :=
  frame.toList.zipIdx.foldlM
    (fun painted (byte, index) => do painted.paintInWords (← p.squareInWords index byte)) r

/-- Paint the whole frame onto a raster, or refuse a frame of the wrong size, in words. The number
of stray bytes addresses nothing, and is taken as `render` takes it. -/
def renderInWords (frame : Frame) (r : Raster) :
    Except Trap (Except FrameMismatch (Painted Raster)) := do
  let area ← word (p.resolution.width * p.resolution.height)
  if frame.size = area then
    let surface ← p.paintFrameInWords frame r
    return .ok ⟨surface, frame.countP isStray⟩
  else
    return .error ⟨area, frame.size⟩

/-- The device pixels of the picture are counted in words, along each side and in all. -/
structure Addressable : Prop where
  columns : p.resolution.width * p.scale < UInt64.size
  rows : p.resolution.height * p.scale < UInt64.size
  pixels : p.resolution.width * p.scale * (p.resolution.height * p.scale) < UInt64.size

variable {p}

theorem width_pos_of_lt_area {i : Nat} (inFrame : i < p.resolution.area) :
    0 < p.resolution.width :=
  Nat.pos_of_mul_pos_right (Nat.zero_lt_of_lt inFrame)

/-- The square of a byte ends within the picture. -/
theorem square_within {i : Nat} (inFrame : i < p.resolution.area) (byte : UInt8) :
    (p.square i byte).x + (p.square i byte).side ≤ p.resolution.width * p.scale ∧
      (p.square i byte).y + (p.square i byte).side ≤ p.resolution.height * p.scale := by
  have column : i % p.resolution.width < p.resolution.width :=
    Nat.mod_lt i (width_pos_of_lt_area inFrame)
  have row : i / p.resolution.width < p.resolution.height := Nat.div_lt_of_lt_mul inFrame
  constructor
  · calc i % p.resolution.width * p.scale + p.scale
        = (i % p.resolution.width + 1) * p.scale := (Nat.succ_mul ..).symm
      _ ≤ p.resolution.width * p.scale := Nat.mul_le_mul_right _ column
  · calc i / p.resolution.width * p.scale + p.scale
        = (i / p.resolution.width + 1) * p.scale := (Nat.succ_mul ..).symm
      _ ≤ p.resolution.height * p.scale := Nat.mul_le_mul_right _ row

namespace Addressable

variable (sized : p.Addressable)
include sized

/-- A picture has no fewer device pixels than a frame has bytes. -/
theorem area : p.resolution.width * p.resolution.height < UInt64.size := by
  have columns := Nat.le_mul_of_pos_right p.resolution.width p.scale_pos
  have rows := Nat.le_mul_of_pos_right p.resolution.height p.scale_pos
  exact Nat.lt_of_le_of_lt (Nat.mul_le_mul columns rows) sized.pixels

/-- A raster of the size of the picture has its pixels counted in words. -/
theorem raster {r : Raster} (width : r.width = p.resolution.width * p.scale)
    (height : r.height = p.resolution.height * p.scale) : r.pixels.size < UInt64.size := by
  rw [r.size_eq, width, height]
  exact sized.pixels

/-- The far corner of each square has coordinates of 64 bits. -/
theorem corner {i : Nat} (inFrame : i < p.resolution.area) (byte : UInt8) :
    (p.square i byte).x + (p.square i byte).side < UInt64.size ∧
      (p.square i byte).y + (p.square i byte).side < UInt64.size := by
  obtain ⟨right, bottom⟩ := square_within inFrame byte
  exact ⟨Nat.lt_of_le_of_lt right sized.columns, Nat.lt_of_le_of_lt bottom sized.rows⟩

/-- The raster that is made in words is the blank one. -/
theorem blankInWords_eq : p.blankInWords = .ok p.blankRaster := by
  unfold blankInWords
  simp only [word_of_lt sized.columns, word_of_lt sized.rows, word_of_lt sized.pixels, bind,
    Except.bind]
  rfl

/-- In words the square of a byte is computed as in numbers of any size. -/
theorem squareInWords_eq {i : Nat} (inFrame : i < p.resolution.area) (byte : UInt8) :
    p.squareInWords i byte = .ok (p.square i byte) := by
  obtain ⟨right, bottom⟩ := sized.corner inFrame byte
  have x : i % p.resolution.width * p.scale < UInt64.size :=
    Nat.lt_of_le_of_lt (Nat.le_add_right ..) right
  have y : i / p.resolution.width * p.scale < UInt64.size :=
    Nat.lt_of_le_of_lt (Nat.le_add_right ..) bottom
  unfold squareInWords
  simp only [divMod_of_pos i (width_pos_of_lt_area inFrame), word_of_lt x, word_of_lt y, bind,
    Except.bind]
  rfl

/-- Nothing stops the squares of a frame on a raster whose pixels are counted in words. -/
theorem paintFrameInWords_eq {frame : Frame} (fits : frame.size = p.resolution.area) {r : Raster}
    (addressable : r.pixels.size < UInt64.size) :
    p.paintFrameInWords frame r = .ok (p.repaint r frame) := by
  unfold paintFrameInWords
  rw [p.repaint_of_size_eq r fits, Raster.paintAll, List.mapIdx_eq_zipIdx_map, List.foldl_map]
  -- painting a square keeps the number of pixels, so that the next one finds it in words as well
  apply foldlM_eq_ok (fun painted => painted.pixels.size < UInt64.size)
  · intro painted addressable entry member
    obtain ⟨byte, i⟩ := entry
    have inFrame : i < p.resolution.area := by
      have bound := (List.mem_zipIdx member).2.1
      rwa [Nat.zero_add, Array.length_toList, fits] at bound
    obtain ⟨right, bottom⟩ := sized.corner inFrame byte
    have square := sized.squareInWords_eq inFrame byte
    have done := Raster.paintInWords_eq right bottom addressable
    simp only [square, done, bind, Except.bind]
  · intro painted entry addressable
    rwa [Raster.size_paint]
  · exact addressable

/-- In words a frame is rendered onto a raster of the size of the picture as it is in numbers of any
size. -/
theorem renderInWords_eq (frame : Frame) {r : Raster}
    (width : r.width = p.resolution.width * p.scale)
    (height : r.height = p.resolution.height * p.scale) :
    p.renderInWords frame r = .ok (p.render frame r) := by
  unfold renderInWords
  simp only [word_of_lt sized.area, bind, Except.bind]
  by_cases fits : frame.size = p.resolution.width * p.resolution.height
  · have painted := sized.paintFrameInWords_eq fits (sized.raster width height)
    rw [if_pos fits, painted, p.render_of_size_eq r fits]
    rfl
  · rw [if_neg fits, p.render_of_size_ne r fits]
    rfl

end Addressable

/-- A picture without columns has no square, and the computation of one would stop. -/
example : (Painter.ofPixelSize ⟨0, 4⟩ 1 .white .black).squareInWords 0 1 =
    .error .zeroDivisor := rfl

end Painter

end HexPlayer
