import HexPlayer.Proofs.Picture.Painting

/-!
# The tiling of the picture

Every surface gets the same calls for a frame, one square for each byte and in the order of the
bytes; a surface that keeps its squares tells which they are. `squares_tile_picture` says that they
tile the picture: no device pixel of it is left out, none is in two squares, and no square reaches
over its edge. The numbers are of any size here; where words of 64 bits are enough for them is the
subject of the module on bounds.
-/

namespace HexPlayer

namespace Painter

variable (p : Painter)

@[simp]
theorem size_squares (frame : Frame) : (p.squares frame).size = frame.size :=
  Array.size_mapIdx

/-- The square of a byte stands at the index of the byte. -/
theorem getElem?_squares {frame : Frame} {i : Nat} (inFrame : i < frame.size) :
    (p.squares frame)[i]? = some (p.square i frame[i]) := by
  rw [squares, Array.getElem?_mapIdx, Array.getElem?_eq_getElem inFrame, Option.map_some]

/-- Every square of a frame is the one of some byte. -/
theorem exists_of_mem_squares {frame : Frame} {q : Square} (member : q ∈ p.squares frame) :
    ∃ i, ∃ inFrame : i < frame.size, q = p.square i frame[i] := by
  obtain ⟨i, inFrame, isSquare⟩ := Array.mem_mapIdx.mp member
  exact ⟨i, inFrame, isSquare.symm⟩

/-- A surface that keeps the squares it gets has those of the frame in the end. -/
theorem kept_squares (squares : Array Square) :
    squares.foldl (fun surface q => Surface.paint q surface) (#[] : Array Square) = squares := by
  change squares.foldl (fun kept q => kept.push (id q)) #[] = squares
  rw [Array.foldl_push_eq_append rfl, Array.map_id, Array.empty_append]

/-- A device pixel of the picture lies in one square of the frame, that of its index. -/
theorem covered_iff {frame : Frame} (fits : frame.size = p.resolution.area) {x y : Nat}
    (inPicture : p.InPicture x y) (i : Nat) :
    (∃ q, (p.squares frame)[i]? = some q ∧ q.Covers x y) ↔ i = p.index x y := by
  constructor
  · intro covered
    obtain ⟨q, isSquare, covers⟩ := covered
    have inFrame : i < frame.size := by
      rw [← p.size_squares frame]
      exact (Array.getElem?_eq_some_iff.mp isSquare).1
    rw [p.getElem?_squares inFrame, Option.some.injEq] at isSquare
    subst isSquare
    exact ((p.covers_square_iff (fits ▸ inFrame) _ x y).mp covers).2
  · intro isIndex
    have inFrame : i < frame.size := by
      rw [fits, isIndex]
      exact p.index_lt_area inPicture
    refine ⟨_, p.getElem?_squares inFrame, ?_⟩
    exact (p.covers_square_iff (fits ▸ inFrame) _ x y).mpr ⟨inPicture, isIndex⟩

/-- The squares of a frame stay within the picture. -/
theorem inPicture_of_covers {frame : Frame} (fits : frame.size = p.resolution.area) {q : Square}
    (member : q ∈ p.squares frame) {x y : Nat} (covers : q.Covers x y) : p.InPicture x y := by
  obtain ⟨i, inFrame, rfl⟩ := p.exists_of_mem_squares member
  exact ((p.covers_square_iff (fits ▸ inFrame) _ x y).mp covers).1

/-- The painted squares tile the picture. Rendering a frame of the right size makes the same calls
on every surface: one for each byte, in the order of the bytes, each of a square as wide as the
scale. A device pixel of the picture lies in exactly one of these squares, the one at its index, and
no square holds a device pixel outside the picture. -/
theorem squares_tile_picture (resolution : Resolution) (pixelSize : Nat) (on off : Colour)
    (frame : Frame) (fits : frame.size = resolution.width * resolution.height) :
    let p := Painter.ofPixelSize resolution pixelSize on off
    let side := max pixelSize 1
    ∃ calls : Array Square,
      p.render frame (#[] : Array Square) = .ok ⟨calls, frame.countP isStray⟩ ∧
      (∀ {σ : Type} [Surface σ] (surface : σ), p.render frame surface =
        .ok ⟨calls.foldl (fun surface q => Surface.paint q surface) surface,
          frame.countP isStray⟩) ∧
      calls.size = resolution.width * resolution.height ∧
      (∀ i, ∀ inFrame : i < frame.size, calls[i]? = some
        { x := i % resolution.width * side
          y := i / resolution.width * side
          side
          colour := if frame[i] = 1 then on else off }) ∧
      (∀ x y, x < resolution.width * side → y < resolution.height * side → ∀ i,
        (∃ q, calls[i]? = some q ∧ q.Covers x y) ↔
          i = y / side * resolution.width + x / side) ∧
      ∀ q ∈ calls, ∀ x y, q.Covers x y →
        x < resolution.width * side ∧ y < resolution.height * side := by
  intro p side
  have rendered {σ : Type} [Surface σ] (surface : σ) : p.render frame surface =
      .ok ⟨(p.squares frame).foldl (fun surface q => Surface.paint q surface) surface,
        frame.countP isStray⟩ := if_pos fits
  refine ⟨p.squares frame, ?_, rendered, ?_, fun i inFrame => p.getElem?_squares inFrame, ?_, ?_⟩
  · rw [rendered, kept_squares]
  · rw [p.size_squares, fits]
  · intro x y column row
    exact p.covered_iff fits ⟨column, row⟩
  · intro q member x y covers
    exact p.inPicture_of_covers fits member covers

/-- On a picture of three by two squares the pixel in the corner is in the last one only. -/
theorem squares_tile_oblong :
    let p := Painter.ofPixelSize ⟨3, 2⟩ 4 .white .black
    let frame : Frame := #[1, 0, 7, 0, 1, 1]
    frame.size = 3 * 2 ∧ ∃ calls, p.render frame (#[] : Array Square) = .ok ⟨calls, 1⟩ ∧
      calls.size = 6 ∧ calls[2]? = some ⟨8, 0, 4, .black⟩ ∧ calls[5]? = some ⟨8, 4, 4, .white⟩ ∧
      (∀ i, (∃ q, calls[i]? = some q ∧ q.Covers 11 7) ↔ i = 5) ∧
      ∀ q ∈ calls, ¬ q.Covers 12 7 := by
  intro p frame
  obtain ⟨calls, kept, -, size, squares, covered, inside⟩ :=
    squares_tile_picture ⟨3, 2⟩ 4 .white .black frame rfl
  refine ⟨rfl, calls, kept, size, squares 2 (by decide), squares 5 (by decide), ?_, ?_⟩
  · exact covered 11 7 (by decide) (by decide)
  · intro q member covers
    exact absurd (inside q member 12 7 covers).1 (by decide)

end Painter

end HexPlayer
