import HexPlayer.Picture.Colour

/-!
# Rasters

A raster is a rectangle of device pixels, kept row by row. Squares are painted onto it and clipped
to it, by one run of pixels in every row that they meet. `pixel?_paint` says that a square changes
its own pixels on the raster and no other one.
-/

namespace HexPlayer

/-- A filled square with its top left corner at `(x, y)`. -/
structure Square where
  x : Nat
  y : Nat
  side : Nat
  colour : Colour
  deriving DecidableEq, Repr

/-- Anything squares can be painted onto. -/
class Surface (σ : Type) where
  paint : Square → σ → σ

/-- The squares that were asked for, in order. -/
instance : Surface (Array Square) where
  paint q squares := squares.push q

/-- Consecutive pixels from `start` up to but not including `stop`. -/
structure Span where
  start : Nat
  stop : Nat
  deriving DecidableEq, Repr

namespace Square

/-- The runs of pixels that a square covers on a raster of the given size, one for each row that it
meets, from the top. -/
def spans (q : Square) (width height : Nat) : List Span :=
  let right := min (q.x + q.side) width
  let bottom := min (q.y + q.side) height
  let top := min q.y bottom
  (List.range' top (bottom - top)).map fun row =>
    ⟨row * width + min q.x right, row * width + right⟩

end Square

/-- Give `count` pixels from `start` on the colour. -/
def paintRun (colour : Colour) : (count start : Nat) → Array Colour → Array Colour
  | 0, _, pixels => pixels
  | count + 1, start, pixels =>
    paintRun colour count (start + 1) (pixels.setIfInBounds start colour)

@[simp]
theorem size_paintRun (colour : Colour) (count start : Nat) (pixels : Array Colour) :
    (paintRun colour count start pixels).size = pixels.size := by
  induction count generalizing start pixels with
  | zero => rfl
  | succ count ih => simp [paintRun, ih]

/-- A painted run has the colour from its start on, and the other pixels are as they were. -/
theorem getElem?_paintRun (colour : Colour) (count start : Nat) (pixels : Array Colour) (i : Nat) :
    (paintRun colour count start pixels)[i]? =
      if start ≤ i ∧ i < start + count ∧ i < pixels.size then some colour else pixels[i]? := by
  induction count generalizing start pixels with
  | zero => simp [paintRun, show ¬ (start ≤ i ∧ i < start ∧ i < pixels.size) by omega]
  | succ count ih =>
    rw [paintRun, ih, Array.size_setIfInBounds, Array.getElem?_setIfInBounds]
    by_cases hi : start = i
    · subst hi
      by_cases hs : start < pixels.size <;> simp [hs]
    · by_cases h : start + 1 ≤ i ∧ i < start + 1 + count ∧ i < pixels.size
      · simp [h, show start ≤ i ∧ i < start + (count + 1) by omega]
      · rw [if_neg h, if_neg hi, if_neg (by omega)]

/-- Paint every run. -/
def paintSpans (colour : Colour) (spans : List Span) (pixels : Array Colour) : Array Colour :=
  spans.foldl (fun pixels s => paintRun colour (s.stop - s.start) s.start pixels) pixels

@[simp]
theorem size_paintSpans (colour : Colour) (spans : List Span) (pixels : Array Colour) :
    (paintSpans colour spans pixels).size = pixels.size := by
  induction spans generalizing pixels with
  | nil => rfl
  | cons s spans ih =>
    simpa [paintSpans] using ih (paintRun colour (s.stop - s.start) s.start pixels)

/-- The pixels of the runs have the colour, and the others are as they were. -/
theorem getElem?_paintSpans (colour : Colour) (spans : List Span) (pixels : Array Colour)
    (i : Nat) :
    (paintSpans colour spans pixels)[i]? =
      if (∃ s ∈ spans, s.start ≤ i ∧ i < s.stop) ∧ i < pixels.size then some colour
      else pixels[i]? := by
  induction spans generalizing pixels with
  | nil => simp [paintSpans]
  | cons s spans ih =>
    have step : paintSpans colour (s :: spans) pixels =
        paintSpans colour spans (paintRun colour (s.stop - s.start) s.start pixels) := rfl
    rw [step, ih, size_paintRun, getElem?_paintRun]
    by_cases hi : i < pixels.size
    · by_cases hlater : ∃ s ∈ spans, s.start ≤ i ∧ i < s.stop
      · simp [hi, hlater]
      · by_cases hs : s.start ≤ i ∧ i < s.stop
        · simp [hi, hlater, hs, show i < s.start + (s.stop - s.start) by omega]
        · have hrun : ¬ (s.start ≤ i ∧ i < s.start + (s.stop - s.start)) := by omega
          simp only [hi, hlater, and_true, if_false, List.mem_cons, exists_eq_or_imp, hs, or_self]
          rw [if_neg (by omega)]
    · simp [hi]

/-- A square has one run in each row that it shares with the raster. -/
theorem Square.mem_spans {q : Square} {width height : Nat} {s : Span} :
    s ∈ q.spans width height ↔ ∃ row, q.y ≤ row ∧ row < q.y + q.side ∧ row < height ∧
      s = ⟨row * width + min q.x (min (q.x + q.side) width),
        row * width + min (q.x + q.side) width⟩ := by
  simp only [Square.spans, List.mem_map, List.mem_range'_1]
  constructor
  · rintro ⟨row, hrow, rfl⟩
    exact ⟨row, by omega, by omega, by omega, rfl⟩
  · rintro ⟨row, h1, h2, h3, rfl⟩
    exact ⟨row, by omega, rfl⟩

/-- A run within one row holds indices of that row alone. -/
theorem row_eq_of_index {width row x y a b : Nat} (hx : x < width)
    (ha : row * width + a ≤ y * width + x) (hb : y * width + x < row * width + b)
    (hbw : b ≤ width) : row = y := by
  rcases Nat.lt_trichotomy row y with h | h | h
  · have hnext := Nat.mul_le_mul_right width (Nat.succ_le_of_lt h)
    rw [Nat.succ_mul] at hnext
    omega
  · exact h
  · have hnext := Nat.mul_le_mul_right width (Nat.succ_le_of_lt h)
    rw [Nat.succ_mul] at hnext
    omega

/-- A rectangle of device pixels, row by row. -/
structure Raster where
  width : Nat
  height : Nat
  pixels : Array Colour
  size_eq : pixels.size = width * height
  deriving DecidableEq

namespace Raster

/-- A raster of one colour. -/
def blank (width height : Nat) (fill : Colour) : Raster where
  width := width
  height := height
  pixels := Array.replicate (width * height) fill
  size_eq := Array.size_replicate

/-- The colour at column `x` of row `y`; nothing lies outside the raster. -/
def pixel? (r : Raster) (x y : Nat) : Option Colour :=
  if x < r.width ∧ y < r.height then r.pixels[y * r.width + x]? else none

/-- Paint the part of the square that lies on the raster. -/
def paint (q : Square) : Raster → Raster
  | ⟨width, height, pixels, size_eq⟩ =>
    { width, height
      pixels := paintSpans q.colour (q.spans width height) pixels
      size_eq := by rw [size_paintSpans, size_eq] }

instance : Surface Raster where
  paint := paint

@[simp]
theorem width_paint (q : Square) (r : Raster) : (r.paint q).width = r.width := rfl

@[simp]
theorem height_paint (q : Square) (r : Raster) : (r.paint q).height = r.height := rfl

theorem pixel?_blank (width height : Nat) (fill : Colour) (x y : Nat) :
    (blank width height fill).pixel? x y = if x < width ∧ y < height then some fill else none := by
  change (if x < width ∧ y < height then
    (Array.replicate (width * height) fill)[y * width + x]? else none) = _
  by_cases hin : x < width ∧ y < height
  · have hrow := Nat.mul_le_mul_right width (Nat.succ_le_of_lt hin.2)
    rw [Nat.succ_mul, Nat.mul_comm height] at hrow
    rw [if_pos hin, if_pos hin, Array.getElem?_replicate, if_pos (by omega)]
  · rw [if_neg hin, if_neg hin]

/-- A square changes its own pixels on the raster and no other one. -/
theorem pixel?_paint (r : Raster) (q : Square) (x y : Nat) :
    (r.paint q).pixel? x y =
      if x < r.width ∧ y < r.height ∧ q.x ≤ x ∧ x < q.x + q.side ∧ q.y ≤ y ∧ y < q.y + q.side
      then some q.colour else r.pixel? x y := by
  obtain ⟨width, height, pixels, size_eq⟩ := r
  change (if x < width ∧ y < height then
    (paintSpans q.colour (q.spans width height) pixels)[y * width + x]? else none) =
      if x < width ∧ y < height ∧ q.x ≤ x ∧ x < q.x + q.side ∧ q.y ≤ y ∧ y < q.y + q.side
      then some q.colour else if x < width ∧ y < height then pixels[y * width + x]? else none
  by_cases hin : x < width ∧ y < height
  · have hi : y * width + x < pixels.size := by
      have hrow := Nat.mul_le_mul_right width (Nat.succ_le_of_lt hin.2)
      rw [Nat.succ_mul] at hrow
      rw [size_eq, Nat.mul_comm width]
      omega
    rw [if_pos hin, if_pos hin, getElem?_paintSpans]
    have hiff : (∃ s ∈ q.spans width height, s.start ≤ y * width + x ∧ y * width + x < s.stop) ↔
        q.x ≤ x ∧ x < q.x + q.side ∧ q.y ≤ y ∧ y < q.y + q.side := by
      constructor
      · rintro ⟨s, hs, hstart, hstop⟩
        obtain ⟨row, h1, h2, h3, rfl⟩ := Square.mem_spans.1 hs
        obtain rfl := row_eq_of_index hin.1 hstart hstop (by omega)
        dsimp only at hstart hstop
        omega
      · intro h
        refine ⟨_, Square.mem_spans.2 ⟨y, by omega, by omega, hin.2, rfl⟩, ?_, ?_⟩ <;>
          dsimp only <;> omega
    simp [hiff, hi, hin]
  · rw [if_neg hin, if_neg hin, if_neg (by omega)]

end Raster

end HexPlayer
