import HexPlayer.Proofs.Picture.Painting

/-!
# Clipping in words

A raster is painted row by row: the pixels of one row of a square are a slice of the pixels of the
raster, and its bounds are computed in words of 64 bits. `paintInWords` is this computation with all
that may stop it. `paint_clips_exactly` says that nothing does if the far corner of the square has
coordinates of 64 bits: every slice lies on the raster, and what changes are the pixels that the
square and the raster have in common.
-/

namespace HexPlayer

/-- What stops a computation in words of 64 bits. -/
inductive Trap where
  /-- A number has more than 64 bits. -/
  | overflow
  /-- The divisor is zero. -/
  | zeroDivisor
  /-- A slice ends before it starts. -/
  | invertedSlice
  /-- A slice ends behind what it is a slice of. -/
  | sliceOutOfRange
  deriving DecidableEq, Repr

/-- A number that has to be held by a word. -/
def word (n : Nat) : Except Trap Nat := if n < UInt64.size then .ok n else .error .overflow

theorem word_of_lt {n : Nat} (fits : n < UInt64.size) : word n = .ok n := if_pos fits

/-- A loop goes through to its end if every step succeeds on the states that the loop keeps to. -/
theorem foldlM_eq_ok {ε α β : Type} (keeps : β → Prop) {step : β → α → Except ε β}
    {next : β → α → β} {steps : List α}
    (succeeds : ∀ state, keeps state → ∀ a ∈ steps, step state a = .ok (next state a))
    (kept : ∀ state a, keeps state → keeps (next state a)) {start : β} (first : keeps start) :
    steps.foldlM step start = .ok (steps.foldl next start) := by
  induction steps generalizing start with
  | nil => rfl
  | cons a rest ih =>
    have now : step start a = .ok (next start a) := succeeds start first a List.mem_cons_self
    have later := ih (fun state holds b member =>
      succeeds state holds b (List.mem_cons_of_mem _ member)) (kept start a first)
    rw [List.foldlM_cons, now]
    exact later

namespace Square

/-- The run of pixels of one row, in words. -/
def rowInWords (q : Square) (right width row : Nat) : Except Trap Span := do
  let start ← word (row * width)
  return ⟨← word (start + min q.x right), ← word (start + right)⟩

/-- The runs of a square on a raster lie within its pixels. -/
theorem span_within {q : Square} {width height : Nat} {s : Span}
    (member : s ∈ q.spans width height) : s.start ≤ s.stop ∧ s.stop ≤ width * height := by
  obtain ⟨row, -, -, onRaster, rfl⟩ := mem_spans.mp member
  refine ⟨Nat.add_le_add_left (Nat.min_le_right ..) _, ?_⟩
  calc row * width + min (q.x + q.side) width
      ≤ row * width + width := Nat.add_le_add_left (Nat.min_le_right ..) _
    _ = (row + 1) * width := (Nat.succ_mul ..).symm
    _ ≤ height * width := Nat.mul_le_mul_right _ onRaster
    _ = width * height := Nat.mul_comm ..

/-- Nothing stops the computation of a run that ends within a word. -/
theorem rowInWords_of_lt (q : Square) {right width row : Nat}
    (fits : row * width + right < UInt64.size) :
    q.rowInWords right width row = .ok ⟨row * width + min q.x right, row * width + right⟩ := by
  have start : row * width < UInt64.size := by omega
  have first : row * width + min q.x right < UInt64.size := by omega
  unfold rowInWords
  simp only [word_of_lt start, word_of_lt first, word_of_lt fits, bind, Except.bind]
  rfl

end Square

namespace Raster

/-- Give the pixels of a run the colour. -/
def fill (colour : Colour) (s : Span) (r : Raster) : Raster where
  width := r.width
  height := r.height
  pixels := paintRun colour (s.stop - s.start) s.start r.pixels
  size_eq := by rw [size_paintRun, r.size_eq]

@[simp]
theorem size_fill (colour : Colour) (s : Span) (r : Raster) :
    (r.fill colour s).pixels.size = r.pixels.size := size_paintRun ..

@[simp]
theorem size_paint (r : Raster) (q : Square) : (r.paint q).pixels.size = r.pixels.size := by
  rw [(r.paint q).size_eq, r.size_eq, width_paint, height_paint]

/-- A square is painted by filling its runs. -/
theorem paint_eq_foldl_fill (q : Square) (r : Raster) :
    r.paint q = (q.spans r.width r.height).foldl (fun r s => r.fill q.colour s) r := by
  have filled (spans : List Span) (r : Raster) : (⟨r.width, r.height,
      paintSpans q.colour spans r.pixels, by rw [size_paintSpans, r.size_eq]⟩ : Raster) =
        spans.foldl (fun r s => r.fill q.colour s) r := by
    induction spans generalizing r with
    | nil => rfl
    | cons s rest ih => exact ih (r.fill q.colour s)
  exact filled _ r

/-- Fill a slice of the pixels, which has to lie within them. -/
def fillSlice (colour : Colour) (s : Span) (r : Raster) : Except Trap Raster :=
  if s.stop < s.start then .error .invertedSlice
  else if r.pixels.size < s.stop then .error .sliceOutOfRange
  else .ok (r.fill colour s)

theorem fillSlice_of_within (colour : Colour) {s : Span} {r : Raster} (ordered : s.start ≤ s.stop)
    (inside : s.stop ≤ r.pixels.size) : r.fillSlice colour s = .ok (r.fill colour s) := by
  rw [fillSlice, if_neg (Nat.not_lt.mpr ordered), if_neg (Nat.not_lt.mpr inside)]

/-- Paint the part of a square that lies on the raster, in words. -/
def paintInWords (q : Square) (r : Raster) : Except Trap Raster := do
  let right := min (← word (q.x + q.side)) r.width
  let bottom := min (← word (q.y + q.side)) r.height
  let top := min q.y bottom
  (List.range' top (bottom - top)).foldlM
    (fun painted row => do painted.fillSlice q.colour (← q.rowInWords right r.width row)) r

/-- In words a square is painted as it is in numbers of any size. -/
theorem paintInWords_eq {q : Square} {r : Raster} (columns : q.x + q.side < UInt64.size)
    (rows : q.y + q.side < UInt64.size) (addressable : r.pixels.size < UInt64.size) :
    r.paintInWords q = .ok (r.paint q) := by
  unfold paintInWords
  rw [word_of_lt columns, word_of_lt rows, paint_eq_foldl_fill, Square.spans, List.foldl_map]
  -- filling a run keeps the number of pixels, and with it the bounds of the later slices
  apply foldlM_eq_ok (fun painted => painted.pixels.size = r.pixels.size)
  · intro painted size row member
    let right := min (q.x + q.side) r.width
    have isSpan : (⟨row * r.width + min q.x right, row * r.width + right⟩ : Span) ∈
        q.spans r.width r.height := List.mem_map.mpr ⟨row, member, rfl⟩
    obtain ⟨ordered, inside⟩ := Square.span_within isSpan
    rw [← r.size_eq] at inside
    have computed := q.rowInWords_of_lt (Nat.lt_of_le_of_lt inside addressable)
    have filled := fillSlice_of_within q.colour ordered (size ▸ inside)
    simp only [computed, filled, bind, Except.bind, right]
  · intro painted row size
    rw [size_fill, size]
  · rfl

/-- A corner beyond 64 bits is not clipped but stops the computation. -/
example : (Raster.blank 4 3 .black).paintInWords ⟨UInt64.size - 1, 0, 1, .white⟩ =
    .error .overflow := rfl

/-- Painting a square clips it exactly. In words no number overflows and no slice is inverted or out
of range, as long as the far corner of the square has coordinates of 64 bits. The slices lie on the
raster in any case. The raster keeps its size, those of its pixels that lie in the square get the
colour, and all others stay as they were. -/
theorem paint_clips_exactly (r : Raster) (q : Square) :
    (q.x + q.side < UInt64.size → q.y + q.side < UInt64.size → r.pixels.size < UInt64.size →
      r.paintInWords q = .ok (r.paint q)) ∧
    (∀ s ∈ q.spans r.width r.height, s.start ≤ s.stop ∧ s.stop ≤ r.pixels.size) ∧
    (r.paint q).width = r.width ∧ (r.paint q).height = r.height ∧
    (r.paint q).pixels.size = r.pixels.size ∧
    ∀ x y, x < r.width → y < r.height → (r.paint q).pixel? x y =
      if q.x ≤ x ∧ x < q.x + q.side ∧ q.y ≤ y ∧ y < q.y + q.side then some q.colour
      else r.pixel? x y := by
  refine ⟨paintInWords_eq, fun s member => ?_, rfl, rfl, r.size_paint q, fun x y column row => ?_⟩
  · rw [r.size_eq]
    exact Square.span_within member
  · rw [pixel?_paint]
    simp only [column, row, true_and]

/-- A square over the right edge that is as long as words allow takes two pixels of every row but
the first. -/
theorem paint_clips_long_square :
    let r := Raster.blank 4 3 .black
    let q : Square := ⟨2, 1, UInt64.size - 3, .white⟩
    (q.x + q.side < UInt64.size ∧ q.y + q.side < UInt64.size ∧ r.pixels.size < UInt64.size) ∧
      r.paintInWords q = .ok (r.paint q) ∧ (r.paint q).pixels.size = 12 ∧
      (r.paint q).pixel? 3 2 = some .white ∧ (r.paint q).pixel? 1 2 = some .black ∧
      (r.paint q).pixel? 3 0 = some .black := by
  intro r q
  obtain ⟨inWords, -, -, -, size, pixel⟩ := paint_clips_exactly r q
  have bounds : q.x + q.side < UInt64.size ∧ q.y + q.side < UInt64.size ∧
      r.pixels.size < UInt64.size := by
    decide
  refine ⟨bounds, inWords bounds.1 bounds.2.1 bounds.2.2, size, ?_, ?_, ?_⟩
  · exact (pixel 3 2 (by decide) (by decide)).trans (by decide)
  · exact (pixel 1 2 (by decide) (by decide)).trans (by decide)
  · exact (pixel 3 0 (by decide) (by decide)).trans (by decide)

end Raster

end HexPlayer
