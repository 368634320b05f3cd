import HexPlayer.Proofs.Session.Devices
import HexPlayer.StandIn.Machines
import HexPlayer.StandIn.Monitor

/-!
# Rendering onto any raster

A painter may meet a raster that is smaller than the picture, or larger. `render_onto_raster` says
what it leaves there: every pixel that both have in common shows the byte at its index and nothing
of what was there before, and the pixels beside the picture are as they were.
-/

namespace HexPlayer

namespace Raster

/-- Every index of the pixels belongs to a column and a row of the raster. -/
theorem getElem?_eq_pixel? (r : Raster) {i : Nat} (inside : i < r.pixels.size) :
    r.pixels[i]? = r.pixel? (i % r.width) (i / r.width) := by
  have bound : i < r.width * r.height := r.size_eq ▸ inside
  have width_pos : 0 < r.width := Nat.pos_of_mul_pos_right (Nat.zero_lt_of_lt bound)
  have column : i % r.width < r.width := Nat.mod_lt i width_pos
  have row : i / r.width < r.height := Nat.div_lt_of_lt_mul bound
  rw [pixel?, if_pos ⟨column, row⟩, Nat.mul_comm, Nat.div_add_mod]

/-- Rasters of one size are equal if they have the same pixels. -/
theorem eq_of_pixel?_eq {r s : Raster} (width : r.width = s.width) (height : r.height = s.height)
    (pixels : ∀ x y, x < r.width → y < r.height → r.pixel? x y = s.pixel? x y) : r = s := by
  have size : r.pixels.size = s.pixels.size := by rw [r.size_eq, s.size_eq, width, height]
  have same : r.pixels = s.pixels := by
    refine Array.ext_getElem? fun i => ?_
    by_cases inside : i < r.pixels.size
    · have bound : i < r.width * r.height := r.size_eq ▸ inside
      have column := Nat.mod_lt i (Nat.pos_of_mul_pos_right (Nat.zero_lt_of_lt bound))
      rw [r.getElem?_eq_pixel? inside, s.getElem?_eq_pixel? (size ▸ inside), ← width]
      exact pixels _ _ column (Nat.div_lt_of_lt_mul bound)
    · rw [Array.getElem?_eq_none (Nat.le_of_not_lt inside),
        Array.getElem?_eq_none (size ▸ Nat.le_of_not_lt inside)]
  cases r
  cases s
  subst width height same
  rfl

end Raster

namespace Painter

variable (p : Painter)

/-- A frame of the right size is rendered, and its stray bytes are counted. -/
theorem render_of_size_eq (r : Raster) {frame : Frame} (fits : frame.size = p.resolution.area) :
    p.render frame r = .ok ⟨p.repaint r frame, frame.countP isStray⟩ := by
  simp [repaint, render, fits]

theorem render_of_size_ne (r : Raster) {frame : Frame} (wrong : frame.size ≠ p.resolution.area) :
    p.render frame r = .error ⟨p.resolution.area, frame.size⟩ :=
  if_neg wrong

/-- The stray bytes are those other than zero and one. -/
theorem countP_isStray (frame : Frame) :
    frame.countP isStray = (frame.filter fun byte => byte ≠ 0 ∧ byte ≠ 1).size := by
  rw [Array.countP_eq_size_filter]
  congr 1
  refine Array.filter_congr rfl (funext fun byte => ?_) rfl rfl
  simp [isStray, bne, beq_eq_decide]

/-- A pixel of the picture gets the colour of its byte. -/
theorem pixel?_repaint_of_inPicture (r : Raster) {frame : Frame}
    (fits : frame.size = p.resolution.area) {x y : Nat} (column : x < r.width) (row : y < r.height)
    (inPicture : p.InPicture x y) :
    (p.repaint r frame).pixel? x y =
      some (if frame[p.index x y]? = some 1 then p.on else p.off) := by
  obtain ⟨old, pixel⟩ := Option.isSome_iff_exists.mp ((r.isSome_pixel? x y).mpr ⟨column, row⟩)
  rw [p.pixel?_repaint r fits, if_pos inPicture, pixel, Option.map_some]

/-- A frame that is on the raster already changes nothing there. -/
theorem repaint_repaint (r : Raster) (frame : Frame) :
    p.repaint (p.repaint r frame) frame = p.repaint r frame := by
  by_cases fits : frame.size = p.resolution.area
  · refine Raster.eq_of_pixel?_eq (p.width_repaint _ _) (p.height_repaint _ _)
      fun x y column row => ?_
    rw [p.width_repaint] at column
    rw [p.height_repaint] at row
    by_cases inPicture : p.InPicture x y
    · rw [p.pixel?_repaint_of_inPicture _ fits column row inPicture,
        p.pixel?_repaint_of_inPicture r fits (p.width_repaint r frame ▸ column)
          (p.height_repaint r frame ▸ row) inPicture]
    · rw [p.pixel?_repaint _ fits, if_neg inPicture]
  · rw [p.repaint_of_size_ne _ fits]

end Painter

namespace Session

/-- The entry of the journal, if the deed is one. -/
def Deed.entry? : Deed → Option Journal.Entry
  | .recorded entry => some entry
  | .call _ | .painted _ | .presented .. | .asked _ => none

/-- The entries that were made in the journal. -/
def entries (deeds : List Deed) : List Journal.Entry := deeds.filterMap Deed.entry?

variable {M D : Type} [Machine M] [Display D]

/-- Drawing records the stray bytes of a frame of the right size, if there are any. -/
theorem entries_draw (cfg : Config) (s : Session M D) :
    entries (s.draw cfg).deeds =
      if (Machine.frame s.machine).size = cfg.painter.resolution.area ∧
          0 < (Machine.frame s.machine).countP Painter.isStray then
        [.strayPixels ((Machine.frame s.machine).countP Painter.isStray)]
      else [] := by
  by_cases fits : (Machine.frame s.machine).size = cfg.painter.resolution.area
  · have rendered := cfg.painter.render_of_size_eq s.raster fits
    by_cases clean : (Machine.frame s.machine).countP Painter.isStray = 0
    · simp [draw, rendered, clean, strayDeeds, present, entries, Deed.entry?]
    · simp [draw, rendered, clean, fits, strayDeeds, present, entries, List.filterMap_cons,
        Deed.entry?, Nat.pos_of_ne_zero clean]
  · have refused := cfg.painter.render_of_size_ne s.raster fits
    simp [draw, refused, fits, entries]

/-- A frame of the wrong size leaves the whole session as it was. -/
theorem session_draw_of_size_ne (cfg : Config) (s : Session M D)
    (wrong : (Machine.frame s.machine).size ≠ cfg.painter.resolution.area) :
    (s.draw cfg).session = s := by
  have refused := cfg.painter.render_of_size_ne s.raster wrong
  simp [draw, refused]

/-- Rendering is exact on any raster. A frame is refused if and only if its size is wrong, and then
the session that draws it stays as it was. Otherwise the raster keeps its size, a pixel of the
picture gets the colour of its byte whatever the raster showed there, the other pixels stay as they
were, and to render the frame once more changes nothing. Bytes other than zero and one are off, and
a drawing records their number if there are any. -/
theorem render_onto_raster (cfg : Config) (frame : Frame) (r : Raster) :
    let p := cfg.painter
    let width := cfg.resolution.width
    let height := cfg.resolution.height
    let side := max cfg.pixelSize 1
    let stray := (frame.filter fun byte => byte ≠ 0 ∧ byte ≠ 1).size
    (frame.size ≠ width * height → p.render frame r = .error ⟨width * height, frame.size⟩) ∧
    (frame.size = width * height → ∃ painted, p.render frame r = .ok painted ∧
      painted.stray = stray ∧
      painted.surface.width = r.width ∧ painted.surface.height = r.height ∧
      (∀ x y, x < r.width → y < r.height → painted.surface.pixel? x y =
        if x < width * side ∧ y < height * side then
          some (if frame[y / side * width + x / side]? = some 1 then cfg.on else cfg.off)
        else r.pixel? x y) ∧
      (∀ former : Raster, ∃ again, p.render frame former = .ok again ∧
        ∀ x y, x < width * side → y < height * side → x < r.width → y < r.height →
          x < former.width → y < former.height →
            again.surface.pixel? x y = painted.surface.pixel? x y) ∧
      p.render frame painted.surface = .ok painted) ∧
    ∀ {M D : Type} [Machine M] [Display D] (s : Session M D),
      Machine.frame s.machine = frame → s.raster = r →
        (frame.size ≠ width * height → (s.draw cfg).session = s) ∧
        (∀ painted, p.render frame r = .ok painted →
          (s.draw cfg).session.raster = painted.surface) ∧
        entries (s.draw cfg).deeds =
          if frame.size = width * height ∧ 0 < stray then [.strayPixels stray] else [] := by
  intro p width height side stray
  have pixel {former : Raster} (fits : frame.size = width * height) {x y : Nat}
      (column : x < former.width) (row : y < former.height) (isColumn : x < width * side)
      (isRow : y < height * side) : (p.repaint former frame).pixel? x y =
        some (if frame[y / side * width + x / side]? = some 1 then cfg.on else cfg.off) :=
    p.pixel?_repaint_of_inPicture former fits column row ⟨isColumn, isRow⟩
  refine ⟨fun wrong => p.render_of_size_ne r wrong, fun fits => ?_, fun s isFrame isRaster => ?_⟩
  · refine ⟨_, p.render_of_size_eq r fits, Painter.countP_isStray frame, p.width_repaint r frame,
      p.height_repaint r frame, fun x y column row => ?_, fun former => ?_, ?_⟩
    · by_cases inPicture : x < width * side ∧ y < height * side
      · rw [if_pos inPicture]
        exact pixel fits column row inPicture.1 inPicture.2
      · rw [if_neg inPicture]
        exact (p.pixel?_repaint r fits x y).trans (if_neg inPicture)
    · refine ⟨_, p.render_of_size_eq former fits, ?_⟩
      intro x y isColumn isRow column row formerColumn formerRow
      exact (pixel fits formerColumn formerRow isColumn isRow).trans
        (pixel fits column row isColumn isRow).symm
    · rw [p.render_of_size_eq _ fits, p.repaint_repaint]
  · subst isFrame isRaster
    refine ⟨session_draw_of_size_ne cfg s, fun painted rendered => ?_, ?_⟩
    · have fits : (Machine.frame s.machine).size = p.resolution.area := by
        refine Decidable.byContradiction fun wrong => ?_
        rw [p.render_of_size_ne _ wrong] at rendered
        cases rendered
      rw [p.render_of_size_eq _ fits] at rendered
      cases rendered
      exact raster_draw cfg s
    · rw [entries_draw, Painter.countP_isStray]
      rfl

/-- On a raster that is narrower than the picture and higher, the rows below the picture stay, and
the stray byte is off and on record although the display fails. -/
theorem render_onto_oblong :
    let cfg : Config := { resolution := ⟨2, 2⟩, pixelSize := 2 }
    let frame : Frame := #[1, 0, 7, 1]
    let r := Raster.blank 3 5 ⟨1, 2, 3⟩
    let s : Session StandIn.Scripted StandIn.Monitor := ⟨{}, ⟨frame, []⟩, { failing := true }, r⟩
    frame.size = 2 * 2 ∧
      (∃ painted, cfg.painter.render frame r = .ok painted ∧ painted.stray = 1 ∧
        painted.surface.pixel? 1 1 = some .white ∧ painted.surface.pixel? 1 2 = some .black ∧
        painted.surface.pixel? 2 3 = some .white ∧ painted.surface.pixel? 2 4 = some ⟨1, 2, 3⟩ ∧
        cfg.painter.render frame painted.surface = .ok painted) ∧
      entries (s.draw cfg).deeds = [.strayPixels 1] := by
  intro cfg frame r s
  obtain ⟨-, rendered, drawn⟩ := render_onto_raster cfg frame r
  obtain ⟨painted, isPainted, stray, -, -, pixels, -, again⟩ := rendered rfl
  refine ⟨rfl, ⟨painted, isPainted, stray, ?_, ?_, ?_, ?_, again⟩, (drawn s rfl rfl).2.2⟩
  · exact (pixels 1 1 (by decide) (by decide)).trans (by decide)
  · exact (pixels 1 2 (by decide) (by decide)).trans (by decide)
  · exact (pixels 2 3 (by decide) (by decide)).trans (by decide)
  · exact (pixels 2 4 (by decide) (by decide)).trans (by decide)

end Session

end HexPlayer
