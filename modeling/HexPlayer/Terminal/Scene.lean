import HexPlayer.Terminal.FrontPanel
import HexPlayer.Terminal.Sheet

/-!
# The scene

The picture stands in a box on the left and the panel in one on the right, both cut to the sheet.
Every machine pixel is sampled from the raster and falls on one tile of the picture; where pixels
share a tile, a lit one covers the unlit ones. A glyph of the panel takes the columns that it is
wide, and `le_and_add_columns_le_of_mem_setLine` says that none goes beyond its box.
-/

namespace HexPlayer.Terminal

/-- A machine pixel on the canvas, where rows count downwards in negative numbers. -/
structure Point where
  x : Int
  y : Int
  deriving DecidableEq, Repr

/-- The machine pixels by whether they are lit. -/
structure Planes where
  lit : Array Point := #[]
  unlit : Array Point := #[]
  deriving DecidableEq, Repr

namespace Planes

/-- The planes without their points. -/
def clear (planes : Planes) : Planes := ⟨planes.lit.take 0, planes.unlit.take 0⟩

/-- Put one more point behind those of its plane. -/
def add (planes : Planes) (isLit : Bool) (p : Point) : Planes :=
  if isLit then { planes with lit := planes.lit.push p }
  else { planes with unlit := planes.unlit.push p }

end Planes

namespace Scene

/-- The width of the panel's box. -/
def panelWidth : Nat := 28

/-- The machine pixels of a resolution, row by row. -/
def pixels (r : Resolution) : List (Nat × Nat) :=
  (List.range r.height).flatMap fun y => (List.range r.width).map fun x => (x, y)

/-- A machine pixel is lit if the top left device pixel of its square has the on colour. -/
def isLit (p : Painter) (raster : Raster) (pixel : Nat × Nat) : Bool :=
  raster.pixel? (pixel.1 * p.scale) (pixel.2 * p.scale) = some p.on

/-- The place of a machine pixel on the canvas. -/
def point (pixel : Nat × Nat) : Point := ⟨pixel.1, -(pixel.2 : Int)⟩

/-- Sort the machine pixels of a raster by whether they are lit, in the place of those of an earlier
one. -/
def planes (p : Painter) (raster : Raster) (earlier : Planes) : Planes :=
  (pixels p.resolution).foldl (fun planes pixel => planes.add (isLit p raster pixel) (point pixel))
    earlier.clear

/-- Scale a coordinate from the machine pixels of one side to the cells of that side, rounding
down. -/
def scaled (position cells pixels : Nat) : Nat := position * (cells - 1) / (pixels - 1)

/-- The cell on which a point falls. With a side of one pixel, and on a canvas without cells, there
is none. -/
def cellOf? (r : Resolution) (canvas : Rect) (p : Point) : Option (Nat × Nat) :=
  if r.width ≤ 1 ∨ r.height ≤ 1 ∨ canvas.hasCell = false then none
  else some (canvas.x + scaled p.x.toNat canvas.width r.width,
    canvas.y + scaled (-p.y).toNat canvas.height r.height)

/-- A tile on which a pixel of a colour falls. -/
def pixelTile (colour : Colour) (tile : Tile) : Tile where
  glyph := .narrow '▄'
  style := { tile.style with fg := some colour, bg := none }

/-- Put a plane onto the canvas in one colour. -/
def putPlane (r : Resolution) (canvas : Rect) (plane : Array Point) (colour : Colour)
    (s : Sheet) : Sheet :=
  s.modifyAll (plane.toList.filterMap (cellOf? r canvas)) (pixelTile colour)

/-- The side of a box around a number of pixels; sides are numbers of sixteen bits. -/
def boxSide (pixels : Nat) : Nat := (2 + pixels) % UInt16.size

/-- The picture's box, before it is cut. -/
def pictureBox (r : Resolution) : Rect := .sized 0 0 (boxSide r.width) (boxSide r.height)

/-- The panel's box, before it is cut: one column to the right of the picture's, and as tall. -/
def panelBox (r : Resolution) : Rect :=
  .sized ((pictureBox r).right + 1) 0 panelWidth (pictureBox r).height

/-- Draw the picture into its box. -/
def picture (p : Painter) (planes : Planes) (box : Rect) (s : Sheet) : Sheet :=
  let s := (s.fillBackground box p.off).box box "CHIP-8"
  let s := putPlane p.resolution box.inner planes.unlit p.off s
  putPlane p.resolution box.inner planes.lit p.on s

/-- The tiles of a line; line feeds are left out. -/
def tiles (line : List Piece) : List Tile :=
  line.flatMap fun piece =>
    ((Text.Glyph.ofText piece.text).filter fun glyph => glyph.chars != ['\n']).map
      fun glyph => ⟨glyph, { reversed := piece.reversed }⟩

/-- Set tiles side by side from column `x` on, each one behind the columns of those before it. One
that is wider than the whole room is left out, and the line ends before the first other one that
does not fit. -/
def setLine (room : Nat) : (x : Nat) → List Tile → List (Nat × Tile)
  | _, [] => []
  | x, tile :: rest =>
    if room < tile.glyph.columns then setLine room x rest
    else if room < x + tile.glyph.columns then []
    else (x, tile) :: setLine room (x + tile.glyph.columns) rest

/-- Every tile of a line is in the room, and all the columns of its glyph are. -/
theorem le_and_add_columns_le_of_mem_setLine {room x : Nat} {line : List Tile} {e : Nat × Tile}
    (he : e ∈ setLine room x line) : x ≤ e.1 ∧ e.1 + e.2.glyph.columns ≤ room := by
  induction line generalizing x with
  | nil => cases he
  | cons tile rest ih =>
    rw [setLine] at he
    split at he
    · exact ih he
    · split at he
      · cases he
      · next hfits =>
        rcases List.mem_cons.1 he with rfl | he
        · exact ⟨Nat.le_refl x, Nat.le_of_not_lt hfits⟩
        · have hrest := ih he
          exact ⟨by omega, hrest.2⟩

/-- Write lines one below the other, each cut to the width, as many as there are rows. -/
def putLines (inner : Rect) (lines : List (List Piece)) (s : Sheet) : Sheet :=
  (inner.rows.zip lines).foldl
    (fun s (y, line) => (setLine inner.width 0 (tiles line)).foldl
      (fun s (x, tile) => s.modify (inner.x + x) y fun _ => tile) s) s

/-- Draw the panel into its box. -/
def panel (panel : Panel) (box : Rect) (s : Sheet) : Sheet :=
  let s := s.box box "keypad"
  if box.inner.hasCell then putLines box.inner (FrontPanel.lines panel) s else s

/-- Draw into a box if a tile of it is on the sheet. -/
def within (box : Rect) (drawing : Rect → Sheet → Sheet) (s : Sheet) : Sheet :=
  let cut := box.cutTo s.width s.height
  if cut.hasCell then drawing cut s else s

/-- The whole scene on a sheet of this size. -/
def draw (p : Painter) (width height : Nat) (planes : Planes) (shown : Panel) : Sheet :=
  let s := within (pictureBox p.resolution) (picture p planes) (.blank width height)
  within (panelBox p.resolution) (panel shown) s

end Scene

end HexPlayer.Terminal
