import HexPlayer.Terminal.Scene

/-!
# The screen of a terminal

A sheet is printed onto a screen that shows the sheet before it, and only where the two differ. A
wide glyph hides the tile on its right, which is not printed, and tiles are printed anew where an
old glyph was wide. The screen gives every character of a glyph a cell of its own, so that a glyph
may take more cells, or fewer, than the columns it is wide. `width_print` and `height_print` say
that the screen keeps its size.
-/

namespace HexPlayer.Terminal

/-- What a cell of the screen shows. -/
structure Cell where
  char : Char := ' '
  style : Style := {}
  deriving DecidableEq, Repr

/-- The cells of a terminal. -/
abbrev Screen := Grid Cell

/-- A screen while a sheet is printed onto it, tile by tile. -/
structure Printer where
  screen : Screen
  /-- The place to the right of the tile that was printed last. -/
  next : Option (Nat × Nat) := none
  /-- The column behind the character that was printed last. -/
  cursor : Nat := 0
  /-- The tile at hand is behind the glyph on its left. -/
  hidden : Bool := false
  /-- The number of tiles, from the one at hand on, that glyphs before it reach over. -/
  stale : Nat := 0

namespace Printer

/-- Print a tile. Behind the tile on its left the characters go on where those of that one ended,
and elsewhere they begin at the place of the tile. None goes beyond the right edge. -/
def print (x y : Nat) (tile : Tile) : Printer → Printer
  | ⟨screen, next, cursor, hidden, stale⟩ =>
    let start := if next = some (x, y) then cursor else x
    let cells := tile.glyph.chars.map fun c => { char := c, style := tile.style : Cell }
    ⟨screen.putRow y start cells, some (x + 1, y), start + cells.length, hidden, stale⟩

/-- The tile at hand is to be printed: it is not hidden, and it differs from the one before or may
have been covered. -/
def isDue (before after : Tile) (p : Printer) : Bool :=
  !p.hidden && (after != before || 0 < p.stale)

/-- Go past the tile at hand, which covers others if it is wide or was wide before. -/
def pass (before after : Tile) (p : Printer) : Printer :=
  { p with
    hidden := 1 < after.glyph.columns
    stale := max (max after.glyph.columns before.glyph.columns) p.stale - 1 }

/-- Print a tile if it is due, and go past it. -/
def visit (x y : Nat) (before after : Tile) (p : Printer) : Printer :=
  (if p.isDue before after then p.print x y after else p).pass before after

theorem size_visit (x y : Nat) (before after : Tile) (p : Printer) :
    (p.visit x y before after).screen.width = p.screen.width ∧
      (p.visit x y before after).screen.height = p.screen.height := by
  obtain ⟨screen, next, cursor, hidden, stale⟩ := p
  rw [visit]
  split
  · exact ⟨Grid.width_putRow .., Grid.height_putRow ..⟩
  · exact ⟨rfl, rfl⟩

/-- Visit the tiles at a list of places. -/
def visitAll (before after : Sheet) (places : List (Nat × Nat)) (p : Printer) : Printer :=
  places.foldl
    (fun p (x, y) => p.visit x y ((before.cell? x y).getD {}) ((after.cell? x y).getD {})) p

theorem size_visitAll (before after : Sheet) (places : List (Nat × Nat)) (p : Printer) :
    (visitAll before after places p).screen.width = p.screen.width ∧
      (visitAll before after places p).screen.height = p.screen.height := by
  induction places generalizing p with
  | nil => exact ⟨rfl, rfl⟩
  | cons place rest ih =>
    have hrest := ih (p.visit place.1 place.2 ((before.cell? place.1 place.2).getD {})
      ((after.cell? place.1 place.2).getD {}))
    have hvisit := Printer.size_visit place.1 place.2 ((before.cell? place.1 place.2).getD {})
      ((after.cell? place.1 place.2).getD {}) p
    exact ⟨hrest.1.trans hvisit.1, hrest.2.trans hvisit.2⟩

end Printer

namespace Screen

/-- A blank screen. -/
def blank (width height : Nat) : Screen := .filled width height {}

/-- Print a sheet onto a screen that shows another one of the same size. -/
def print (before after : Sheet) (screen : Screen) : Screen :=
  (Printer.visitAll before after after.places { screen }).screen

/-- Printing keeps the width of the screen. -/
theorem width_print (before after : Sheet) (screen : Screen) :
    (print before after screen).width = screen.width :=
  (Printer.size_visitAll before after after.places { screen }).1

/-- Printing keeps the height of the screen. -/
theorem height_print (before after : Sheet) (screen : Screen) :
    (print before after screen).height = screen.height :=
  (Printer.size_visitAll before after after.places { screen }).2

/-- The part of a screen that a sheet covers. -/
def area (s : Screen) : Rect := (Rect.sized 0 0 s.width s.height).cutTo s.width s.height

end Screen

/-- A display that draws the scene on a terminal and never fails: what the terminal shows, the sheet
that was printed onto it, and the pixels that were sorted last. -/
structure SceneDisplay where
  painter : Painter
  screen : Screen
  sheet : Sheet
  planes : Planes := {}

namespace SceneDisplay

/-- A blank terminal of this size. -/
def blank (painter : Painter) (width height : Nat) : SceneDisplay :=
  let screen := Screen.blank width height
  { painter, screen, sheet := .blank screen.area.width screen.area.height }

/-- The terminal gets a size, and keeps what it shows. -/
def resize (d : SceneDisplay) (width height : Nat) : SceneDisplay :=
  { d with screen := d.screen.resized width height {} }

/-- The display before it is drawn on. If the sheet that was printed has another size than the next
one, both the screen and the sheet are blank. -/
def fitted (d : SceneDisplay) : SceneDisplay :=
  if d.sheet.width = d.screen.area.width ∧ d.sheet.height = d.screen.area.height then d
  else .blank d.painter d.screen.width d.screen.height

instance : Display SceneDisplay where
  present raster panel d :=
    let planes := Scene.planes d.painter raster d.planes
    let d := d.fitted
    let sheet := Scene.draw d.painter d.sheet.width d.sheet.height planes panel
    ({ d with screen := d.screen.print d.sheet sheet, sheet, planes }, none)

end SceneDisplay

end HexPlayer.Terminal
