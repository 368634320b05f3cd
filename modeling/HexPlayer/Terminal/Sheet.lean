import HexPlayer.Picture.Colour
import HexPlayer.Terminal.Grid
import HexPlayer.Terminal.Rect
import HexPlayer.Text.Glyph

/-!
# Sheets of tiles

What a terminal is to show is drawn onto a sheet first. A tile of the sheet has a glyph, which may
be wider than the tile. Boxes with a title are drawn onto the sheet, cut to its size.
-/

namespace HexPlayer.Terminal

/-- How text looks; a colour that is not set is the terminal's own. -/
structure Style where
  fg : Option Colour := none
  bg : Option Colour := none
  reversed : Bool := false
  deriving DecidableEq, Repr

/-- A glyph in its style. -/
structure Tile where
  glyph : Text.Glyph := .blank
  style : Style := {}
  deriving DecidableEq, Repr

/-- The tiles of a sheet. -/
abbrev Sheet := Grid Tile

namespace Sheet

/-- A sheet of blanks. -/
def blank (width height : Nat) : Sheet := .filled width height {}

/-- Put a character of one column at every one of a list of places. -/
def putAll (places : List (Nat × Nat)) (c : Char) (s : Sheet) : Sheet :=
  s.modifyAll places fun tile => { tile with glyph := .narrow c }

/-- Give a rectangle a background. -/
def fillBackground (r : Rect) (colour : Colour) (s : Sheet) : Sheet :=
  s.modifyAll (r.rows.flatMap fun y => r.columns.map fun x => (x, y))
    fun tile => { tile with style.bg := some colour }

/-- Draw the border of a rectangle: the right and the bottom edge over the left and the top one, and
the corners over them all. -/
def border (r : Rect) (s : Sheet) : Sheet :=
  let s := s.putAll (r.rows.map fun y => (r.x, y)) '│'
  let s := s.putAll (r.columns.map fun x => (x, r.y)) '─'
  let s := s.putAll (r.rows.map fun y => (r.right - 1, y)) '│'
  let s := s.putAll (r.columns.map fun x => (x, r.bottom - 1)) '─'
  let s := s.putAll [(r.right - 1, r.bottom - 1)] '┘'
  let s := s.putAll [(r.right - 1, r.y)] '┐'
  let s := s.putAll [(r.x, r.bottom - 1)] '└'
  s.putAll [(r.x, r.y)] '┌'

/-- Write the title of a rectangle from a place on. -/
def putTitle (y : Nat) : (x : Nat) → List Char → Sheet → Sheet
  | _, [], s => s
  | x, c :: rest, s => putTitle y (x + 1) rest (s.putAll [(x, y)] c)

/-- Draw a rectangle with its border, and with a title in the top edge between the corners. -/
def box (r : Rect) (title : String) (s : Sheet) : Sheet :=
  (s.border r).putTitle r.y (r.x + 1) (title.toList.take (r.width - 2))

end Sheet

end HexPlayer.Terminal
