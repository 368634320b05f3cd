/-!
# Rectangles of cells

Boxes and the terminal itself are rectangles of character cells. None has more cells than a number
of sixteen bits counts: a larger one is shrunk in proportion, and `sized_eq` says that any other one
has the size asked for.
-/

namespace HexPlayer.Terminal

/-- A rectangle of cells with its top left corner at `(x, y)`. -/
structure Rect where
  x : Nat
  y : Nat
  width : Nat
  height : Nat
  deriving DecidableEq, Repr

namespace Rect

/-- The most cells of a rectangle. -/
def maxCells : Nat := 65535

/-- A rectangle of this size. One with too many cells is shrunk to about the most; its sides keep
their proportion, which is computed in binary64, and are rounded down. -/
def sized (x y width height : Nat) : Rect :=
  if width * height ≤ maxCells then ⟨x, y, width, height⟩
  else
    let proportion := Float.ofNat width / Float.ofNat height
    let tall := Float.sqrt (Float.ofNat maxCells / proportion)
    ⟨x, y, (tall * proportion).toUInt16.toNat, tall.toUInt16.toNat⟩

/-- A rectangle that is not too large has the size asked for. -/
theorem sized_eq (x y : Nat) {width height : Nat} (h : width * height ≤ maxCells) :
    sized x y width height = ⟨x, y, width, height⟩ :=
  if_pos h

/-- The first column to the right of the rectangle. -/
def right (r : Rect) : Nat := r.x + r.width

/-- The first row below the rectangle. -/
def bottom (r : Rect) : Nat := r.y + r.height

/-- The columns of the rectangle. -/
def columns (r : Rect) : List Nat := List.range' r.x r.width

/-- The rows of the rectangle. -/
def rows (r : Rect) : List Nat := List.range' r.y r.height

/-- The part of the rectangle within the given width and height. -/
def cutTo (r : Rect) (width height : Nat) : Rect :=
  ⟨r.x, r.y, min r.right width - r.x, min r.bottom height - r.y⟩

/-- The rectangle has a cell. -/
def hasCell (r : Rect) : Bool := 0 < r.width && 0 < r.height

/-- The rectangle within a border of one cell. -/
def inner (r : Rect) : Rect := ⟨r.x + 1, r.y + 1, r.width - 2, r.height - 2⟩

end Rect

end HexPlayer.Terminal
