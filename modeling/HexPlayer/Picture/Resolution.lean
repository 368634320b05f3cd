import HexPlayer.Number.Binary64

/-!
# Resolutions

The resolution is the size of the machine's display in machine pixels. Its bounds are the
coordinates of the outermost pixels, where rows count downwards in negative numbers.
-/

namespace HexPlayer

/-- Width and height in machine pixels. -/
structure Resolution where
  width : Nat := 64
  height : Nat := 32
  deriving DecidableEq, Repr

namespace Resolution

/-- The number of machine pixels, hence of bytes in a frame. -/
def area (r : Resolution) : Nat := r.width * r.height

/-- The columns of the leftmost and the rightmost pixel. -/
def xExtent (r : Resolution) : Number.Whole × Number.Whole :=
  (.ofCount 0, .ofCount (r.width - 1))

/-- The rows of the lowest and the topmost pixel. -/
def yExtent (r : Resolution) : Number.Whole × Number.Whole :=
  (.negOfCount (r.height - 1), .ofCount 0)

end Resolution

end HexPlayer
