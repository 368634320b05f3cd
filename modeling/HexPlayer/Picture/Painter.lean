import HexPlayer.Picture.Raster
import HexPlayer.Picture.Resolution

/-!
# Painting frames

A frame has one byte for each machine pixel, row by row; one is on and everything else is off. A
painter draws every machine pixel as a square of device pixels, at a fixed scale, onto any surface.
A frame of the wrong size is refused before anything is painted.
-/

namespace HexPlayer

/-- One byte for each machine pixel, row by row. -/
abbrev Frame := Array UInt8

/-- A frame has another number of bytes than the resolution has pixels. -/
structure FrameMismatch where
  expected : Nat
  actual : Nat
  deriving DecidableEq, Repr

namespace FrameMismatch

/-- The text shown to the user. -/
def message (m : FrameMismatch) : String :=
  s!"frame buffer is {m.actual} bytes, expected {m.expected}"

end FrameMismatch

/-- A painted surface, and how many bytes of the frame were neither zero nor one. -/
structure Painted (σ : Type) where
  surface : σ
  stray : Nat

/-- Draws frames of one resolution at one scale in two colours. -/
structure Painter where
  resolution : Resolution
  scale : Nat
  on : Colour
  off : Colour
  scale_pos : 0 < scale

namespace Painter

/-- A painter whose squares have `pixelSize` device pixels on a side, and at least one. -/
def ofPixelSize (resolution : Resolution) (pixelSize : Nat) (on off : Colour) : Painter where
  resolution := resolution
  scale := max pixelSize 1
  on := on
  off := off
  scale_pos := by omega

/-- A surface in the off colour that one scaled frame fills exactly. -/
def blankRaster (p : Painter) : Raster :=
  .blank (p.resolution.width * p.scale) (p.resolution.height * p.scale) p.off

/-- One is on, every other byte is off. -/
def colour (p : Painter) (byte : UInt8) : Colour := if byte = 1 then p.on else p.off

/-- The square of the byte at an index of the frame. -/
def square (p : Painter) (index : Nat) (byte : UInt8) : Square where
  x := index % p.resolution.width * p.scale
  y := index / p.resolution.width * p.scale
  side := p.scale
  colour := p.colour byte

/-- The squares of a frame, in the order of its bytes. -/
def squares (p : Painter) (frame : Frame) : Array Square := frame.mapIdx p.square

/-- A byte that is neither zero nor one. -/
def isStray (byte : UInt8) : Bool := byte != 0 && byte != 1

/-- Paint the whole frame, or refuse a frame of the wrong size. -/
def render {σ : Type} [Surface σ] (p : Painter) (frame : Frame) (surface : σ) :
    Except FrameMismatch (Painted σ) :=
  if frame.size = p.resolution.area then
    .ok ⟨(p.squares frame).foldl (fun surface q => Surface.paint q surface) surface,
      frame.countP isStray⟩
  else .error ⟨p.resolution.area, frame.size⟩

end Painter

end HexPlayer
