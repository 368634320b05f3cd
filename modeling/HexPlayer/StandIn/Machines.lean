import HexPlayer.Session.Devices

/-!
# Stand-in machines

Two machines to try a session on. The marching machine lights one more pixel with every tick, and
the scripted machine shows the frames that it was given.
-/

namespace HexPlayer.StandIn

/-- Lights the pixels one after another, from the first on and over again, and keeps the keys that
are down. -/
structure Marching where
  frame : Frame := Array.replicate 2048 0
  keys : Vector Bool 16 := Vector.replicate 16 false
  ticks : Nat := 0
  /-- The number of bytes to which the next tick cuts the frame first. -/
  cut : Option Nat := none

namespace Marching

/-- Cut the frame if that was asked for, and light the next pixel of what is left. -/
def tick (m : Marching) : Marching :=
  let frame := match m.cut with
    | some length => m.frame.take length
    | none => m.frame
  { m with
    frame := frame.setIfInBounds (m.ticks % frame.size) 1
    ticks := m.ticks + 1
    cut := none }

/-- Clear the frame, the keys and the count of ticks; a frame that was cut stays cut. -/
def reset (m : Marching) : Marching :=
  { m with frame := m.frame.map fun _ => 0, keys := Vector.replicate 16 false, ticks := 0 }

/-- The keys that are down, in line order. -/
def keysDown (m : Marching) : List Key := Key.all.filter m.keys.get

instance : Machine Marching where
  frame := frame
  call
    | .reset, m => m.reset
    | .load _, m => m
    | .tick, m => m.tick
    | .press k, m => { m with keys := m.keys.setIfInBounds k true }
    | .release k, m => { m with keys := m.keys.setIfInBounds k false }

end Marching

/-- Shows frames from a list, one after every tick, and the last one for good. -/
structure Scripted where
  frame : Frame
  script : List Frame

namespace Scripted

/-- Show the next frame, if there is one. -/
def tick (m : Scripted) : Scripted :=
  match m.script with
  | [] => m
  | frame :: script => ⟨frame, script⟩

/-- Clear the frame; its length and the place in the list stay. -/
def reset (m : Scripted) : Scripted := { m with frame := m.frame.map fun _ => 0 }

instance : Machine Scripted where
  frame := frame
  call
    | .reset, m => m.reset
    | .tick, m => m.tick
    | .load _, m | .press _, m | .release _, m => m

end Scripted

end HexPlayer.StandIn
