/-!
# The catalog

The catalog lists the programs on offer by title. Moves in it wrap around at both ends.
-/

namespace HexPlayer.Catalog

/-- The titles on offer, in the order in which they are offered. -/
def titles : List String :=
  ["PONG", "15PUZZLE", "BLITZ", "CONNECT4", "HIDDEN", "INVADERS", "MAZE", "MISSILE", "SYZYGY",
   "TETRIS", "UFO", "VERS", "BLINKY", "BRIX", "GUESS", "IBM", "KALEID", "MERLIN", "PUZZLE",
   "TANK", "TICTAC", "VBRIX", "WIPEOFF"]

/-- The title played unless another is asked for. -/
def defaultTitle : String := "PONG"

/-- The most bytes a program can have: the memory of 4096 bytes from address `0x200` on. -/
def maxProgramLength : Nat := 4096 - 0x200

/-- The title is on offer. -/
def isListed (title : String) : Bool := titles.contains title

/-- The title at a position, counted round the catalog in either direction. -/
def entry (position : Int) : String :=
  titles.getD (position % titles.length).toNat defaultTitle

/-- The title `step` places away; the first one if there is no title to start from or it is not
listed. -/
def move (title : Option String) (step : Int) : String :=
  match title.bind fun t => titles.idxOf? t with
  | some index => entry (index + step)
  | none => entry 0

end HexPlayer.Catalog
