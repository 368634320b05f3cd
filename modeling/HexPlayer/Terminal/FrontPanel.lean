import HexPlayer.Session.Devices

/-!
# The front panel

The panel as lines of text: the title and the run state, the sixteen keys in four rows with the held
ones reversed, and what the command keys do.
-/

namespace HexPlayer.Terminal

/-- Some text in one style. -/
structure Piece where
  text : String
  reversed : Bool := false
  deriving DecidableEq, Repr

namespace FrontPanel

/-- What the command keys do. -/
def help : List String :=
  ["space  run/pause", "enter  step", "bksp   reset", "up/dn  change rom", "esc    quit"]

/-- A line in plain style. -/
def plain (text : String) : List Piece := [{ text }]

/-- The label of a key: its character in upper case, or a question mark, between two blanks. -/
def label (p : Panel) (k : Key) : String :=
  String.ofList [' ', ((p.layout.charFor? k).getD '?').toUpper, ' ']

/-- The label of a key, reversed while the key is held. -/
def keyPiece (p : Panel) (k : Key) : Piece := ⟨label p k, p.lamps.isOn k⟩

/-- The keys of a row. -/
def rowKeys (row : Fin 4) : List Key :=
  (List.finRange 4).map fun col => ⟨row.val * 4 + col.val, by omega⟩

/-- The lines of the panel. -/
def lines (p : Panel) : List (List Piece) :=
  [plain ("rom:   " ++ p.title.getD "-"), plain ("state: " ++ p.state.text), plain ""] ++
    (List.finRange 4).map (fun row => (rowKeys row).map (keyPiece p)) ++
    plain "" :: help.map plain

end FrontPanel

end HexPlayer.Terminal
