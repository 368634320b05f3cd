import HexPlayer.Pad.Layout

/-!
# Key lamps

The lamps show which keys the host has seen held down. They belong to the presentation: the machine
keeps its own key state, and a machine reset leaves the lamps alone.
-/

namespace HexPlayer

/-- One lamp per key, lit while the latest stroke of the key was a press. -/
structure Lamps where
  lit : Vector Bool 16
  deriving DecidableEq, Repr

namespace Lamps

/-- No key is held. -/
def dark : Lamps := ⟨Vector.replicate 16 false⟩

/-- The key's lamp is lit. -/
def isOn (l : Lamps) (k : Key) : Bool := l.lit[k]

/-- A stroke sets the lamp of its own key. -/
def register (l : Lamps) (s : Stroke) : Lamps :=
  ⟨l.lit.set s.key (s.edge == .pressed)⟩

/-- What an edge of a host character does to the lamps; an unbound character does nothing. -/
def hear (layout : Layout) (l : Lamps) (c : Char) (edge : Edge) : Lamps :=
  match layout.stroke? c edge with
  | none => l
  | some stroke => l.register stroke

/-- The keys whose lamps are lit, in line order. -/
def litKeys (l : Lamps) : List Key := Key.all.filter l.isOn

@[simp]
theorem isOn_dark (k : Key) : dark.isOn k = false := by
  simp [dark, isOn]

/-- A stroke changes no lamp but that of its key. -/
theorem isOn_register (l : Lamps) (s : Stroke) (k : Key) :
    (l.register s).isOn k = if k = s.key then s.edge == .pressed else l.isOn k := by
  simp only [isOn, register, Fin.getElem_fin, Vector.getElem_set, Fin.ext_iff, eq_comm]

theorem mem_litKeys {l : Lamps} {k : Key} : k ∈ l.litKeys ↔ l.isOn k = true := by
  simp [litKeys, Key.mem_all]

end Lamps

end HexPlayer
