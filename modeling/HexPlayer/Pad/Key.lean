/-!
# Keys of the keypad

The machine reads sixteen input lines. A key is one of them, an edge says whether it goes down or
comes up, and a stroke is one edge of one key.
-/

namespace HexPlayer

/-- One of the sixteen input lines, `0x0` to `0xf`. -/
abbrev Key := Fin 16

/-- A key goes down or comes up. -/
inductive Edge where
  | pressed
  | released
  deriving DecidableEq, Repr

/-- One edge of one key. -/
structure Stroke where
  key : Key
  edge : Edge
  deriving DecidableEq, Repr

namespace Key

/-- The number of input lines. -/
def count : Nat := 16

/-- The key of an input line; lines from sixteen on have none. -/
def ofLine? (line : Nat) : Option Key :=
  if h : line < 16 then some ⟨line, h⟩ else none

/-- Every key, in line order. -/
def all : List Key := List.finRange 16

/-- The line as one upper-case hexadecimal digit. -/
def text (k : Key) : String :=
  String.singleton (Nat.digitChar k.val).toUpper

theorem ofLine?_eq_some_iff {line : Nat} {k : Key} : ofLine? line = some k ↔ k.val = line := by
  unfold ofLine?
  split
  · simp [Fin.ext_iff, eq_comm]
  · constructor
    · intro h
      simp at h
    · intro h
      exact absurd k.isLt (by omega)

theorem ofLine?_eq_none_iff {line : Nat} : ofLine? line = none ↔ 16 ≤ line := by
  simp [ofLine?]

theorem mem_all (k : Key) : k ∈ all := List.mem_finRange k

end Key

end HexPlayer
