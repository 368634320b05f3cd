import HexPlayer.Pad.Key

/-!
# Keyboard layouts

A layout binds characters of the host keyboard to keys. Letters are bound without regard to ASCII
case, a character is bound to one key at most, and the latest binding of a character counts.
-/

namespace HexPlayer

/-- Which character stands for which key; every bound character is in ASCII lower case and stands
once. -/
structure Layout where
  bindings : List (Char × Key)
  distinct : (bindings.map Prod.fst).Nodup

namespace Layout

/-- No character is bound. -/
def empty : Layout := ⟨[], List.Pairwise.nil⟩

/-- Bind a character, in ASCII lower case, in place of what it was bound to. -/
def bind (l : Layout) (c : Char) (k : Key) : Layout where
  bindings := (c.toLower, k) :: l.bindings.filter (fun b => b.1 != c.toLower)
  distinct := by
    rw [List.map_cons, List.nodup_cons]
    refine ⟨by simp, List.Pairwise.sublist (List.Sublist.map _ List.filter_sublist) l.distinct⟩

/-- Bind what a pair of a character and a line asks for; a line without a key binds nothing. -/
def bindLine (l : Layout) (pair : Char × Nat) : Layout :=
  match Key.ofLine? pair.2 with
  | some k => l.bind pair.1 k
  | none => l

/-- The layout of a list of pairs, later pairs over earlier ones. -/
def ofPairs (pairs : List (Char × Nat)) : Layout := pairs.foldl bindLine empty

/-- The key a character stands for, in either ASCII case. -/
def key? (l : Layout) (c : Char) : Option Key :=
  (l.bindings.find? (fun b => b.1 == c.toLower)).map Prod.snd

/-- A character bound to the key, used to label it. -/
def charFor? (l : Layout) (k : Key) : Option Char :=
  (l.bindings.find? (fun b => b.2 == k)).map Prod.fst

/-- The stroke that an edge of a host character makes; an unbound character makes none. -/
def stroke? (l : Layout) (c : Char) (edge : Edge) : Option Stroke :=
  (l.key? c).map fun k => ⟨k, edge⟩

/-- Four rows of four keys, under the digits and the three letter rows of a QWERTY keyboard. -/
def standardPairs : List (Char × Nat) :=
  [('1', 0x0), ('2', 0x1), ('3', 0x2), ('4', 0x3),
   ('q', 0x4), ('w', 0x5), ('e', 0x6), ('r', 0x7),
   ('a', 0x8), ('s', 0x9), ('d', 0xa), ('f', 0xb),
   ('z', 0xc), ('x', 0xd), ('c', 0xe), ('v', 0xf)]

/-- The layout used unless another is asked for. -/
def standard : Layout := ofPairs standardPairs

@[simp]
theorem key?_empty (c : Char) : empty.key? c = none := rfl

theorem key?_bind (l : Layout) (c d : Char) (k : Key) :
    (l.bind c k).key? d = if d.toLower = c.toLower then some k else l.key? d := by
  unfold key? bind
  by_cases h : d.toLower = c.toLower
  · simp [h]
  · have hcd : (c.toLower == d.toLower) = false := beq_eq_false_iff_ne.mpr (Ne.symm h)
    have hkeep : (fun b : Char × Key => decide ((b.1 != c.toLower) = true ∧
        (b.1 == d.toLower) = true)) = fun b => b.1 == d.toLower := by
      funext b
      by_cases hb : b.1 = d.toLower
      · simp [hb, h]
      · simp [hb]
    rw [List.find?_cons_of_neg (by simp [hcd]), List.find?_filter, hkeep, if_neg h]

end Layout

end HexPlayer
