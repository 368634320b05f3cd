import HexPlayer.Proofs.Pad.Bindings
import HexPlayer.Terminal.FrontPanel

/-!
# The keypad on the front panel

Every key has its place in the four rows of the panel. There it stands with the character that is
bound to it, reversed while the last edge of that character was a press.
-/

namespace HexPlayer

namespace Lamps

/-- The lamps after edges of host characters, all dark at first. -/
def hearAll (layout : Layout) (edges : List (Char × Edge)) : Lamps :=
  edges.foldl (fun lamps told => lamps.hear layout told.1 told.2) dark

/-- The last edge of a character that stands for the key. -/
def lastEdge? (layout : Layout) (k : Key) (edges : List (Char × Edge)) : Option Edge :=
  ((edges.filter fun told => layout.key? told.1 = some k).getLast?).map Prod.snd

section

variable (layout : Layout) (edges : List (Char × Edge)) (c : Char) (edge : Edge) (k : Key)

theorem hearAll_concat :
    hearAll layout (edges ++ [(c, edge)]) = (hearAll layout edges).hear layout c edge :=
  List.foldl_concat ..

/-- An edge sets the lamp of the key that its character stands for. -/
theorem isOn_hear (l : Lamps) :
    (l.hear layout c edge).isOn k =
      if layout.key? c = some k then edge == .pressed else l.isOn k := by
  unfold hear Layout.stroke?
  cases found : layout.key? c with
  | none => simp
  | some key => simp [isOn_register, eq_comm]

theorem lastEdge?_concat :
    lastEdge? layout k (edges ++ [(c, edge)]) =
      if layout.key? c = some k then some edge else lastEdge? layout k edges := by
  unfold lastEdge?
  rw [List.filter_append]
  split
  next mapped => simp [mapped]
  next unmapped => simp [unmapped]

/-- A lamp is lit if and only if the last edge of its key is a press. -/
theorem isOn_hearAll :
    (hearAll layout edges).isOn k = (lastEdge? layout k edges == some .pressed) := by
  induction edges using List.reverseRecOn with
  | nil => simp [hearAll, lastEdge?]
  | append_singleton edges told ih =>
    rw [hearAll_concat, isOn_hear, lastEdge?_concat, ih]
    split <;> rfl

end

/-- An edge of a character without a key leaves the lamps alone. -/
theorem hear_of_unmapped {layout : Layout} {c : Char} (unmapped : layout.key? c = none) (l : Lamps)
    (edge : Edge) : l.hear layout c edge = l := by
  simp [hear, Layout.stroke?, unmapped]

end Lamps

namespace Terminal.FrontPanel

open Lamps (hearAll lastEdge?)

/-- What stands at the place of a key: four keys in a line, the first line of them below three
others. -/
def placeOf? (p : Panel) (k : Key) : Option Piece :=
  (lines p)[3 + k.val / 4]?.bind fun keys => keys[k.val % 4]?

/-- A panel whose lamps have heard the edges. -/
def panelAfter (state : RunState) (title : Option String) (layout : Layout)
    (edges : List (Char × Edge)) : Panel where
  state := state
  title := title
  lamps := hearAll layout edges
  layout := layout

/-- A key stands at its place. -/
theorem placeOf?_eq (p : Panel) (k : Key) : placeOf? p k = some (keyPiece p k) := by
  have row : k.val / 4 < 4 := by omega
  have col : k.val % 4 < 4 := by omega
  have keys : (lines p)[3 + k.val / 4]? = some ((rowKeys ⟨k.val / 4, row⟩).map (keyPiece p)) := by
    rw [lines, List.append_assoc, List.getElem?_append_right (by simp),
      List.getElem?_append_left (by simp; omega)]
    simp [row]
  have key : (rowKeys ⟨k.val / 4, row⟩)[k.val % 4]? = some k := by
    simp [rowKeys, col, Fin.ext_iff]
    omega
  rw [placeOf?, keys, Option.bind_some, List.getElem?_map, key, Option.map_some]

/-- An edge turns the key that its character stands for and no other. -/
theorem placeOf?_concat (state : RunState) (title : Option String) {layout : Layout} {c : Char}
    {k : Key} (mapped : layout.key? c = some k) (edges : List (Char × Edge)) (edge : Edge)
    (key : Key) :
    placeOf? (panelAfter state title layout (edges ++ [(c, edge)])) key =
      (placeOf? (panelAfter state title layout edges) key).map fun piece =>
        if k = key then { piece with reversed := edge == .pressed } else piece := by
  have lamp : (hearAll layout (edges ++ [(c, edge)])).isOn key =
      if k = key then edge == .pressed else (hearAll layout edges).isOn key := by
    rw [Lamps.hearAll_concat, Lamps.isOn_hear, mapped]
    simp only [Option.some.injEq]
  rw [placeOf?_eq, placeOf?_eq, Option.map_some, keyPiece, keyPiece, panelAfter, panelAfter, lamp]
  split <;> rfl

section Labels

variable {p : Panel} {pairs : List (Char × Nat)} {k : Key}

/-- The label of a key is the character that stands for it, in upper case. -/
theorem label_of_key? (table : p.layout.Tabulates pairs) (once : p.layout.BindsOnce k) {c : Char}
    (found : p.layout.key? c = some k) : label p k = String.ofList [' ', c.toUpper, ' '] := by
  rw [label, table.charFor?_of_key? once found, Option.getD_some, Char.toUpper_toLower_eq_toUpper]

/-- The label of a key that no character stands for is a question mark. -/
theorem label_of_unbound (table : p.layout.Tabulates pairs)
    (unbound : ∀ c, p.layout.key? c ≠ some k) : label p k = " ? " := by
  cases bound : p.layout.charFor? k with
  | none => simp [label, bound]
  | some c => exact absurd (table.key?_of_charFor? bound).1 (unbound c)

end Labels

/-- Every key stands at its place with the character that is bound to it, or a question mark, and
is reversed if and only if the last edge that has its key is a press. So one more edge of a bound
character, in either case, turns its own key and no other, and an edge of an unbound character
changes nothing on the panel. -/
theorem keypad_after_edges (pairs : List (Char × Nat)) (layout : Layout)
    (table : layout.Tabulates pairs) (once : ∀ k, layout.BindsOnce k)
    (edges : List (Char × Edge)) (state : RunState) (title : Option String) :
    (∀ k, ∃ text,
      placeOf? (panelAfter state title layout edges) k =
          some ⟨text, lastEdge? layout k edges == some .pressed⟩ ∧
        (∀ c, layout.key? c = some k → text = String.ofList [' ', c.toUpper, ' ']) ∧
        ((∀ c, layout.key? c ≠ some k) → text = " ? ")) ∧
      (∀ c d edge k, layout.key? c = some k → SameButCase c d →
        placeOf? (panelAfter state title layout (edges ++ [(d, edge)])) k =
            (placeOf? (panelAfter state title layout edges) k).map
              (fun piece => { piece with reversed := edge == .pressed }) ∧
          ∀ other, other ≠ k →
            placeOf? (panelAfter state title layout (edges ++ [(d, edge)])) other =
              placeOf? (panelAfter state title layout edges) other) ∧
      ∀ c edge, layout.key? c = none →
        lines (panelAfter state title layout (edges ++ [(c, edge)])) =
          lines (panelAfter state title layout edges) := by
  refine ⟨fun k => ?_, ?_, ?_⟩
  · refine ⟨label (panelAfter state title layout edges) k, ?_, ?_, ?_⟩
    · rw [placeOf?_eq, keyPiece, panelAfter, Lamps.isOn_hearAll]
    · exact fun c found => label_of_key? table (once k) found
    · exact fun unbound => label_of_unbound table unbound
  · intro c d edge k found same
    have standsFor : layout.key? d = some k := (layout.key?_congr same).trans found
    constructor
    · simp only [placeOf?_concat state title standsFor, if_true]
    · intro other different
      rw [placeOf?_concat state title standsFor]
      simp [Ne.symm different]
  · intro c edge unmapped
    rw [panelAfter, Lamps.hearAll_concat, Lamps.hear_of_unmapped unmapped, panelAfter]

/-- With `q` bound to key 7 and no character to key 0, a press of `Q` lights key 7 and leaves key 3
lit, and a release of `q` turns it off again. Key 0 has a question mark. -/
theorem keypad_after_mixed_edges :
    placeOf? (panelAfter .running none (.ofPairs Layout.mixedPairs)
        [('c', .pressed), ('Q', .pressed)]) 0 = some ⟨" ? ", false⟩ ∧
      placeOf? (panelAfter .running none (.ofPairs Layout.mixedPairs)
        [('c', .pressed), ('Q', .pressed)]) 7 = some ⟨" Q ", true⟩ ∧
      placeOf? (panelAfter .running none (.ofPairs Layout.mixedPairs)
        [('c', .pressed), ('Q', .pressed), ('q', .released)]) 7 = some ⟨" Q ", false⟩ ∧
      placeOf? (panelAfter .running none (.ofPairs Layout.mixedPairs)
        [('c', .pressed), ('Q', .pressed), ('q', .released)]) 3 = some ⟨" C ", true⟩ := by
  obtain ⟨shown, turned, -⟩ := keypad_after_edges Layout.mixedPairs (.ofPairs Layout.mixedPairs)
    (.refl _) (Layout.bindsOnce_of_nodup (by decide)) [('c', .pressed), ('Q', .pressed)] .running
    none
  obtain ⟨own, others⟩ := turned 'Q' 'q' .released 7 (by decide) (by decide)
  have free (c : Char) : (Layout.ofPairs Layout.mixedPairs).key? c ≠ some 0 := by
    intro found
    have bindings : (Layout.ofPairs Layout.mixedPairs).bindings = [('q', 7), ('c', 3), ('a', 5)] :=
      by decide
    simpa [bindings] using Layout.key?_eq_some_iff.mp found
  obtain ⟨text0, place0, -, unbound0⟩ := shown 0
  obtain ⟨text7, place7, bound7, -⟩ := shown 7
  obtain ⟨text3, place3, bound3, -⟩ := shown 3
  obtain rfl := unbound0 free
  obtain rfl := bound7 'q' (by decide)
  obtain rfl := bound3 'c' (by decide)
  refine ⟨place0.trans (by decide), place7.trans (by decide), own.trans ?_,
    (others 3 (by decide)).trans (place3.trans (by decide))⟩
  rw [place7]
  decide

end Terminal.FrontPanel

end HexPlayer
