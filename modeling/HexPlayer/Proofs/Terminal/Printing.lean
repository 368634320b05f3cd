import HexPlayer.Proofs.Terminal.Drawing
import HexPlayer.Terminal.Screen

/-!
# Printing sheets

A sheet is printed where it differs from the one before. As long as all tiles to the left of some
column are plain, their characters stand where the tiles are, whatever text is printed from that
column on: if the screen showed the sheet before there, it shows the new one afterwards
(`shows_print`). No glyph may go beyond the sheet, or it would hide the first tile of the next row.
-/

namespace HexPlayer.Terminal

namespace Grid

variable {α : Type}

/-- The places of a grid by their indices. -/
theorem places_eq (g : Grid α) :
    g.places = (List.range (g.width * g.height)).map fun i => (i % g.width, i / g.width) := by
  have upto (rows : Nat) :
      ((List.range rows).flatMap fun y => (List.range g.width).map fun x => (x, y)) =
        (List.range (g.width * rows)).map fun i => (i % g.width, i / g.width) := by
    induction rows with
    | zero => rfl
    | succ rows ih =>
      rw [List.range_succ, List.flatMap_append, ih, Nat.mul_succ, List.range_add, List.map_append,
        List.flatMap_singleton, List.map_map]
      congr 1
      refine List.map_congr_left fun x inRow => ?_
      have inWidth : x < g.width := List.mem_range.mp inRow
      simp only [Function.comp_apply, Nat.mul_add_mod, Nat.mod_eq_of_lt inWidth,
        Nat.mul_add_div (Nat.zero_lt_of_lt inWidth), Nat.div_eq_of_lt inWidth, Nat.add_zero]
  exact upto g.height

/-- A row of values changes nothing in other rows and nothing to the left of its start. -/
theorem cell?_putRow_of_outside {x y x' y' : Nat} (outside : y' = y → x' < x) (values : List α)
    (g : Grid α) : (g.putRow y x values).cell? x' y' = g.cell? x' y' := by
  induction values generalizing x g with
  | nil => rfl
  | cons value rest ih =>
    have elsewhere : ¬ (x' = x ∧ y' = y) := fun ⟨column, row⟩ =>
      Nat.lt_irrefl x (column ▸ outside row)
    rw [putRow, ih (fun row => Nat.lt_succ_of_lt (outside row)), cell?_modify, if_neg elsewhere]

end Grid

/-- What a cell shows of a tile with one character. -/
def Tile.face (tile : Tile) : Cell := ⟨tile.glyph.chars.headD ' ', tile.style⟩

/-- The screen shows the tiles of a sheet to the left of a column. -/
def Screen.Shows (edge : Nat) (s : Sheet) (screen : Screen) : Prop :=
  ∀ x y tile, x < edge → s.cell? x y = some tile → screen.cell? x y = some tile.face

namespace Printer

/-- Up to a column the text that was printed last ends where its tile does, and behind the column it
does not end before it. -/
def InStep (edge : Nat) (p : Printer) : Prop :=
  ∀ x y, p.next = some (x, y) → (x ≤ edge → p.cursor = x) ∧ (edge ≤ x → edge ≤ p.cursor)

section Print

variable {edge x y : Nat} {p : Printer}

/-- To the left of the column a plain tile is printed into its own cell. -/
theorem print_of_lt (inStep : p.InStep edge) (left : x < edge) {tile : Tile} (plain : tile.Plain) :
    (p.print x y tile).screen = (p.screen.modify x y fun _ => tile.face) ∧
      (p.print x y tile).InStep edge := by
  obtain ⟨screen, next, cursor, hidden, stale⟩ := p
  obtain ⟨c, isNarrow⟩ := plain.glyph
  have isStart : (if next = some (x, y) then cursor else x) = x := by
    split
    next behind => exact (inStep x y behind).1 (Nat.le_of_lt left)
    next => rfl
  have chars : tile.glyph.chars = [c] := congrArg Text.Glyph.chars isNarrow
  simp only [print, isStart, chars, List.map_cons, List.map_nil, Grid.putRow, List.length_cons,
    List.length_nil, Nat.zero_add, Tile.face, List.headD_cons, true_and]
  intro x' y' isNext
  obtain ⟨rfl, rfl⟩ := Prod.ext_iff.mp (Option.some.inj isNext)
  exact ⟨fun _ => rfl, fun atEdge => atEdge⟩

/-- From the column on nothing is printed to the left of it. -/
theorem print_of_le (inStep : p.InStep edge) (right : edge ≤ x) (tile : Tile) :
    (∀ x' y', x' < edge → (p.print x y tile).screen.cell? x' y' = p.screen.cell? x' y') ∧
      (p.print x y tile).InStep edge := by
  obtain ⟨screen, next, cursor, hidden, stale⟩ := p
  have isStart : edge ≤ if next = some (x, y) then cursor else x := by
    split
    next behind => exact (inStep x y behind).2 right
    next => exact right
  constructor
  · intro x' y' left
    exact Grid.cell?_putRow_of_outside (fun _ => Nat.lt_of_lt_of_le left isStart) _ _
  · intro x' y' isNext
    obtain ⟨rfl, rfl⟩ := Prod.ext_iff.mp (Option.some.inj isNext)
    exact ⟨fun atEdge => absurd (Nat.lt_of_le_of_lt right atEdge) (Nat.lt_irrefl _),
      fun _ => Nat.le_add_right_of_le isStart⟩

end Print

/-- The printer has passed the first `n` tiles. -/
structure Passed (edge : Nat) (before after : Sheet) (n : Nat) (p : Printer) : Prop where
  /-- The tiles that were passed show the new sheet. -/
  behind : ∀ x y tile, x < edge → y * after.width + x < n → after.cell? x y = some tile →
    p.screen.cell? x y = some tile.face
  /-- The other ones show the sheet before. -/
  ahead : ∀ x y tile, x < edge → n ≤ y * after.width + x → before.cell? x y = some tile →
    p.screen.cell? x y = some tile.face
  inStep : p.InStep edge
  /-- The tile at hand is hidden by a wide one only. -/
  hidden : p.hidden = true → ∃ m tile, m + 1 = n ∧
    after.cell? (m % after.width) (m / after.width) = some tile ∧ 1 < tile.glyph.columns

section Pass

variable {edge : Nat} {before after : Sheet}
  (plain : ∀ x y tile, x < edge → after.cell? x y = some tile → tile.Plain)
  (fits : after.Each (Tile.FitsIn after.width))
include plain fits

/-- No tile to the left of the column is hidden, not even the first one of a row. -/
theorem Passed.not_hidden {n : Nat} {p : Printer} (passed : Passed edge before after n p)
    (left : n % after.width < edge) : p.hidden = false := by
  refine Bool.eq_false_iff.mpr fun isHidden => ?_
  obtain ⟨m, tile, rfl, isTile, wide⟩ := passed.hidden isHidden
  obtain ⟨column, fit⟩ := fits _ _ _ isTile
  have inRow : m % after.width + 1 < after.width := by omega
  have next : (m + 1) % after.width = m % after.width + 1 := by
    rw [Nat.add_mod, Nat.mod_eq_of_lt (by omega : 1 < after.width), Nat.mod_eq_of_lt inRow]
  obtain ⟨c, isNarrow⟩ := (plain _ _ _ (by omega : m % after.width < edge) isTile).glyph
  rw [isNarrow] at wide
  exact Nat.lt_irrefl 1 wide

/-- What printing the tile at hand, if it is due, does to the left of the column: afterwards its
cell shows it, and the other cells show what they did. -/
theorem Passed.printed {n : Nat} {p : Printer} (passed : Passed edge before after n p)
    {old tile : Tile} (isOld : before.cell? (n % after.width) (n / after.width) = some old)
    (isTile : after.cell? (n % after.width) (n / after.width) = some tile) :
    let x := n % after.width
    let y := n / after.width
    let q := if p.isDue old tile then p.print x y tile else p
    q.InStep edge ∧ (x < edge → q.screen.cell? x y = some tile.face) ∧
      ∀ x' y', x' < edge → ¬ (x' = x ∧ y' = y) →
        q.screen.cell? x' y' = p.screen.cell? x' y' := by
  intro x y q
  have index : y * after.width + x = n := Nat.div_add_mod' n after.width
  have showsOld (left : x < edge) : p.screen.cell? x y = some old.face :=
    passed.ahead x y old left (Nat.le_of_eq index.symm) isOld
  by_cases due : p.isDue old tile = true
  · have isPrinted : q = p.print x y tile := if_pos due
    rw [isPrinted]
    rcases Nat.lt_or_ge x edge with left | right
    · have isPlain := plain x y tile left isTile
      obtain ⟨screen, inStep⟩ := print_of_lt (y := y) passed.inStep left isPlain
      rw [screen]
      refine ⟨inStep, fun _ => ?_, fun x' y' _ other => ?_⟩
      · rw [Grid.cell?_modify, if_pos ⟨rfl, rfl⟩, showsOld left, Option.map_some]
      · rw [Grid.cell?_modify, if_neg other]
    · obtain ⟨same, inStep⟩ := print_of_le (y := y) passed.inStep right tile
      exact ⟨inStep, fun left => absurd left (Nat.not_lt.mpr right), fun x' y' left _ =>
        same x' y' left⟩
  · have isPassed : q = p := if_neg due
    rw [isPassed]
    refine ⟨passed.inStep, fun left => ?_, fun _ _ _ _ => rfl⟩
    -- a tile that is neither hidden nor due is the one before
    have unchanged : tile = old := by
      have visible := passed.not_hidden plain fits left
      simp only [isDue, visible, Bool.not_false, Bool.true_and, Bool.or_eq_true, bne_iff_ne,
        decide_eq_true_eq, not_or, ne_eq, Decidable.not_not] at due
      exact due.1
    rw [unchanged]
    exact showsOld left

/-- Visiting one more tile. -/
theorem Passed.visit {n : Nat} {p : Printer} (passed : Passed edge before after n p)
    {old tile : Tile} (isOld : before.cell? (n % after.width) (n / after.width) = some old)
    (isTile : after.cell? (n % after.width) (n / after.width) = some tile) :
    Passed edge before after (n + 1)
      (p.visit (n % after.width) (n / after.width) old tile) := by
  obtain ⟨inStep, here, elsewhere⟩ := passed.printed plain fits isOld isTile
  have index : n / after.width * after.width + n % after.width = n := Nat.div_add_mod' n _
  refine ⟨fun x y other left within isOther => ?_, fun x y other left beyond isOther => ?_,
    inStep, fun wide => ⟨n, tile, rfl, isTile, of_decide_eq_true wide⟩⟩
  · by_cases isHere : x = n % after.width ∧ y = n / after.width
    · obtain ⟨rfl, rfl⟩ := isHere
      obtain rfl := Option.some.inj (isTile.symm.trans isOther)
      exact here left
    · have earlier : y * after.width + x < n := by
        have inWidth := ((after.isSome_cell? x y).mp (Option.isSome_of_mem isOther)).1
        have differs : y * after.width + x ≠ n := fun same => isHere
          (Grid.place_eq_of_index (Nat.mod_lt n (by omega)) inWidth (index.trans same.symm))
        omega
      exact (elsewhere x y left isHere).trans (passed.behind x y other left earlier isOther)
  · have isElsewhere : ¬ (x = n % after.width ∧ y = n / after.width) := by
      rintro ⟨rfl, rfl⟩
      omega
    exact (elsewhere x y left isElsewhere).trans
      (passed.ahead x y other left (Nat.le_of_succ_le beyond) isOther)

variable (width : before.width = after.width) (height : before.height = after.height)
include width height

/-- Visiting the first tiles of a sheet. -/
theorem passed_visitAll {screen : Screen} (shows : screen.Shows edge before) {n : Nat}
    (inSheet : n ≤ after.width * after.height) :
    Passed edge before after n (visitAll before after
      ((List.range n).map fun i => (i % after.width, i / after.width)) { screen }) := by
  induction n with
  | zero =>
    exact ⟨fun _ _ _ _ passed => absurd passed (Nat.not_lt_zero _),
      fun x y tile left _ isTile => shows x y tile left isTile, fun _ _ isNext => (nomatch isNext),
      fun isHidden => (nomatch isHidden)⟩
  | succ n ih =>
    have last (places : List (Nat × Nat)) (x y : Nat) :
        visitAll before after (places ++ [(x, y)]) { screen } =
          (visitAll before after places { screen }).visit x y ((before.cell? x y).getD {})
            ((after.cell? x y).getD {}) := List.foldl_append ..
    rw [List.range_succ, List.map_append, List.map_singleton, last]
    have positive : 0 < after.width := Nat.pos_of_mul_pos_right (Nat.zero_lt_of_lt inSheet)
    have place : n % after.width < after.width ∧ n / after.width < after.height :=
      ⟨Nat.mod_lt n positive, Nat.div_lt_of_lt_mul inSheet⟩
    obtain ⟨tile, isTile⟩ := Option.isSome_iff_exists.mp ((after.isSome_cell? _ _).mpr place)
    have placeBefore : n % after.width < before.width ∧ n / after.width < before.height := by
      rw [width, height]
      exact place
    obtain ⟨old, isOld⟩ := Option.isSome_iff_exists.mp
      ((before.isSome_cell? _ _).mpr placeBefore)
    rw [isOld, isTile]
    exact (ih (Nat.le_of_succ_le inSheet)).visit plain fits isOld isTile

end Pass

end Printer

/-- A sheet is printed onto a screen that shows the sheet before it: to the left of a column before
which its tiles are plain, the screen shows the new sheet. -/
theorem Screen.shows_print {edge : Nat} {before after : Sheet}
    (plain : ∀ x y tile, x < edge → after.cell? x y = some tile → tile.Plain)
    (fits : after.Each (Tile.FitsIn after.width)) (width : before.width = after.width)
    (height : before.height = after.height) {screen : Screen} (shows : screen.Shows edge before) :
    (screen.print before after).Shows edge after := by
  intro x y tile left isTile
  have inSheet : x < after.width ∧ y < after.height :=
    (after.isSome_cell? x y).mp (Option.isSome_of_mem isTile)
  have passed := Printer.passed_visitAll plain fits width height shows (Nat.le_refl _)
  rw [← Grid.places_eq] at passed
  exact passed.behind x y tile left (Grid.index_lt inSheet.1 inSheet.2) isTile

end HexPlayer.Terminal
