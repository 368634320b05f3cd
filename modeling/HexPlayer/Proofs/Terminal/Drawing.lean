import HexPlayer.Terminal.Scene

/-!
# Drawing into rectangles

What is drawn into a rectangle stays in it: `DrawnIn` says that the tiles outside are as they were.
What holds of every tile of a sheet stays so under a drawing that respects it: `Each`. Boxes, and
the panel with whatever text, are followed here by both.
-/

namespace HexPlayer.Terminal

/-- The rectangle has the cell at column `x` of row `y`. -/
structure Rect.Has (r : Rect) (x y : Nat) : Prop where
  column : r.x ≤ x ∧ x < r.right
  row : r.y ≤ y ∧ y < r.bottom

namespace Rect

variable {r : Rect} {x y : Nat}

theorem mem_columns : x ∈ r.columns ↔ r.x ≤ x ∧ x < r.right := List.mem_range'_1

theorem mem_rows : y ∈ r.rows ↔ r.y ≤ y ∧ y < r.bottom := List.mem_range'_1

theorem hasCell_iff : r.hasCell = true ↔ 0 < r.width ∧ 0 < r.height := by
  simp [hasCell]

theorem hasCell_of_has (has : r.Has x y) : r.hasCell = true := by
  obtain ⟨column, row⟩ := has
  simp only [right, bottom] at column row
  exact hasCell_iff.mpr ⟨by omega, by omega⟩

/-- A cut rectangle has the cells within the width and height that the whole one has. -/
theorem has_cutTo {width height : Nat} :
    (r.cutTo width height).Has x y ↔ r.Has x y ∧ x < width ∧ y < height := by
  constructor
  · rintro ⟨column, row⟩
    simp only [cutTo, right, bottom] at column row
    exact ⟨⟨by simp only [right]; omega, by simp only [bottom]; omega⟩, by omega, by omega⟩
  · rintro ⟨⟨column, row⟩, inWidth, inHeight⟩
    simp only [right, bottom] at column row
    exact ⟨by simp only [cutTo, right]; omega, by simp only [cutTo, bottom]; omega⟩

/-- A cut rectangle that has a cell does not go beyond the width. -/
theorem right_cutTo_le {width height : Nat} (hasCell : (r.cutTo width height).hasCell = true) :
    (r.cutTo width height).right ≤ width := by
  have wide := (hasCell_iff.mp hasCell).1
  simp only [cutTo, right] at wide ⊢
  omega

/-- The cells within a border are cells of the rectangle. -/
theorem has_of_has_inner (has : r.inner.Has x y) : r.Has x y := by
  obtain ⟨column, row⟩ := has
  simp only [inner, right, bottom] at column row
  exact ⟨by simp only [right]; omega, by simp only [bottom]; omega⟩

end Rect

namespace Grid

variable {α : Type}

theorem cell?_filled (width height : Nat) (value : α) (x y : Nat) :
    (filled width height value).cell? x y =
      if x < width ∧ y < height then some value else none := by
  by_cases inside : x < width ∧ y < height
  · simp [cell?, filled, inside, index_lt inside.1 inside.2]
  · simp [cell?, filled, inside]

/-- A grid has the cells within its width and height, and no others. -/
theorem isSome_cell? (g : Grid α) (x y : Nat) :
    (g.cell? x y).isSome ↔ x < g.width ∧ y < g.height := by
  by_cases inside : x < g.width ∧ y < g.height
  · simp [cell?, inside, g.size_eq, index_lt inside.1 inside.2]
  · simp [cell?, inside]

/-- Changing all cells of a list changes the cells on the list, each as if it stood there once, if
a second change of the same cell does nothing more. -/
theorem cell?_modifyAll {f : α → α} (again : ∀ a, f (f a) = f a) (places : List (Nat × Nat))
    (g : Grid α) (x y : Nat) :
    (g.modifyAll places f).cell? x y =
      if (x, y) ∈ places then (g.cell? x y).map f else g.cell? x y := by
  induction places generalizing g with
  | nil => rfl
  | cons place rest ih =>
    have step : g.modifyAll (place :: rest) f =
        (g.modify place.1 place.2 f).modifyAll rest f := rfl
    rw [step, ih, cell?_modify]
    by_cases here : x = place.1 ∧ y = place.2
    · obtain ⟨rfl, rfl⟩ := here
      cases g.cell? place.1 place.2 <;> simp [again]
    · have other : (x, y) ≠ place := fun same =>
        here ⟨congrArg Prod.fst same, congrArg Prod.snd same⟩
      simp [here, other]

end Grid

/-- The tile has one character of one column, and is not reversed. -/
structure Tile.Plain (tile : Tile) : Prop where
  glyph : ∃ c, tile.glyph = .narrow c
  style : tile.style.reversed = false

namespace Sheet

/-- One sheet is the other one drawn on in a rectangle. -/
structure DrawnIn (r : Rect) (before after : Sheet) : Prop where
  width : after.width = before.width
  height : after.height = before.height
  outside : ∀ {x y}, ¬ r.Has x y → after.cell? x y = before.cell? x y

namespace DrawnIn

variable {r : Rect} {s t u : Sheet}

theorem refl (r : Rect) (s : Sheet) : DrawnIn r s s := ⟨rfl, rfl, fun _ => rfl⟩

theorem trans (first : DrawnIn r s t) (second : DrawnIn r t u) : DrawnIn r s u :=
  ⟨second.width.trans first.width, second.height.trans first.height,
    fun other => (second.outside other).trans (first.outside other)⟩

theorem foldl {α : Type} {draw : Sheet → α → Sheet} {items : List α}
    (each : ∀ item ∈ items, ∀ s, DrawnIn r s (draw s item)) (s : Sheet) :
    DrawnIn r s (items.foldl draw s) := by
  induction items generalizing s with
  | nil => exact refl r s
  | cons item items ih =>
    exact (each item List.mem_cons_self s).trans
      (ih (fun other member => each other (List.mem_cons_of_mem _ member)) _)

theorem modify {x y : Nat} (has : r.Has x y) (f : Tile → Tile) (s : Sheet) :
    DrawnIn r s (s.modify x y f) where
  width := rfl
  height := rfl
  outside := fun {x' y'} other => by
    have elsewhere : ¬ (x' = x ∧ y' = y) := fun ⟨column, row⟩ => other (column ▸ row ▸ has)
    rw [Grid.cell?_modify, if_neg elsewhere]

theorem modifyAll {places : List (Nat × Nat)} (inside : ∀ place ∈ places, r.Has place.1 place.2)
    (f : Tile → Tile) (s : Sheet) : DrawnIn r s (s.modifyAll places f) :=
  foldl (fun place member s => modify (inside place member) f s) s

theorem fillBackground (r : Rect) (colour : Colour) (s : Sheet) :
    DrawnIn r s (s.fillBackground r colour) := by
  refine modifyAll (fun place member => ?_) _ s
  simp only [List.mem_flatMap, List.mem_map] at member
  obtain ⟨y, isRow, x, isColumn, rfl⟩ := member
  exact ⟨Rect.mem_columns.mp isColumn, Rect.mem_rows.mp isRow⟩

theorem border (hasCell : r.hasCell = true) (s : Sheet) : DrawnIn r s (s.border r) := by
  obtain ⟨wide, tall⟩ := Rect.hasCell_iff.mp hasCell
  have left : r.x ≤ r.x ∧ r.x < r.right := by simp only [Rect.right]; omega
  have right : r.x ≤ r.right - 1 ∧ r.right - 1 < r.right := by simp only [Rect.right]; omega
  have top : r.y ≤ r.y ∧ r.y < r.bottom := by simp only [Rect.bottom]; omega
  have bottom : r.y ≤ r.bottom - 1 ∧ r.bottom - 1 < r.bottom := by simp only [Rect.bottom]; omega
  have upright {x : Nat} (isColumn : r.x ≤ x ∧ x < r.right) (c : Char) (s : Sheet) :
      DrawnIn r s (s.putAll (r.rows.map fun y => (x, y)) c) := by
    refine modifyAll (fun place member => ?_) _ s
    obtain ⟨y, isRow, rfl⟩ := List.mem_map.mp member
    exact ⟨isColumn, Rect.mem_rows.mp isRow⟩
  have level {y : Nat} (isRow : r.y ≤ y ∧ y < r.bottom) (c : Char) (s : Sheet) :
      DrawnIn r s (s.putAll (r.columns.map fun x => (x, y)) c) := by
    refine modifyAll (fun place member => ?_) _ s
    obtain ⟨x, isColumn, rfl⟩ := List.mem_map.mp member
    exact ⟨Rect.mem_columns.mp isColumn, isRow⟩
  have corner {x y : Nat} (isColumn : r.x ≤ x ∧ x < r.right) (isRow : r.y ≤ y ∧ y < r.bottom)
      (c : Char) (s : Sheet) : DrawnIn r s (s.putAll [(x, y)] c) :=
    modify ⟨isColumn, isRow⟩ _ s
  exact (upright left _ _).trans <| (level top _ _).trans <| (upright right _ _).trans <|
    (level bottom _ _).trans <| (corner right bottom _ _).trans <| (corner right top _ _).trans <|
    (corner left bottom _ _).trans (corner left top _ _)

theorem putTitle {y : Nat} (isRow : r.y ≤ y ∧ y < r.bottom) {x : Nat} (isColumn : r.x ≤ x)
    {title : List Char} (fits : x + title.length ≤ r.right) (s : Sheet) :
    DrawnIn r s (s.putTitle y x title) := by
  induction title generalizing x s with
  | nil => exact refl r s
  | cons c rest ih =>
    rw [List.length_cons] at fits
    have first : DrawnIn r s (s.putAll [(x, y)] c) := modify ⟨⟨isColumn, by omega⟩, isRow⟩ _ s
    exact first.trans (ih (by omega) (by omega) _)

theorem box (hasCell : r.hasCell = true) (title : String) (s : Sheet) :
    DrawnIn r s (s.box r title) := by
  obtain ⟨wide, tall⟩ := Rect.hasCell_iff.mp hasCell
  have short : (title.toList.take (r.width - 2)).length ≤ r.width - 2 := List.length_take_le ..
  have top : r.y ≤ r.y ∧ r.y < r.bottom := by simp only [Rect.bottom]; omega
  exact (border hasCell s).trans
    (putTitle top (by omega) (by simp only [Rect.right]; omega) _)

end DrawnIn

/-- Every tile of the sheet has a property, which may depend on its column. -/
def Each (P : Nat → Tile → Prop) (s : Sheet) : Prop :=
  ∀ x y tile, s.cell? x y = some tile → P x tile

namespace Each

variable {P : Nat → Tile → Prop} {s : Sheet}

theorem modify (each : Each P s) {x : Nat} {f : Tile → Tile}
    (keeps : ∀ tile, P x tile → P x (f tile)) (y : Nat) : Each P (s.modify x y f) := by
  intro x' y' tile isTile
  rw [Grid.cell?_modify] at isTile
  split at isTile
  next here =>
    obtain ⟨old, isOld, rfl⟩ := Option.map_eq_some_iff.mp isTile
    exact here.1 ▸ keeps old (each _ _ _ isOld)
  next => exact each _ _ _ isTile

theorem foldl {α : Type} {draw : Sheet → α → Sheet} {items : List α}
    (keeps : ∀ item ∈ items, ∀ s, Each P s → Each P (draw s item)) (each : Each P s) :
    Each P (items.foldl draw s) := by
  induction items generalizing s with
  | nil => exact each
  | cons item items ih =>
    exact ih (fun other member => keeps other (List.mem_cons_of_mem _ member))
      (keeps item List.mem_cons_self s each)

theorem modifyAll {f : Tile → Tile} (keeps : ∀ x tile, P x tile → P x (f tile))
    (each : Each P s) (places : List (Nat × Nat)) : Each P (s.modifyAll places f) :=
  foldl (fun place _ _ each => each.modify (keeps place.1) place.2) each

section Narrow

variable (narrow : ∀ x tile c, P x tile → P x { tile with glyph := .narrow c })
include narrow

theorem putAll (each : Each P s) (places : List (Nat × Nat)) (c : Char) :
    Each P (s.putAll places c) :=
  each.modifyAll (fun x tile holds => narrow x tile c holds) places

theorem putTitle (each : Each P s) (y x : Nat) (title : List Char) :
    Each P (s.putTitle y x title) := by
  induction title generalizing x s with
  | nil => exact each
  | cons c rest ih => exact ih (each.putAll narrow [(x, y)] c) (x + 1)

theorem box (each : Each P s) (r : Rect) (title : String) : Each P (s.box r title) := by
  refine putTitle narrow ?_ _ _ _
  unfold Sheet.border
  dsimp only
  repeat refine putAll narrow ?_ _ _
  exact each

end Narrow

end Each

end Sheet

/-- The tile is in the width, and its glyph does not go beyond it. -/
structure Tile.FitsIn (width x : Nat) (tile : Tile) : Prop where
  column : x < width
  glyph : x + tile.glyph.columns ≤ width

namespace Scene

/-- A line of the panel that is written within a border. -/
theorem drawnIn_putLines {r : Rect} (wide : 2 ≤ r.width) (lines : List (List Piece)) (s : Sheet) :
    Sheet.DrawnIn r s (putLines r.inner lines s) := by
  refine .foldl (fun (y, line) member s => .foldl (fun (x, tile) isSet s => .modify ?_ _ s) s) s
  obtain ⟨-, fits⟩ := le_and_add_columns_le_of_mem_setLine isSet
  have isRow := Rect.mem_rows.mp (List.of_mem_zip member).1
  dsimp only at fits
  simp only [Rect.inner, Rect.bottom] at isRow fits
  exact ⟨by simp only [Rect.inner, Rect.right]; omega, by simp only [Rect.bottom]; omega⟩

/-- The panel changes no tile outside its box. -/
theorem drawnIn_panel {r : Rect} (hasCell : r.hasCell = true) (shown : Panel) (s : Sheet) :
    Sheet.DrawnIn r s (panel shown r s) := by
  have box := Sheet.DrawnIn.box hasCell "keypad" s
  unfold panel
  dsimp only
  split
  next hasInner =>
    obtain ⟨wide, -⟩ := Rect.hasCell_iff.mp hasInner
    simp only [Rect.inner] at wide
    exact box.trans (drawnIn_putLines (by omega) _ _)
  next => exact box

/-- The glyphs of the panel do not go beyond a width that its box does not go beyond. -/
theorem fitsIn_panel {r : Rect} {width : Nat} (inside : r.right ≤ width) (shown : Panel)
    {s : Sheet} (each : s.Each (Tile.FitsIn width)) :
    (panel shown r s).Each (Tile.FitsIn width) := by
  have box : (s.box r "keypad").Each (Tile.FitsIn width) :=
    each.box (fun _ _ _ fits => ⟨fits.column, fits.column⟩) r "keypad"
  unfold panel
  dsimp only
  split
  next hasInner =>
    obtain ⟨wide, -⟩ := Rect.hasCell_iff.mp hasInner
    simp only [Rect.inner] at wide
    simp only [Rect.right] at inside
    refine Sheet.Each.foldl (fun (y, line) _ s each => Sheet.Each.foldl
      (fun (x, tile) isSet s each => each.modify (fun _ _ => ?_) _) each) box
    obtain ⟨-, fits⟩ := le_and_add_columns_le_of_mem_setLine isSet
    simp only [Rect.inner] at fits
    exact ⟨by simp only [Rect.inner]; omega, by simp only [Rect.inner]; omega⟩
  next => exact box

end Scene

end HexPlayer.Terminal
