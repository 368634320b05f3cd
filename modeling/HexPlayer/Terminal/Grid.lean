/-!
# Grids

A grid has rows of equally many cells, each with a value. `cell?_modify` says that a change of one
cell leaves the others as they were, and `cell?_resized` that a grid keeps what it holds when it
gets another size.
-/

namespace HexPlayer.Terminal

/-- Cells row by row. -/
structure Grid (α : Type) where
  width : Nat
  height : Nat
  cells : Array α
  size_eq : cells.size = width * height
  deriving DecidableEq

namespace Grid

variable {α : Type}

/-- A grid with one value in all its cells. -/
def filled (width height : Nat) (value : α) : Grid α where
  width := width
  height := height
  cells := Array.replicate (width * height) value
  size_eq := Array.size_replicate

/-- The cell at column `x` of row `y`. -/
def cell? (g : Grid α) (x y : Nat) : Option α :=
  if x < g.width ∧ y < g.height then g.cells[y * g.width + x]? else none

/-- Change one cell; a place outside the grid has none. -/
def modify (x y : Nat) (f : α → α) : Grid α → Grid α
  | ⟨width, height, cells, size_eq⟩ =>
    { width, height
      cells := if x < width ∧ y < height then cells.modify (y * width + x) f else cells
      size_eq := by split <;> simp [size_eq] }

/-- Change every cell of a list of places. -/
def modifyAll (places : List (Nat × Nat)) (f : α → α) (g : Grid α) : Grid α :=
  places.foldl (fun g place => g.modify place.1 place.2 f) g

/-- Put values side by side from `(x, y)` on. -/
def putRow (y : Nat) : (x : Nat) → List α → Grid α → Grid α
  | _, [], g => g
  | x, value :: rest, g => putRow y (x + 1) rest (g.modify x y fun _ => value)

/-- The grid cut or extended to a size, with one value in the cells that are new. -/
def resized (width height : Nat) (value : α) (g : Grid α) : Grid α where
  width := width
  height := height
  cells := Array.ofFn fun i : Fin (width * height) =>
    (g.cell? (i % width) (i / width)).getD value
  size_eq := Array.size_ofFn

/-- The places of the grid, row by row. -/
def places (g : Grid α) : List (Nat × Nat) :=
  (List.range g.height).flatMap fun y => (List.range g.width).map fun x => (x, y)

/-- The rows of the grid, from the top. -/
def rows (g : Grid α) : List (List α) :=
  (List.range g.height).map fun y => (g.cells.extract (y * g.width) ((y + 1) * g.width)).toList

@[simp]
theorem width_modify (g : Grid α) (x y : Nat) (f : α → α) :
    (g.modify x y f).width = g.width := rfl

@[simp]
theorem height_modify (g : Grid α) (x y : Nat) (f : α → α) :
    (g.modify x y f).height = g.height := rfl

theorem width_putRow (y x : Nat) (values : List α) (g : Grid α) :
    (g.putRow y x values).width = g.width := by
  induction values generalizing x g with
  | nil => rfl
  | cons value rest ih => rw [putRow, ih, width_modify]

theorem height_putRow (y x : Nat) (values : List α) (g : Grid α) :
    (g.putRow y x values).height = g.height := by
  induction values generalizing x g with
  | nil => rfl
  | cons value rest ih => rw [putRow, ih, height_modify]

/-- Cells of one grid with different places have different indices. -/
theorem place_eq_of_index {width x y x' y' : Nat} (hx : x < width) (hx' : x' < width)
    (h : y * width + x = y' * width + x') : x' = x ∧ y' = y := by
  have hmod : (y * width + x) % width = (y' * width + x') % width := by rw [h]
  have hdiv : (y * width + x) / width = (y' * width + x') / width := by rw [h]
  have hpos : 0 < width := by omega
  rw [Nat.mul_add_mod_self_right, Nat.mul_add_mod_self_right, Nat.mod_eq_of_lt hx,
    Nat.mod_eq_of_lt hx'] at hmod
  rw [Nat.mul_comm y, Nat.mul_comm y', Nat.mul_add_div hpos, Nat.mul_add_div hpos,
    Nat.div_eq_of_lt hx, Nat.div_eq_of_lt hx'] at hdiv
  omega

/-- The index of a place of a grid is one of its cells. -/
theorem index_lt {width height x y : Nat} (hx : x < width) (hy : y < height) :
    y * width + x < width * height := by
  have hrow : (y + 1) * width ≤ height * width := Nat.mul_le_mul_right width hy
  rw [Nat.add_mul, Nat.one_mul] at hrow
  rw [Nat.mul_comm width]
  omega

/-- A change of one cell leaves the others as they were. -/
theorem cell?_modify (g : Grid α) (x y : Nat) (f : α → α) (x' y' : Nat) :
    (g.modify x y f).cell? x' y' =
      if x' = x ∧ y' = y then (g.cell? x y).map f else g.cell? x' y' := by
  obtain ⟨width, height, cells, size_eq⟩ := g
  change (if x' < width ∧ y' < height then
      (if x < width ∧ y < height then cells.modify (y * width + x) f else cells)[y' * width + x']?
      else none) =
    if x' = x ∧ y' = y then
      (if x < width ∧ y < height then cells[y * width + x]? else none).map f
    else if x' < width ∧ y' < height then cells[y' * width + x']? else none
  by_cases hplace : x' = x ∧ y' = y
  · obtain ⟨rfl, rfl⟩ := hplace
    by_cases hin : x' < width ∧ y' < height <;> simp [hin, Array.getElem?_modify]
  · by_cases hin : x < width ∧ y < height
    · by_cases hin' : x' < width ∧ y' < height
      · have hne : y * width + x ≠ y' * width + x' := fun h =>
          hplace (place_eq_of_index hin.1 hin'.1 h)
        simp [hin, hin', hplace, Array.getElem?_modify, hne]
      · simp [hin', hplace]
    · simp [hin, hplace]

/-- The cells of a grid that got another size are those it had before, and new ones. -/
theorem cell?_resized (g : Grid α) (width height : Nat) (value : α) (x y : Nat) :
    (g.resized width height value).cell? x y =
      if x < width ∧ y < height then some ((g.cell? x y).getD value) else none := by
  change (if x < width ∧ y < height then
    (Array.ofFn fun i : Fin (width * height) =>
      (g.cell? (i % width) (i / width)).getD value)[y * width + x]? else none) = _
  by_cases hin : x < width ∧ y < height
  · obtain ⟨hx, hy⟩ := hin
    have hindex : y * width + x < width * height := index_lt hx hy
    have hmod : (y * width + x) % width = x := by
      rw [Nat.mul_add_mod_self_right, Nat.mod_eq_of_lt hx]
    have hdiv : (y * width + x) / width = y := by
      rw [Nat.mul_comm y, Nat.mul_add_div (by omega), Nat.div_eq_of_lt hx, Nat.add_zero]
    simp [hx, hy, hindex, hmod, hdiv]
  · simp [hin]

end Grid

end HexPlayer.Terminal
