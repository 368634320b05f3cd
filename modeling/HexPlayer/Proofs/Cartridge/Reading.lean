import HexPlayer.Cartridge.Shelf

/-!
# Reading a program

A title on offer names one file right below the root of a shelf. The file is read up to one byte
past the limit. So a program within the limit is handed out whole, and one beyond it is refused
after just enough bytes to tell; nothing ever is cut short and handed out.
-/

namespace HexPlayer.Cartridge.Shelf

/-- The title is the name of one file: its path has one part, which leads downwards and is not too
long for a name. -/
structure IsName (title : String) : Prop where
  single : parts title = [title]
  relative : isAbsolute title = false
  downwards : isDots title = false
  short : title.utf8ByteSize ≤ maxPartLength
  noNul : title.toList.contains '\x00' = false

/-- Every title on offer is the name of one file. -/
theorem isName_of_isListed {title : String} (listed : Catalog.isListed title = true) :
    IsName title := by
  have names : ∀ title ∈ Catalog.titles, parts title = [title] ∧ isAbsolute title = false ∧
      isDots title = false ∧ title.utf8ByteSize ≤ maxPartLength ∧
      title.toList.contains '\x00' = false := by
    decide +kernel
  obtain ⟨single, relative, downwards, short, noNul⟩ :=
    names title (List.contains_iff_mem.mp listed)
  exact ⟨single, relative, downwards, short, noNul⟩

/-- The shelf has a file of these bytes under the title, at a path that is not too long. -/
structure Holds (s : Shelf) (title : String) (bytes : Program) : Prop where
  item : s.item? [title] = some (.file bytes)
  path : (s.path title).utf8ByteSize < maxPathLength
  size : bytes.size < UInt64.size

variable {s : Shelf} {title : String} {bytes : Program}

/-- The path of a name leads to the file that the shelf has under it. -/
theorem find_of_holds (isName : IsName title) (holds : s.Holds title bytes) :
    s.find title = .ok (.file bytes) := by
  have downwards : (title ≠ "" ∧ title ≠ ".") ∧ title ≠ ".." := by
    simpa [isDots] using isName.downwards
  have pathFits : ¬ maxPathLength ≤ (s.path title).utf8ByteSize := Nat.not_le.mpr holds.path
  have nameFits : ¬ maxPartLength < title.utf8ByteSize := Nat.not_lt.mpr isName.short
  have walked : s.walk [] [title] = .ok (.file bytes) := by
    simp [walk, downwards, nameFits, holds.item]
  simp only [find, isName.noNul, isName.relative, isName.single, pathFits, walked,
    Bool.false_eq_true, if_false]

/-- A file is read up to one byte past the limit: where 64 bits do not count that far, they count
the whole file. -/
theorem read_of_find (found : s.find title = .ok (.file bytes)) (size : bytes.size < UInt64.size) :
    s.read title = .ok (bytes.take (s.limit + 1)) := by
  have taken : bytes.take s.readLength = bytes.take (s.limit + 1) := by
    -- if 64 bits are too few for the limit and one more, the whole file is read either way
    by_cases counts : s.limit + 1 ≤ UInt64.size - 1
    · rw [readLength, Nat.min_eq_left counts]
    · have all : s.readLength = UInt64.size - 1 := Nat.min_eq_right (by omega)
      calc bytes.take s.readLength
          = bytes := Array.extract_eq_self_of_le (by omega)
        _ = bytes.take (s.limit + 1) := (Array.extract_eq_self_of_le (by omega)).symm
  rw [read, found, ← taken]
  rfl

/-- What is read tells whether the file is within the limit. -/
theorem result_deliver_of_find (found : s.find title = .ok (.file bytes))
    (size : bytes.size < UInt64.size) :
    (s.deliver title).result =
      if bytes.size ≤ s.limit then .ok bytes
      else .error (.tooLarge title (s.limit + 1) s.limit) := by
  rw [deliver, read_of_find found size]
  by_cases fits : bytes.size ≤ s.limit
  · have whole : bytes.take (s.limit + 1) = bytes :=
      Array.extract_eq_self_of_le (by omega)
    have within : ¬ s.limit < bytes.size := Nat.not_lt.mpr fits
    rw [whole, if_pos fits]
    simp [within]
  · have cut : (bytes.take (s.limit + 1)).size = s.limit + 1 := by
      rw [Array.take_eq_extract, Array.size_extract]
      omega
    rw [if_neg fits]
    simp [cut]

/-- The program of a title on offer is handed out whole if and only if it is within the limit, and
one byte past the limit is all that is read of it. -/
theorem deliver_of_listed (listed : Catalog.isListed title = true) (holds : s.Holds title bytes) :
    (∃ read, s.read title = .ok read ∧ read = bytes.take (s.limit + 1) ∧
        read.size ≤ s.limit + 1) ∧
      ((s.deliver title).result = .ok bytes ↔ bytes.size ≤ s.limit) ∧
      (s.limit < bytes.size →
        (s.deliver title).result = .error (.tooLarge title (s.limit + 1) s.limit)) := by
  have found := find_of_holds (isName_of_isListed listed) holds
  rw [result_deliver_of_find found holds.size]
  refine ⟨⟨_, read_of_find found holds.size, rfl, ?_⟩, ?_, fun exceeds => ?_⟩
  · rw [Array.take_eq_extract, Array.size_extract]
    omega
  · split
    next fits => simp [fits]
    next exceeds => simp [exceeds]
  · rw [if_neg (Nat.not_le.mpr exceeds)]

/-- A program that is handed out is within the limit. -/
theorem size_le_of_deliver {program : Program}
    (delivered : (s.deliver title).result = .ok program) : program.size ≤ s.limit := by
  unfold deliver at delivered
  split at delivered
  next => cases delivered
  next => cases delivered
  next read _ =>
    split at delivered
    next => cases delivered
    next fits =>
      cases delivered
      exact Nat.le_of_not_lt fits

end HexPlayer.Cartridge.Shelf
