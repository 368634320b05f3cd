/-!
# The hold table

On a terminal that never reports releases a pressed character is held for a number of frames. The
table keeps the frames that are left for every held character, in ascending order of characters.
`left?_insert_eq_some_iff` and `left?_countdown_eq_some_iff` say what each operation does to a
character's frames, and `mem_due_iff` which characters are let go.
-/

namespace HexPlayer.Terminal

/-- Characters with the frames for which they are still held, each character once. -/
structure HoldTable where
  entries : List (Char × Nat)
  ascending : entries.Pairwise fun a b => a.1 < b.1

namespace HoldTable

/-- Nothing is held. -/
def empty : HoldTable := ⟨[], .nil⟩

/-- Put an entry in its place among ascending entries, in place of the character's old one. -/
def place (c : Char) (frames : Nat) : List (Char × Nat) → List (Char × Nat)
  | [] => [(c, frames)]
  | e :: rest =>
    if c < e.1 then (c, frames) :: e :: rest
    else if c = e.1 then (c, frames) :: rest
    else e :: place c frames rest

/-- Two different characters are in order one way or the other. -/
theorem char_lt_of_not_lt {c d : Char} (hlt : ¬ c < d) (hne : c ≠ d) : d < c := by
  rcases Nat.lt_trichotomy d.toNat c.toNat with h | h | h
  · exact h
  · exact absurd (Char.toNat_inj.1 h.symm) hne
  · exact absurd h hlt

/-- The order of characters is transitive. -/
theorem char_lt_trans {a b c : Char} (hab : a < b) (hbc : b < c) : a < c :=
  show a.toNat < c.toNat from Nat.lt_trans (show a.toNat < b.toNat from hab) hbc

/-- Among ascending entries the new entry stands in place of the character's old one, and the
others are as they were. -/
theorem mem_place_iff {c : Char} {frames : Nat} {entries : List (Char × Nat)}
    (h : entries.Pairwise fun a b => a.1 < b.1) {e : Char × Nat} :
    e ∈ place c frames entries ↔ e = (c, frames) ∨ e.1 ≠ c ∧ e ∈ entries := by
  induction entries with
  | nil => simp [place]
  | cons d rest ih =>
    obtain ⟨hd, hrest⟩ := List.pairwise_cons.1 h
    have above (hlt : ¬ d.1 < c) (he : e ∈ rest) : e.1 ≠ c := fun heq =>
      hlt (heq ▸ hd e he)
    rw [place]
    split
    · next hlt =>
      have hdc : ¬ d.1 < c := Nat.lt_asymm hlt
      have hne : d.1 ≠ c := fun heq => by
        rw [heq] at hlt
        exact absurd hlt (Nat.lt_irrefl _)
      grind
    · next hlt =>
      split
      · next heq =>
        have hdc : ¬ d.1 < c := heq ▸ Nat.lt_irrefl _
        grind
      · next hne => grind

theorem ascending_place (c : Char) (frames : Nat) {entries : List (Char × Nat)}
    (h : entries.Pairwise fun a b => a.1 < b.1) :
    (place c frames entries).Pairwise fun a b => a.1 < b.1 := by
  induction entries with
  | nil => simp [place]
  | cons d rest ih =>
    obtain ⟨hd, hrest⟩ := List.pairwise_cons.1 h
    rw [place]
    split
    · next hlt =>
      refine List.pairwise_cons.2 ⟨fun e he => ?_, h⟩
      rcases List.mem_cons.1 he with rfl | he
      · exact hlt
      · exact char_lt_trans hlt (hd e he)
    · next hlt =>
      split
      · next heq => exact List.pairwise_cons.2 ⟨fun e he => heq ▸ hd e he, hrest⟩
      · next hne =>
        refine List.pairwise_cons.2 ⟨fun e he => ?_, ih hrest⟩
        rcases (mem_place_iff hrest).1 he with rfl | ⟨-, he⟩
        · exact char_lt_of_not_lt hlt hne
        · exact hd e he

/-- Hold a character for this many frames, whether or not it was held before. -/
def insert (t : HoldTable) (c : Char) (frames : Nat) : HoldTable :=
  ⟨place c frames t.entries, ascending_place c frames t.ascending⟩

/-- The frames that are left for a character. -/
def left? (t : HoldTable) (c : Char) : Option Nat :=
  (t.entries.find? fun e => e.1 == c).map Prod.snd

/-- The characters whose last frame is over, in ascending order. -/
def due (t : HoldTable) : List Char :=
  (t.entries.filter fun e => e.2 - 1 == 0).map Prod.fst

/-- One frame less for every character; those without a frame left are gone. -/
def countdown (t : HoldTable) : HoldTable where
  entries := (t.entries.filter fun e => e.2 - 1 != 0).map fun e => (e.1, e.2 - 1)
  ascending := List.pairwise_map.2 (t.ascending.sublist List.filter_sublist)

/-- The entries are what the table says of its characters. -/
theorem mem_entries_iff (t : HoldTable) (c : Char) (n : Nat) :
    (c, n) ∈ t.entries ↔ t.left? c = some n := by
  obtain ⟨entries, ascending⟩ := t
  simp only [left?]
  induction entries with
  | nil => simp
  | cons d rest ih =>
    obtain ⟨hd, hrest⟩ := List.pairwise_cons.1 ascending
    by_cases hc : d.1 = c
    · have hnot : (c, n) ∉ rest := fun hmem => by
        have hlt : d.1.toNat < c.toNat := hd _ hmem
        rw [hc] at hlt
        omega
      simp [hc, hnot, Prod.ext_iff, eq_comm]
    · have hne : (c, n) ≠ d := fun heq => hc (by rw [← heq])
      simp [hc, hne, ih hrest]

/-- A character is let go exactly if its last frame is over. -/
theorem mem_due_iff {t : HoldTable} {c : Char} :
    c ∈ t.due ↔ ∃ n, t.left? c = some n ∧ n ≤ 1 := by
  simp only [due, List.mem_map, List.mem_filter, beq_iff_eq, Prod.exists, exists_and_right,
    exists_eq_right, mem_entries_iff, Nat.sub_eq_zero_iff_le]

theorem ascending_due (t : HoldTable) : t.due.Pairwise (· < ·) :=
  List.pairwise_map.2 (t.ascending.sublist List.filter_sublist)

theorem left?_insert_eq_some_iff (t : HoldTable) (c d : Char) (frames n : Nat) :
    (t.insert c frames).left? d = some n ↔
      if d = c then n = frames else t.left? d = some n := by
  rw [← mem_entries_iff, ← mem_entries_iff, insert, mem_place_iff t.ascending]
  split <;> simp_all

theorem left?_countdown_eq_some_iff (t : HoldTable) (c : Char) (n : Nat) :
    t.countdown.left? c = some n ↔ 0 < n ∧ t.left? c = some (n + 1) := by
  rw [← mem_entries_iff, ← mem_entries_iff, countdown]
  simp only [List.mem_map, List.mem_filter, bne_iff_ne, Prod.exists, Prod.mk.injEq]
  constructor
  · rintro ⟨d, m, ⟨hmem, hm⟩, rfl, rfl⟩
    exact ⟨by omega, by rwa [show m - 1 + 1 = m by omega]⟩
  · rintro ⟨hn, hmem⟩
    exact ⟨c, n + 1, ⟨hmem, by omega⟩, rfl, by omega⟩

end HoldTable

end HexPlayer.Terminal
