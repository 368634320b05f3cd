import HexPlayer.Pad.Layout
import Mathlib

/-!
# What a list of pairs binds

The last pair of a character decides what the character stands for. Pairs whose line has no key do
not count, and neither does the ASCII case. The other way round, a key that one character stands
for is labelled with that character, in whatever order the bindings are gone through.
-/

namespace HexPlayer

/-- The second character is the first one in one of its ASCII cases. -/
def SameButCase (c d : Char) : Prop := d = c.toLower ∨ d = c.toUpper

instance (c d : Char) : Decidable (SameButCase c d) :=
  inferInstanceAs (Decidable (d = c.toLower ∨ d = c.toUpper))

/-- Characters differ in case alone if and only if they have the same lower case. -/
theorem sameButCase_iff {c d : Char} : SameButCase c d ↔ d.toLower = c.toLower := by
  constructor
  · rintro (rfl | rfl)
    · exact Char.toLower_toLower_eq_toLower c
    · exact Char.toLower_toUpper_eq_toLower c
  · intro same
    by_cases isUpper : d.isUpper
    · right
      have notLower := Char.not_isLower_of_isUpper isUpper
      calc d = d.toUpper := (Char.toUpper_eq_of_not_isLower notLower).symm
        _ = d.toLower.toUpper := (Char.toUpper_toLower_eq_toUpper d).symm
        _ = c.toUpper := by rw [same, Char.toUpper_toLower_eq_toUpper]
    · left
      rw [← same, Char.toLower_eq_of_not_isUpper isUpper]

namespace Layout

/-- The line of the last pair that counts for a character: its line has a key, and its character is
the given one but for the case. -/
def lastLine? (c : Char) (pairs : List (Char × Nat)) : Option Nat :=
  ((pairs.filter fun pair => pair.2 < Key.count ∧ SameButCase c pair.1).getLast?).map Prod.snd

/-- The layout has the bindings of the pairs, in some order. -/
def Tabulates (l : Layout) (pairs : List (Char × Nat)) : Prop :=
  l.bindings.Perm (ofPairs pairs).bindings

/-- At most one character stands for the key, apart from its case. -/
def BindsOnce (l : Layout) (k : Key) : Prop :=
  ∀ c d, l.key? c = some k → l.key? d = some k → SameButCase c d

section Lookup

theorem ofPairs_append (pairs more : List (Char × Nat)) :
    ofPairs (pairs ++ more) = more.foldl bindLine (ofPairs pairs) :=
  List.foldl_append

/-- A pair binds the character in both cases, if its line has a key, and no other character. -/
theorem key?_bindLine (l : Layout) (pair : Char × Nat) (c : Char) :
    (l.bindLine pair).key? c =
      if SameButCase c pair.1 then (Key.ofLine? pair.2).or (l.key? c) else l.key? c := by
  unfold bindLine
  cases line : Key.ofLine? pair.2 with
  | none => simp
  | some k => simp [key?_bind, sameButCase_iff, eq_comm]

theorem lastLine?_concat (c : Char) (pairs : List (Char × Nat)) (pair : Char × Nat) :
    lastLine? c (pairs ++ [pair]) =
      if pair.2 < Key.count ∧ SameButCase c pair.1 then some pair.2 else lastLine? c pairs := by
  unfold lastLine?
  rw [List.filter_append]
  split
  next counts => simp [counts]
  next counts => simp [counts]

/-- The last pair that counts for a character decides its key. -/
theorem key?_ofPairs (pairs : List (Char × Nat)) (c : Char) :
    ((ofPairs pairs).key? c).map Fin.val = lastLine? c pairs := by
  -- the last pair is bound last and comes before all others
  induction pairs using List.reverseRecOn with
  | nil => rfl
  | append_singleton pairs pair ih =>
    rw [ofPairs_append, List.foldl_cons, List.foldl_nil, key?_bindLine, lastLine?_concat]
    by_cases same : SameButCase c pair.1
    · by_cases inRange : pair.2 < Key.count
      · have line : Key.ofLine? pair.2 = some ⟨pair.2, inRange⟩ := Key.ofLine?_eq_some_iff.mpr rfl
        simp [same, inRange, line]
      · have line : Key.ofLine? pair.2 = none :=
          Key.ofLine?_eq_none_iff.mpr (Nat.le_of_not_lt inRange)
        simp [same, inRange, line, ih]
    · simp [same, ih]

/-- A pair whose line has no key may as well be left out. -/
theorem ofPairs_of_no_key {line : Nat} (noKey : Key.count ≤ line) (before after : List (Char × Nat))
    (d : Char) : ofPairs (before ++ (d, line) :: after) = ofPairs (before ++ after) := by
  have same : (ofPairs before).bindLine (d, line) = ofPairs before := by
    rw [bindLine, Key.ofLine?_eq_none_iff.mpr noKey]
  rw [ofPairs_append, ofPairs_append, List.foldl_cons, same]

/-- Pairs that differ in the case of their characters alone bind the same. -/
theorem ofPairs_congr {pairs others : List (Char × Nat)}
    (same : List.Forall₂ (fun p q => SameButCase p.1 q.1 ∧ p.2 = q.2) pairs others) :
    ofPairs pairs = ofPairs others := by
  have step (l : Layout) {p q : Char × Nat} (same : SameButCase p.1 q.1 ∧ p.2 = q.2) :
      l.bindLine p = l.bindLine q := by
    have lower := sameButCase_iff.mp same.1
    unfold bindLine bind
    simp only [lower, same.2]
  have run (l : Layout) : pairs.foldl bindLine l = others.foldl bindLine l := by
    induction same generalizing l with
    | nil => rfl
    | cons first _ ih => rw [List.foldl_cons, List.foldl_cons, step l first, ih]
  exact run empty

/-- The case of a character does not matter to its lookup. -/
theorem key?_congr (l : Layout) {c d : Char} (same : SameButCase c d) : l.key? d = l.key? c := by
  unfold key?
  rw [sameButCase_iff.mp same]

end Lookup

section Table

variable {l : Layout} {pairs : List (Char × Nat)} {k : Key} {c : Char}

/-- Looking a character up finds its binding. -/
theorem key?_eq_some_iff : l.key? c = some k ↔ (c.toLower, k) ∈ l.bindings := by
  constructor
  · intro found
    obtain ⟨binding, first, rfl⟩ := Option.map_eq_some_iff.mp found
    have isChar : binding.1 = c.toLower := by simpa using List.find?_some first
    rw [← isChar]
    exact List.mem_of_find?_eq_some first
  · intro bound
    have found : (l.bindings.find? fun b => b.1 == c.toLower).isSome :=
      List.find?_isSome.mpr ⟨_, bound, beq_self_eq_true _⟩
    obtain ⟨binding, first⟩ := Option.isSome_iff_exists.mp found
    have isChar : binding.1 = c.toLower := by simpa using List.find?_some first
    have same : binding = (c.toLower, k) :=
      List.inj_on_of_nodup_map l.distinct (List.mem_of_find?_eq_some first) bound isChar
    rw [key?, first, same, Option.map_some]

/-- If no two bindings have the same key, every key has one character at most. -/
theorem bindsOnce_of_nodup (once : (l.bindings.map Prod.snd).Nodup) (k : Key) : l.BindsOnce k := by
  intro c d first second
  have same : (c.toLower, k) = (d.toLower, k) := List.inj_on_of_nodup_map once
    (key?_eq_some_iff.mp first) (key?_eq_some_iff.mp second) rfl
  exact sameButCase_iff.mpr (Prod.mk.inj same).1.symm

/-- Every bound character is in lower case. -/
theorem toLower_of_mem_ofPairs (bound : (c, k) ∈ (ofPairs pairs).bindings) : c.toLower = c := by
  induction pairs using List.reverseRecOn with
  | nil => cases bound
  | append_singleton pairs pair ih =>
    rw [ofPairs_append, List.foldl_cons, List.foldl_nil, bindLine] at bound
    split at bound
    next =>
      rcases List.mem_cons.mp bound with new | old
      · rw [(Prod.mk.inj new).1, Char.toLower_toLower_eq_toLower]
      · exact ih (List.mem_filter.mp old).1
    next => exact ih bound

theorem Tabulates.mem_bindings_iff (table : l.Tabulates pairs) {binding : Char × Key} :
    binding ∈ l.bindings ↔ binding ∈ (ofPairs pairs).bindings :=
  List.Perm.mem_iff table

/-- The order of the bindings does not matter to a lookup. -/
theorem Tabulates.key?_eq (table : l.Tabulates pairs) (c : Char) :
    l.key? c = (ofPairs pairs).key? c := by
  apply Option.ext
  intro k
  rw [key?_eq_some_iff, key?_eq_some_iff, table.mem_bindings_iff]

/-- A label is a character that stands for the key, in lower case. -/
theorem Tabulates.key?_of_charFor? (table : l.Tabulates pairs) (label : l.charFor? k = some c) :
    l.key? c = some k ∧ c.toLower = c := by
  obtain ⟨binding, first, rfl⟩ := Option.map_eq_some_iff.mp label
  have isKey : binding.2 = k := by simpa using List.find?_some first
  have bound : (binding.1, k) ∈ l.bindings := isKey ▸ List.mem_of_find?_eq_some first
  have isLower := toLower_of_mem_ofPairs (table.mem_bindings_iff.mp bound)
  exact ⟨key?_eq_some_iff.mpr (isLower.symm ▸ bound), isLower⟩

/-- A key without a label is one that no character stands for. -/
theorem key?_ne_of_charFor?_eq_none (noLabel : l.charFor? k = none) (c : Char) :
    l.key? c ≠ some k := by
  intro found
  have none := List.find?_eq_none.mp (Option.map_eq_none_iff.mp noLabel)
  exact none _ (key?_eq_some_iff.mp found) (beq_self_eq_true k)

/-- The only character that stands for a key is its label, in lower case. -/
theorem Tabulates.charFor?_of_key? (table : l.Tabulates pairs) (once : l.BindsOnce k)
    (found : l.key? c = some k) : l.charFor? k = some c.toLower := by
  cases label : l.charFor? k with
  | none => exact absurd found (key?_ne_of_charFor?_eq_none label c)
  | some d =>
    obtain ⟨standsFor, isLower⟩ := table.key?_of_charFor? label
    rw [← isLower, sameButCase_iff.mp (once c d found standsFor)]

end Table

/-- A character stands for the line of the last pair that counts for it. Neither pairs whose line
has no key nor the case of characters make a difference, and where one character at most stands for
a key, the labels of the keys are the lookups the other way round. -/
theorem lookups_of_pairs (pairs : List (Char × Nat)) :
    (∀ c, ((ofPairs pairs).key? c).map Fin.val = lastLine? c pairs) ∧
      (∀ before after d line c, Key.count ≤ line → pairs = before ++ (d, line) :: after →
        (ofPairs pairs).key? c = (ofPairs (before ++ after)).key? c) ∧
      (∀ others c d,
        List.Forall₂ (fun p q => SameButCase p.1 q.1 ∧ p.2 = q.2) pairs others →
        SameButCase c d → (ofPairs others).key? d = (ofPairs pairs).key? c) ∧
      ∀ l k, Tabulates l pairs →
        (∀ c, l.key? c = (ofPairs pairs).key? c) ∧
        (∀ c, l.charFor? k = some c → l.key? c = some k) ∧
        (l.charFor? k = none → ∀ c, l.key? c ≠ some k) ∧
        (l.BindsOnce k → ∀ c, l.key? c = some k → l.charFor? k = some c.toLower) := by
  refine ⟨key?_ofPairs pairs, ?outOfRange, ?cases, ?labels⟩
  case outOfRange =>
    rintro before after d line c noKey rfl
    rw [ofPairs_of_no_key noKey]
  case cases =>
    intro others c d same sameChar
    rw [← ofPairs_congr same, key?_congr _ sameChar]
  case labels =>
    intro l k table
    refine ⟨table.key?_eq, fun c label => (table.key?_of_charFor? label).1,
      key?_ne_of_charFor?_eq_none, fun once c found => table.charFor?_of_key? once found⟩

/-- Pairs with a character bound twice, once in each case, and two lines without a key. -/
def mixedPairs : List (Char × Nat) :=
  [('A', 3), ('b', 16), ('a', 5), ('c', 3), ('Q', 7), ('q', 200)]

/-- The pairs with the other case here and there. -/
def otherCases : List (Char × Nat) :=
  [('a', 3), ('b', 16), ('A', 5), ('C', 3), ('q', 7), ('Q', 200)]

/-- Both cases of `a` stand for key 5, `b` stands for none, the pair of `q` with line 200 does not
hide the one before it, and key 3 is labelled with the one character left to it. -/
theorem lookups_of_mixed_pairs :
    ((ofPairs mixedPairs).key? 'A').map Fin.val = some 5 ∧
      ((ofPairs mixedPairs).key? 'b').map Fin.val = none ∧
      (ofPairs mixedPairs).key? 'q' = (ofPairs (mixedPairs.take 5)).key? 'q' ∧
      (ofPairs otherCases).key? 'Q' = (ofPairs mixedPairs).key? 'q' ∧
      (ofPairs mixedPairs).charFor? 3 = some 'c' := by
  obtain ⟨law, outOfRange, cases, labels⟩ := lookups_of_pairs mixedPairs
  obtain ⟨-, -, -, label⟩ := labels (ofPairs mixedPairs) 3 (.refl _)
  refine ⟨(law 'A').trans (by decide), (law 'b').trans (by decide), ?_, ?_, ?_⟩
  · exact outOfRange (mixedPairs.take 5) [] 'q' 200 'q' (by decide) rfl
  · refine cases otherCases 'q' 'Q' ?_ (by decide)
    simp only [mixedPairs, otherCases, List.forall₂_cons, List.Forall₂.nil]
    decide
  · exact label (bindsOnce_of_nodup (by decide) 3) 'c' (by decide)

end Layout

end HexPlayer
