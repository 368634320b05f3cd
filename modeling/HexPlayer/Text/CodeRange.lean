/-!
# Ranges of characters

A class of characters is given by the ranges of its code points.
-/

namespace HexPlayer.Text

/-- The code points from the first to the last one. -/
structure CodeRange where
  first : Nat
  last : Nat
  deriving DecidableEq, Repr

/-- The character is in the range. -/
def CodeRange.has (r : CodeRange) (c : Char) : Bool := r.first ≤ c.toNat && c.toNat ≤ r.last

/-- The character is in one of the ranges. -/
def isAmong (ranges : List CodeRange) (c : Char) : Bool := ranges.any fun r => r.has c

/-- A character below a range is not in it. -/
theorem CodeRange.has_eq_false {r : CodeRange} {c : Char} (hc : c.toNat < r.first) :
    r.has c = false := by
  simp only [has, Bool.and_eq_false_iff, decide_eq_false_iff_not]
  omega

/-- A character below all the ranges is in none of them. -/
theorem isAmong_eq_false {ranges : List CodeRange} {c : Char} {bound : Nat}
    (habove : ranges.all (fun r => bound ≤ r.first) = true) (hc : c.toNat < bound) :
    isAmong ranges c = false := by
  simp only [isAmong, List.any_eq_false, Bool.not_eq_true]
  intro r hr
  have hbound := List.all_eq_true.mp habove r hr
  simp only [decide_eq_true_eq] at hbound
  exact r.has_eq_false (by omega)

end HexPlayer.Text
