/-!
# Whole numbers in binary64

Counts are rounded to the nearest number with a significand of 53 bits before they serve as
coordinates. A rounded number keeps a sign even when it is zero.
-/

namespace HexPlayer.Number

/-- A whole number of the binary64 format. -/
structure Whole where
  negative : Bool
  magnitude : Nat
  deriving DecidableEq, Repr

/-- The number with a significand of at most 53 bits that lies nearest to `n`; of two at the same
distance, the one with the even significand. -/
def nearest (n : Nat) : Nat :=
  let unit := 1 <<< (n.log2 - 52)
  let quotient := n / unit
  let rest := n % unit
  if 2 * rest < unit ∨ (2 * rest = unit ∧ quotient % 2 = 0) then quotient * unit
  else (quotient + 1) * unit

/-- A count of at most 53 bits is a binary64 number itself. -/
theorem nearest_eq_self {n : Nat} (h : n.log2 < 53) : nearest n = n := by
  have hlog : n.log2 - 52 = 0 := by omega
  simp [nearest, hlog, Nat.mod_one]

namespace Whole

/-- A count as a coordinate. -/
def ofCount (n : Nat) : Whole := ⟨false, nearest n⟩

/-- The negative of a count as a coordinate; the negative of zero keeps its sign. -/
def negOfCount (n : Nat) : Whole := ⟨true, nearest n⟩

/-- All digits, and one decimal. -/
def text (w : Whole) : String :=
  (if w.negative then "-" else "") ++ toString w.magnitude ++ ".0"

end Whole

end HexPlayer.Number
