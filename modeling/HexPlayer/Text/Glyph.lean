import HexPlayer.Text.Columns

/-!
# Glyphs

Text is set glyph by glyph: a glyph is a cluster of characters with the columns that it takes.
-/

namespace HexPlayer.Text

/-- A cluster of characters and the columns that it takes. -/
structure Glyph where
  chars : List Char
  columns : Nat
  deriving DecidableEq, Repr

namespace Glyph

/-- A character that takes one column. -/
def narrow (c : Char) : Glyph := ⟨[c], 1⟩

/-- The blank. -/
def blank : Glyph := narrow ' '

/-- The glyph of a cluster. -/
def ofCluster (cluster : List Char) : Glyph := ⟨cluster, Text.columns cluster⟩

/-- The glyphs of a text. -/
def ofText (text : String) : List Glyph := (clusters text.toList).map ofCluster

/-- A printing character of ASCII is a glyph of one column. -/
theorem ofCluster_of_ascii {c : Char} (hlow : 0x20 ≤ c.toNat) (hhigh : c.toNat < 0x7f) :
    ofCluster [c] = narrow c := by
  rw [ofCluster, columns_of_ascii hlow hhigh, narrow]

end Glyph

end HexPlayer.Text
