import HexPlayer.Text.Visible

/-!
# Quoted characters

A character is written between single quotes. The quote, the backslash and the characters that do
not show on their own are escaped.
-/

namespace HexPlayer.Text

/-- The number in lower-case hexadecimal digits. -/
def hex (n : Nat) : String := String.ofList (Nat.toDigits 16 n)

/-- How a character stands between single quotes. -/
def escape (c : Char) : String :=
  if c = '\'' then "\\'"
  else if c = '\\' then "\\\\"
  else if c = '\n' then "\\n"
  else if c = '\t' then "\\t"
  else if c = '\r' then "\\r"
  else if c.val = 0 then "\\0"
  else if isVisible c then String.singleton c
  else "\\u\x7b" ++ hex c.toNat ++ "\x7d"

/-- The character between single quotes. -/
def quoted (c : Char) : String := "'" ++ escape c ++ "'"

end HexPlayer.Text
