import HexPlayer.Text.CodeRange

/-!
# Signs attached to a neighbour

Signs that belong to the character behind or before them though they have a place of their own, and
the characters that belong to none.
-/

namespace HexPlayer.Text

/-- Signs that belong to the character behind them. -/
def prefixedSigns : List CodeRange :=
  [⟨0x600, 0x605⟩, ⟨0x6dd, 0x6dd⟩, ⟨0x70f, 0x70f⟩, ⟨0x890, 0x891⟩, ⟨0x8e2, 0x8e2⟩, ⟨0xd4e, 0xd4e⟩,
   ⟨0x110bd, 0x110bd⟩, ⟨0x110cd, 0x110cd⟩, ⟨0x111c2, 0x111c3⟩, ⟨0x113d1, 0x113d1⟩,
   ⟨0x1193f, 0x1193f⟩, ⟨0x11941, 0x11941⟩, ⟨0x11a84, 0x11a89⟩, ⟨0x11d46, 0x11d46⟩,
   ⟨0x11f02, 0x11f02⟩]

/-- Signs that belong to the character before them and stand beside it. -/
def spacingSigns : List CodeRange :=
  [⟨0x903, 0x903⟩, ⟨0x93b, 0x93b⟩, ⟨0x93e, 0x940⟩, ⟨0x949, 0x94c⟩, ⟨0x94e, 0x94f⟩, ⟨0x982, 0x983⟩,
   ⟨0x9bf, 0x9c0⟩, ⟨0x9c7, 0x9c8⟩, ⟨0x9cb, 0x9cc⟩, ⟨0xa03, 0xa03⟩, ⟨0xa3e, 0xa40⟩, ⟨0xa83, 0xa83⟩,
   ⟨0xabe, 0xac0⟩, ⟨0xac9, 0xac9⟩, ⟨0xacb, 0xacc⟩, ⟨0xb02, 0xb03⟩, ⟨0xb40, 0xb40⟩, ⟨0xb47, 0xb48⟩,
   ⟨0xb4b, 0xb4c⟩, ⟨0xbbf, 0xbbf⟩, ⟨0xbc1, 0xbc2⟩, ⟨0xbc6, 0xbc8⟩, ⟨0xbca, 0xbcc⟩, ⟨0xc01, 0xc03⟩,
   ⟨0xc41, 0xc44⟩, ⟨0xc82, 0xc83⟩, ⟨0xcbe, 0xcbe⟩, ⟨0xcc1, 0xcc1⟩, ⟨0xcc3, 0xcc4⟩, ⟨0xcf3, 0xcf3⟩,
   ⟨0xd02, 0xd03⟩, ⟨0xd3f, 0xd40⟩, ⟨0xd46, 0xd48⟩, ⟨0xd4a, 0xd4c⟩, ⟨0xd82, 0xd83⟩, ⟨0xdd0, 0xdd1⟩,
   ⟨0xdd8, 0xdde⟩, ⟨0xdf2, 0xdf3⟩, ⟨0xe33, 0xe33⟩, ⟨0xeb3, 0xeb3⟩, ⟨0xf3e, 0xf3f⟩, ⟨0xf7f, 0xf7f⟩,
   ⟨0x1031, 0x1031⟩, ⟨0x103b, 0x103c⟩, ⟨0x1056, 0x1057⟩, ⟨0x1084, 0x1084⟩, ⟨0x17b6, 0x17b6⟩,
   ⟨0x17be, 0x17c5⟩, ⟨0x17c7, 0x17c8⟩, ⟨0x1923, 0x1926⟩, ⟨0x1929, 0x192b⟩, ⟨0x1930, 0x1931⟩,
   ⟨0x1933, 0x1938⟩, ⟨0x1a19, 0x1a1a⟩, ⟨0x1a55, 0x1a55⟩, ⟨0x1a57, 0x1a57⟩, ⟨0x1a6d, 0x1a72⟩,
   ⟨0x1b04, 0x1b04⟩, ⟨0x1b3e, 0x1b41⟩, ⟨0x1b82, 0x1b82⟩, ⟨0x1ba1, 0x1ba1⟩, ⟨0x1ba6, 0x1ba7⟩,
   ⟨0x1be7, 0x1be7⟩, ⟨0x1bea, 0x1bec⟩, ⟨0x1bee, 0x1bee⟩, ⟨0x1c24, 0x1c2b⟩, ⟨0x1c34, 0x1c35⟩,
   ⟨0x1ce1, 0x1ce1⟩, ⟨0x1cf7, 0x1cf7⟩, ⟨0xa823, 0xa824⟩, ⟨0xa827, 0xa827⟩, ⟨0xa880, 0xa881⟩,
   ⟨0xa8b4, 0xa8c3⟩, ⟨0xa952, 0xa952⟩, ⟨0xa983, 0xa983⟩, ⟨0xa9b4, 0xa9b5⟩, ⟨0xa9ba, 0xa9bb⟩,
   ⟨0xa9be, 0xa9bf⟩, ⟨0xaa2f, 0xaa30⟩, ⟨0xaa33, 0xaa34⟩, ⟨0xaa4d, 0xaa4d⟩, ⟨0xaaeb, 0xaaeb⟩,
   ⟨0xaaee, 0xaaef⟩, ⟨0xaaf5, 0xaaf5⟩, ⟨0xabe3, 0xabe4⟩, ⟨0xabe6, 0xabe7⟩, ⟨0xabe9, 0xabea⟩,
   ⟨0xabec, 0xabec⟩, ⟨0x11000, 0x11000⟩, ⟨0x11002, 0x11002⟩, ⟨0x11082, 0x11082⟩, ⟨0x110b0, 0x110b2⟩,
   ⟨0x110b7, 0x110b8⟩, ⟨0x1112c, 0x1112c⟩, ⟨0x11145, 0x11146⟩, ⟨0x11182, 0x11182⟩,
   ⟨0x111b3, 0x111b5⟩, ⟨0x111bf, 0x111bf⟩, ⟨0x111ce, 0x111ce⟩, ⟨0x1122c, 0x1122e⟩,
   ⟨0x11232, 0x11233⟩, ⟨0x112e0, 0x112e2⟩, ⟨0x11302, 0x11303⟩, ⟨0x1133f, 0x1133f⟩,
   ⟨0x11341, 0x11344⟩, ⟨0x11347, 0x11348⟩, ⟨0x1134b, 0x1134c⟩, ⟨0x11362, 0x11363⟩,
   ⟨0x113b9, 0x113ba⟩, ⟨0x113ca, 0x113ca⟩, ⟨0x113cc, 0x113cd⟩, ⟨0x11435, 0x11437⟩,
   ⟨0x11440, 0x11441⟩, ⟨0x11445, 0x11445⟩, ⟨0x114b1, 0x114b2⟩, ⟨0x114b9, 0x114b9⟩,
   ⟨0x114bb, 0x114bc⟩, ⟨0x114be, 0x114be⟩, ⟨0x114c1, 0x114c1⟩, ⟨0x115b0, 0x115b1⟩,
   ⟨0x115b8, 0x115bb⟩, ⟨0x115be, 0x115be⟩, ⟨0x11630, 0x11632⟩, ⟨0x1163b, 0x1163c⟩,
   ⟨0x1163e, 0x1163e⟩, ⟨0x116ac, 0x116ac⟩, ⟨0x116ae, 0x116af⟩, ⟨0x1171e, 0x1171e⟩,
   ⟨0x11726, 0x11726⟩, ⟨0x1182c, 0x1182e⟩, ⟨0x11838, 0x11838⟩, ⟨0x11931, 0x11935⟩,
   ⟨0x11937, 0x11938⟩, ⟨0x11940, 0x11940⟩, ⟨0x11942, 0x11942⟩, ⟨0x119d1, 0x119d3⟩,
   ⟨0x119dc, 0x119df⟩, ⟨0x119e4, 0x119e4⟩, ⟨0x11a39, 0x11a39⟩, ⟨0x11a57, 0x11a58⟩,
   ⟨0x11a97, 0x11a97⟩, ⟨0x11b61, 0x11b61⟩, ⟨0x11b65, 0x11b65⟩, ⟨0x11b67, 0x11b67⟩,
   ⟨0x11c2f, 0x11c2f⟩, ⟨0x11c3e, 0x11c3e⟩, ⟨0x11ca9, 0x11ca9⟩, ⟨0x11cb1, 0x11cb1⟩,
   ⟨0x11cb4, 0x11cb4⟩, ⟨0x11d8a, 0x11d8e⟩, ⟨0x11d93, 0x11d94⟩, ⟨0x11d96, 0x11d96⟩,
   ⟨0x11ef5, 0x11ef6⟩, ⟨0x11f03, 0x11f03⟩, ⟨0x11f34, 0x11f35⟩, ⟨0x11f3e, 0x11f3f⟩,
   ⟨0x1612a, 0x1612c⟩, ⟨0x16f51, 0x16f87⟩]

/-- Signs that extend the character before them and are no marks. -/
def extendingSigns : List CodeRange :=
  [⟨0x200c, 0x200c⟩, ⟨0xff9e, 0xff9f⟩, ⟨0xe0020, 0xe007f⟩]

/-- Controls, separators and formats, which belong to no neighbour. -/
def separators : List CodeRange :=
  [⟨0x0, 0x1f⟩, ⟨0x7f, 0x9f⟩, ⟨0xad, 0xad⟩, ⟨0x61c, 0x61c⟩, ⟨0x180e, 0x180e⟩, ⟨0x200b, 0x200b⟩,
   ⟨0x200e, 0x200f⟩, ⟨0x2028, 0x202e⟩, ⟨0x2060, 0x206f⟩, ⟨0xfeff, 0xfeff⟩, ⟨0xfff0, 0xfffb⟩,
   ⟨0x13430, 0x1343f⟩, ⟨0x1bca0, 0x1bca3⟩, ⟨0x1d173, 0x1d17a⟩, ⟨0xe0000, 0xe001f⟩,
   ⟨0xe0080, 0xe00ff⟩, ⟨0xe01f0, 0xe0fff⟩]

end HexPlayer.Text
