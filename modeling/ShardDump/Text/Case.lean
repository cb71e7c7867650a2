/-!
# Letter case and white space

Upper case of text as in the Unicode data (version 17): most characters map to one
character at a fixed distance, kept as runs of code points with a common shift (every
code point of a run, or every second one), and a few map to several characters (such as
`ß` to `SS`). Lower case is needed only to compare with ASCII words, where ASCII lower
case gives the same answer: no other character lowers to an ASCII letter except the
Kelvin sign, and none of the words compared has a `k`.

White space is the Unicode property of that name.
-/

namespace ShardDump

namespace Text

/-- Runs `(first, last, shift, stride)`: each code point `first + stride * i` up to `last`
has the upper case `c + shift`. -/
def upperRuns : List (Nat × Nat × Int × Nat) := [
  (0x61, 0x7A, -32, 1), (0xB5, 0xB5, 743, 1), (0xE0, 0xF6, -32, 1), (0xF8, 0xFE, -32, 1),
  (0xFF, 0xFF, 121, 1), (0x101, 0x12F, -1, 2), (0x131, 0x131, -232, 1), (0x133, 0x137, -1, 2),
  (0x13A, 0x148, -1, 2), (0x14B, 0x177, -1, 2), (0x17A, 0x17E, -1, 2), (0x17F, 0x17F, -300, 1),
  (0x180, 0x180, 195, 1), (0x183, 0x185, -1, 2), (0x188, 0x188, -1, 1), (0x18C, 0x18C, -1, 1),
  (0x192, 0x192, -1, 1), (0x195, 0x195, 97, 1), (0x199, 0x199, -1, 1), (0x19A, 0x19A, 163, 1),
  (0x19B, 0x19B, 42561, 1), (0x19E, 0x19E, 130, 1), (0x1A1, 0x1A5, -1, 2), (0x1A8, 0x1A8, -1, 1),
  (0x1AD, 0x1AD, -1, 1), (0x1B0, 0x1B0, -1, 1), (0x1B4, 0x1B6, -1, 2), (0x1B9, 0x1B9, -1, 1),
  (0x1BD, 0x1BD, -1, 1), (0x1BF, 0x1BF, 56, 1), (0x1C5, 0x1C5, -1, 1), (0x1C6, 0x1C6, -2, 1),
  (0x1C8, 0x1C8, -1, 1), (0x1C9, 0x1C9, -2, 1), (0x1CB, 0x1CB, -1, 1), (0x1CC, 0x1CC, -2, 1),
  (0x1CE, 0x1DC, -1, 2), (0x1DD, 0x1DD, -79, 1), (0x1DF, 0x1EF, -1, 2), (0x1F2, 0x1F2, -1, 1),
  (0x1F3, 0x1F3, -2, 1), (0x1F5, 0x1F5, -1, 1), (0x1F9, 0x21F, -1, 2), (0x223, 0x233, -1, 2),
  (0x23C, 0x23C, -1, 1), (0x23F, 0x240, 10815, 1), (0x242, 0x242, -1, 1), (0x247, 0x24F, -1, 2),
  (0x250, 0x250, 10783, 1), (0x251, 0x251, 10780, 1), (0x252, 0x252, 10782, 1), (0x253, 0x253, -210, 1),
  (0x254, 0x254, -206, 1), (0x256, 0x257, -205, 1), (0x259, 0x259, -202, 1), (0x25B, 0x25B, -203, 1),
  (0x25C, 0x25C, 42319, 1), (0x260, 0x260, -205, 1), (0x261, 0x261, 42315, 1), (0x263, 0x263, -207, 1),
  (0x264, 0x264, 42343, 1), (0x265, 0x265, 42280, 1), (0x266, 0x266, 42308, 1), (0x268, 0x268, -209, 1),
  (0x269, 0x269, -211, 1), (0x26A, 0x26A, 42308, 1), (0x26B, 0x26B, 10743, 1), (0x26C, 0x26C, 42305, 1),
  (0x26F, 0x26F, -211, 1), (0x271, 0x271, 10749, 1), (0x272, 0x272, -213, 1), (0x275, 0x275, -214, 1),
  (0x27D, 0x27D, 10727, 1), (0x280, 0x280, -218, 1), (0x282, 0x282, 42307, 1), (0x283, 0x283, -218, 1),
  (0x287, 0x287, 42282, 1), (0x288, 0x288, -218, 1), (0x289, 0x289, -69, 1), (0x28A, 0x28B, -217, 1),
  (0x28C, 0x28C, -71, 1), (0x292, 0x292, -219, 1), (0x29D, 0x29D, 42261, 1), (0x29E, 0x29E, 42258, 1),
  (0x345, 0x345, 84, 1), (0x371, 0x373, -1, 2), (0x377, 0x377, -1, 1), (0x37B, 0x37D, 130, 1),
  (0x3AC, 0x3AC, -38, 1), (0x3AD, 0x3AF, -37, 1), (0x3B1, 0x3C1, -32, 1), (0x3C2, 0x3C2, -31, 1),
  (0x3C3, 0x3CB, -32, 1), (0x3CC, 0x3CC, -64, 1), (0x3CD, 0x3CE, -63, 1), (0x3D0, 0x3D0, -62, 1),
  (0x3D1, 0x3D1, -57, 1), (0x3D5, 0x3D5, -47, 1), (0x3D6, 0x3D6, -54, 1), (0x3D7, 0x3D7, -8, 1),
  (0x3D9, 0x3EF, -1, 2), (0x3F0, 0x3F0, -86, 1), (0x3F1, 0x3F1, -80, 1), (0x3F2, 0x3F2, 7, 1),
  (0x3F3, 0x3F3, -116, 1), (0x3F5, 0x3F5, -96, 1), (0x3F8, 0x3F8, -1, 1), (0x3FB, 0x3FB, -1, 1),
  (0x430, 0x44F, -32, 1), (0x450, 0x45F, -80, 1), (0x461, 0x481, -1, 2), (0x48B, 0x4BF, -1, 2),
  (0x4C2, 0x4CE, -1, 2), (0x4CF, 0x4CF, -15, 1), (0x4D1, 0x52F, -1, 2), (0x561, 0x586, -48, 1),
  (0x10D0, 0x10FA, 3008, 1), (0x10FD, 0x10FF, 3008, 1), (0x13F8, 0x13FD, -8, 1), (0x1C80, 0x1C80, -6254, 1),
  (0x1C81, 0x1C81, -6253, 1), (0x1C82, 0x1C82, -6244, 1), (0x1C83, 0x1C84, -6242, 1), (0x1C85, 0x1C85, -6243, 1),
  (0x1C86, 0x1C86, -6236, 1), (0x1C87, 0x1C87, -6181, 1), (0x1C88, 0x1C88, 35266, 1), (0x1C8A, 0x1C8A, -1, 1),
  (0x1D79, 0x1D79, 35332, 1), (0x1D7D, 0x1D7D, 3814, 1), (0x1D8E, 0x1D8E, 35384, 1), (0x1E01, 0x1E95, -1, 2),
  (0x1E9B, 0x1E9B, -59, 1), (0x1EA1, 0x1EFF, -1, 2), (0x1F00, 0x1F07, 8, 1), (0x1F10, 0x1F15, 8, 1),
  (0x1F20, 0x1F27, 8, 1), (0x1F30, 0x1F37, 8, 1), (0x1F40, 0x1F45, 8, 1), (0x1F51, 0x1F57, 8, 2),
  (0x1F60, 0x1F67, 8, 1), (0x1F70, 0x1F71, 74, 1), (0x1F72, 0x1F75, 86, 1), (0x1F76, 0x1F77, 100, 1),
  (0x1F78, 0x1F79, 128, 1), (0x1F7A, 0x1F7B, 112, 1), (0x1F7C, 0x1F7D, 126, 1), (0x1FB0, 0x1FB1, 8, 1),
  (0x1FBE, 0x1FBE, -7205, 1), (0x1FD0, 0x1FD1, 8, 1), (0x1FE0, 0x1FE1, 8, 1), (0x1FE5, 0x1FE5, 7, 1),
  (0x214E, 0x214E, -28, 1), (0x2170, 0x217F, -16, 1), (0x2184, 0x2184, -1, 1), (0x24D0, 0x24E9, -26, 1),
  (0x2C30, 0x2C5F, -48, 1), (0x2C61, 0x2C61, -1, 1), (0x2C65, 0x2C65, -10795, 1), (0x2C66, 0x2C66, -10792, 1),
  (0x2C68, 0x2C6C, -1, 2), (0x2C73, 0x2C73, -1, 1), (0x2C76, 0x2C76, -1, 1), (0x2C81, 0x2CE3, -1, 2),
  (0x2CEC, 0x2CEE, -1, 2), (0x2CF3, 0x2CF3, -1, 1), (0x2D00, 0x2D25, -7264, 1), (0x2D27, 0x2D27, -7264, 1),
  (0x2D2D, 0x2D2D, -7264, 1), (0xA641, 0xA66D, -1, 2), (0xA681, 0xA69B, -1, 2), (0xA723, 0xA72F, -1, 2),
  (0xA733, 0xA76F, -1, 2), (0xA77A, 0xA77C, -1, 2), (0xA77F, 0xA787, -1, 2), (0xA78C, 0xA78C, -1, 1),
  (0xA791, 0xA793, -1, 2), (0xA794, 0xA794, 48, 1), (0xA797, 0xA7A9, -1, 2), (0xA7B5, 0xA7C3, -1, 2),
  (0xA7C8, 0xA7CA, -1, 2), (0xA7CD, 0xA7DB, -1, 2), (0xA7F6, 0xA7F6, -1, 1), (0xAB53, 0xAB53, -928, 1),
  (0xAB70, 0xABBF, -38864, 1), (0xFF41, 0xFF5A, -32, 1), (0x10428, 0x1044F, -40, 1), (0x104D8, 0x104FB, -40, 1),
  (0x10597, 0x105A1, -39, 1), (0x105A3, 0x105B1, -39, 1), (0x105B3, 0x105B9, -39, 1), (0x105BB, 0x105BC, -39, 1),
  (0x10CC0, 0x10CF2, -64, 1), (0x10D70, 0x10D85, -32, 1), (0x118C0, 0x118DF, -32, 1), (0x16E60, 0x16E7F, -32, 1),
  (0x16EBB, 0x16ED3, -27, 1), (0x1E922, 0x1E943, -34, 1)]

/-- Characters whose upper case is several characters. -/
def upperExpansions : List (Nat × List Nat) := [
  (0xDF, [0x53, 0x53]), (0x149, [0x2BC, 0x4E]), (0x1F0, [0x4A, 0x30C]), (0x390, [0x399, 0x308, 0x301]),
  (0x3B0, [0x3A5, 0x308, 0x301]), (0x587, [0x535, 0x552]), (0x1E96, [0x48, 0x331]), (0x1E97, [0x54, 0x308]),
  (0x1E98, [0x57, 0x30A]), (0x1E99, [0x59, 0x30A]), (0x1E9A, [0x41, 0x2BE]), (0x1F50, [0x3A5, 0x313]),
  (0x1F52, [0x3A5, 0x313, 0x300]), (0x1F54, [0x3A5, 0x313, 0x301]), (0x1F56, [0x3A5, 0x313, 0x342]), (0x1F80, [0x1F08, 0x399]),
  (0x1F81, [0x1F09, 0x399]), (0x1F82, [0x1F0A, 0x399]), (0x1F83, [0x1F0B, 0x399]), (0x1F84, [0x1F0C, 0x399]),
  (0x1F85, [0x1F0D, 0x399]), (0x1F86, [0x1F0E, 0x399]), (0x1F87, [0x1F0F, 0x399]), (0x1F88, [0x1F08, 0x399]),
  (0x1F89, [0x1F09, 0x399]), (0x1F8A, [0x1F0A, 0x399]), (0x1F8B, [0x1F0B, 0x399]), (0x1F8C, [0x1F0C, 0x399]),
  (0x1F8D, [0x1F0D, 0x399]), (0x1F8E, [0x1F0E, 0x399]), (0x1F8F, [0x1F0F, 0x399]), (0x1F90, [0x1F28, 0x399]),
  (0x1F91, [0x1F29, 0x399]), (0x1F92, [0x1F2A, 0x399]), (0x1F93, [0x1F2B, 0x399]), (0x1F94, [0x1F2C, 0x399]),
  (0x1F95, [0x1F2D, 0x399]), (0x1F96, [0x1F2E, 0x399]), (0x1F97, [0x1F2F, 0x399]), (0x1F98, [0x1F28, 0x399]),
  (0x1F99, [0x1F29, 0x399]), (0x1F9A, [0x1F2A, 0x399]), (0x1F9B, [0x1F2B, 0x399]), (0x1F9C, [0x1F2C, 0x399]),
  (0x1F9D, [0x1F2D, 0x399]), (0x1F9E, [0x1F2E, 0x399]), (0x1F9F, [0x1F2F, 0x399]), (0x1FA0, [0x1F68, 0x399]),
  (0x1FA1, [0x1F69, 0x399]), (0x1FA2, [0x1F6A, 0x399]), (0x1FA3, [0x1F6B, 0x399]), (0x1FA4, [0x1F6C, 0x399]),
  (0x1FA5, [0x1F6D, 0x399]), (0x1FA6, [0x1F6E, 0x399]), (0x1FA7, [0x1F6F, 0x399]), (0x1FA8, [0x1F68, 0x399]),
  (0x1FA9, [0x1F69, 0x399]), (0x1FAA, [0x1F6A, 0x399]), (0x1FAB, [0x1F6B, 0x399]), (0x1FAC, [0x1F6C, 0x399]),
  (0x1FAD, [0x1F6D, 0x399]), (0x1FAE, [0x1F6E, 0x399]), (0x1FAF, [0x1F6F, 0x399]), (0x1FB2, [0x1FBA, 0x399]),
  (0x1FB3, [0x391, 0x399]), (0x1FB4, [0x386, 0x399]), (0x1FB6, [0x391, 0x342]), (0x1FB7, [0x391, 0x342, 0x399]),
  (0x1FBC, [0x391, 0x399]), (0x1FC2, [0x1FCA, 0x399]), (0x1FC3, [0x397, 0x399]), (0x1FC4, [0x389, 0x399]),
  (0x1FC6, [0x397, 0x342]), (0x1FC7, [0x397, 0x342, 0x399]), (0x1FCC, [0x397, 0x399]), (0x1FD2, [0x399, 0x308, 0x300]),
  (0x1FD3, [0x399, 0x308, 0x301]), (0x1FD6, [0x399, 0x342]), (0x1FD7, [0x399, 0x308, 0x342]), (0x1FE2, [0x3A5, 0x308, 0x300]),
  (0x1FE3, [0x3A5, 0x308, 0x301]), (0x1FE4, [0x3A1, 0x313]), (0x1FE6, [0x3A5, 0x342]), (0x1FE7, [0x3A5, 0x308, 0x342]),
  (0x1FF2, [0x1FFA, 0x399]), (0x1FF3, [0x3A9, 0x399]), (0x1FF4, [0x38F, 0x399]), (0x1FF6, [0x3A9, 0x342]),
  (0x1FF7, [0x3A9, 0x342, 0x399]), (0x1FFC, [0x3A9, 0x399]), (0xFB00, [0x46, 0x46]), (0xFB01, [0x46, 0x49]),
  (0xFB02, [0x46, 0x4C]), (0xFB03, [0x46, 0x46, 0x49]), (0xFB04, [0x46, 0x46, 0x4C]), (0xFB05, [0x53, 0x54]),
  (0xFB06, [0x53, 0x54]), (0xFB13, [0x544, 0x546]), (0xFB14, [0x544, 0x535]), (0xFB15, [0x544, 0x53B]),
  (0xFB16, [0x54E, 0x546]), (0xFB17, [0x544, 0x53D])]

/-- Whether the run `(first, last, shift, stride)` holds the code point `n`. -/
def runHolds (n : Nat) (run : Nat × Nat × Int × Nat) : Bool :=
  run.1 ≤ n && n ≤ run.2.1 && (n - run.1) % run.2.2.2 == 0

/-- The upper case of a character, one or more characters. -/
def upperChar (c : Char) : List Char :=
  let n := c.toNat
  match upperExpansions.find? (·.1 == n) with
  | some (_, cs) => cs.map Char.ofNat
  | none =>
    match upperRuns.find? (runHolds n) with
    | some (_, _, shift, _) => [Char.ofNat (n + shift).toNat]
    | none => [c]

/-- The upper case of a text. -/
def toUpper (s : String) : String := String.ofList (s.toList.flatMap upperChar)

/-- The text with ASCII letters in lower case. -/
def asciiLower (s : String) : String := s.map Char.toLower

/-- Whether a character has the Unicode property White_Space. -/
def isWhiteSpace (c : Char) : Bool :=
  let n := c.toNat
  (0x9 ≤ n && n ≤ 0xD) || n == 0x20 || n == 0x85 || n == 0xA0 || n == 0x1680
    || (0x2000 ≤ n && n ≤ 0x200A) || n == 0x2028 || n == 0x2029 || n == 0x202F
    || n == 0x205F || n == 0x3000

/-- Whether a text is empty once white space is trimmed from both ends. -/
def isBlank (s : String) : Bool := s.toList.all isWhiteSpace

end Text

end ShardDump
