/-
  VipChannel.Lib.Letters

  The lowercase letters of Unicode 15 (the property `Lowercase`), which is what Python's
  `str.islower` asks of one character.
-/
import Mathlib

namespace VipChannel.Lib

/-- Runs of lowercase letters. -/
def lowerRuns : List (Nat × Nat) :=
  [(0x61, 0x7A), (0xAA, 0xAA), (0xB5, 0xB5), (0xBA, 0xBA), (0xDF, 0xF6), (0xF8, 0xFF),
   (0x17F, 0x180), (0x188, 0x188), (0x18C, 0x18D), (0x192, 0x192), (0x195, 0x195), (0x199, 0x19B),
   (0x19E, 0x19E), (0x1B0, 0x1B0), (0x1B9, 0x1BA), (0x1BD, 0x1BF), (0x1C6, 0x1C6), (0x1C9, 0x1C9),
   (0x1F0, 0x1F0), (0x234, 0x239), (0x23C, 0x23C), (0x23F, 0x240), (0x242, 0x242), (0x250, 0x293),
   (0x295, 0x2B8), (0x2C0, 0x2C1), (0x2E0, 0x2E4), (0x345, 0x345), (0x377, 0x377), (0x37A, 0x37D),
   (0x390, 0x390), (0x3AC, 0x3CE), (0x3D0, 0x3D1), (0x3D5, 0x3D7), (0x3F0, 0x3F3), (0x3F5, 0x3F5),
   (0x3F8, 0x3F8), (0x3FB, 0x3FC), (0x430, 0x45F), (0x560, 0x588), (0x10D0, 0x10FA),
   (0x10FC, 0x10FF), (0x13F8, 0x13FD), (0x1C80, 0x1C88), (0x1D00, 0x1DBF), (0x1E96, 0x1E9D),
   (0x1F00, 0x1F07), (0x1F10, 0x1F15), (0x1F20, 0x1F27), (0x1F30, 0x1F37), (0x1F40, 0x1F45),
   (0x1F50, 0x1F57), (0x1F60, 0x1F67), (0x1F70, 0x1F7D), (0x1F80, 0x1F87), (0x1F90, 0x1F97),
   (0x1FA0, 0x1FA7), (0x1FB0, 0x1FB4), (0x1FB6, 0x1FB7), (0x1FBE, 0x1FBE), (0x1FC2, 0x1FC4),
   (0x1FC6, 0x1FC7), (0x1FD0, 0x1FD3), (0x1FD6, 0x1FD7), (0x1FE0, 0x1FE7), (0x1FF2, 0x1FF4),
   (0x1FF6, 0x1FF7), (0x2071, 0x2071), (0x207F, 0x207F), (0x2090, 0x209C), (0x210A, 0x210A),
   (0x210E, 0x210F), (0x2113, 0x2113), (0x212F, 0x212F), (0x2134, 0x2134), (0x2139, 0x2139),
   (0x213C, 0x213D), (0x2146, 0x2149), (0x214E, 0x214E), (0x2170, 0x217F), (0x2184, 0x2184),
   (0x24D0, 0x24E9), (0x2C30, 0x2C5F), (0x2C61, 0x2C61), (0x2C65, 0x2C66), (0x2C77, 0x2C7D),
   (0x2CE4, 0x2CE4), (0x2CF3, 0x2CF3), (0x2D00, 0x2D25), (0x2D27, 0x2D27), (0x2D2D, 0x2D2D),
   (0xA69C, 0xA69D), (0xA730, 0xA731), (0xA770, 0xA778), (0xA794, 0xA795), (0xA7AF, 0xA7AF),
   (0xA7F2, 0xA7F4), (0xA7F9, 0xA7FA), (0xAB30, 0xAB5A), (0xAB5C, 0xAB69), (0xAB70, 0xABBF),
   (0xFB00, 0xFB06), (0xFB13, 0xFB17), (0xFF41, 0xFF5A), (0x10428, 0x1044F), (0x104D8, 0x104FB),
   (0x10597, 0x105A1), (0x105A3, 0x105B1), (0x105B3, 0x105B9), (0x105BB, 0x105BC),
   (0x10780, 0x10780), (0x10783, 0x10785), (0x10787, 0x107B0), (0x107B2, 0x107BA),
   (0x10CC0, 0x10CF2), (0x118C0, 0x118DF), (0x16E60, 0x16E7F), (0x1D41A, 0x1D433),
   (0x1D44E, 0x1D454), (0x1D456, 0x1D467), (0x1D482, 0x1D49B), (0x1D4B6, 0x1D4B9),
   (0x1D4BE, 0x1D4C3), (0x1D4C5, 0x1D4CF), (0x1D4EA, 0x1D503), (0x1D51E, 0x1D537),
   (0x1D552, 0x1D56B), (0x1D586, 0x1D59F), (0x1D5BA, 0x1D5D3), (0x1D5EE, 0x1D607),
   (0x1D622, 0x1D63B), (0x1D656, 0x1D66F), (0x1D68A, 0x1D6A5), (0x1D6C2, 0x1D6DA),
   (0x1D6DC, 0x1D6E1), (0x1D6FC, 0x1D714), (0x1D716, 0x1D71B), (0x1D736, 0x1D74E),
   (0x1D750, 0x1D755), (0x1D770, 0x1D788), (0x1D78A, 0x1D78F), (0x1D7AA, 0x1D7C2),
   (0x1D7C4, 0x1D7C9), (0x1D7CB, 0x1D7CB), (0x1DF00, 0x1DF09), (0x1DF0B, 0x1DF1E),
   (0x1DF25, 0x1DF2A), (0x1E030, 0x1E06D), (0x1E922, 0x1E943)]

/-- Runs in which every other letter, from the first on, is lowercase. -/
def alternatingRuns : List (Nat × Nat) :=
  [(0x101, 0x137), (0x138, 0x148), (0x149, 0x177), (0x17A, 0x17E), (0x183, 0x185), (0x1A1, 0x1A5),
   (0x1A8, 0x1AA), (0x1AB, 0x1AD), (0x1B4, 0x1B6), (0x1CC, 0x1DC), (0x1DD, 0x1EF), (0x1F3, 0x1F5),
   (0x1F9, 0x233), (0x247, 0x24F), (0x371, 0x373), (0x3D9, 0x3EF), (0x461, 0x481), (0x48B, 0x4BF),
   (0x4C2, 0x4CE), (0x4CF, 0x52F), (0x1E01, 0x1E95), (0x1E9F, 0x1EFF), (0x2C68, 0x2C6C),
   (0x2C71, 0x2C73), (0x2C74, 0x2C76), (0x2C81, 0x2CE3), (0x2CEC, 0x2CEE), (0xA641, 0xA66D),
   (0xA681, 0xA69B), (0xA723, 0xA72F), (0xA733, 0xA76F), (0xA77A, 0xA77C), (0xA77F, 0xA787),
   (0xA78C, 0xA78E), (0xA791, 0xA793), (0xA797, 0xA7A9), (0xA7B5, 0xA7C3), (0xA7C8, 0xA7CA),
   (0xA7D1, 0xA7D9), (0xA7F6, 0xA7F8), (0x1D4BB, 0x1D4BD)]

/-- `c.islower()` of one character. -/
def isLower (c : Char) : Bool :=
  lowerRuns.any (fun run => run.1 ≤ c.toNat && c.toNat ≤ run.2) ||
    alternatingRuns.any fun run =>
      run.1 ≤ c.toNat && c.toNat ≤ run.2 && (c.toNat - run.1) % 2 == 0

end VipChannel.Lib
