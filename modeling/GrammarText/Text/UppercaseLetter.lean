import GrammarText.Text.CharRun

namespace GrammarText
namespace Text

open CharRun

/-- The code points of general category Lu in Unicode 16. -/
def uppercaseLetters : List CharRun := [
  run 0x41 0x5a, run 0xc0 0xd6, run 0xd8 0xde, alt 0x100 0x136, alt 0x139 0x147, alt 0x14a 0x178,
  one 0x179, one 0x17b, one 0x17d, run 0x181 0x182, one 0x184, run 0x186 0x187, run 0x189 0x18b,
  run 0x18e 0x191, run 0x193 0x194, run 0x196 0x198, run 0x19c 0x19d, run 0x19f 0x1a0, one 0x1a2,
  one 0x1a4, run 0x1a6 0x1a7, one 0x1a9, one 0x1ac, run 0x1ae 0x1af, run 0x1b1 0x1b3, one 0x1b5,
  run 0x1b7 0x1b8, one 0x1bc, one 0x1c4, one 0x1c7, one 0x1ca, alt 0x1cd 0x1db, alt 0x1de 0x1ee,
  one 0x1f1, one 0x1f4, run 0x1f6 0x1f8, alt 0x1fa 0x232, run 0x23a 0x23b, run 0x23d 0x23e,
  one 0x241, run 0x243 0x246, alt 0x248 0x24e, one 0x370, one 0x372, one 0x376, one 0x37f,
  one 0x386, run 0x388 0x38a, one 0x38c, run 0x38e 0x38f, run 0x391 0x3a1, run 0x3a3 0x3ab,
  one 0x3cf, run 0x3d2 0x3d4, alt 0x3d8 0x3ee, one 0x3f4, one 0x3f7, run 0x3f9 0x3fa,
  run 0x3fd 0x42f, alt 0x460 0x480, alt 0x48a 0x4c0, alt 0x4c1 0x4cd, alt 0x4d0 0x52e,
  run 0x531 0x556, run 0x10a0 0x10c5, one 0x10c7, one 0x10cd, run 0x13a0 0x13f5, one 0x1c89,
  run 0x1c90 0x1cba, run 0x1cbd 0x1cbf, alt 0x1e00 0x1e94, alt 0x1e9e 0x1efe, run 0x1f08 0x1f0f,
  run 0x1f18 0x1f1d, run 0x1f28 0x1f2f, run 0x1f38 0x1f3f, run 0x1f48 0x1f4d, alt 0x1f59 0x1f5f,
  run 0x1f68 0x1f6f, run 0x1fb8 0x1fbb, run 0x1fc8 0x1fcb, run 0x1fd8 0x1fdb, run 0x1fe8 0x1fec,
  run 0x1ff8 0x1ffb, one 0x2102, one 0x2107, run 0x210b 0x210d, run 0x2110 0x2112, one 0x2115,
  run 0x2119 0x211d, alt 0x2124 0x212a, run 0x212b 0x212d, run 0x2130 0x2133, run 0x213e 0x213f,
  one 0x2145, one 0x2183, run 0x2c00 0x2c2f, one 0x2c60, run 0x2c62 0x2c64, alt 0x2c67 0x2c6d,
  run 0x2c6e 0x2c70, one 0x2c72, one 0x2c75, run 0x2c7e 0x2c80, alt 0x2c82 0x2ce2, one 0x2ceb,
  one 0x2ced, one 0x2cf2, alt 0xa640 0xa66c, alt 0xa680 0xa69a, alt 0xa722 0xa72e,
  alt 0xa732 0xa76e, one 0xa779, one 0xa77b, run 0xa77d 0xa77e, alt 0xa780 0xa786, one 0xa78b,
  one 0xa78d, one 0xa790, one 0xa792, alt 0xa796 0xa7aa, run 0xa7ab 0xa7ae, run 0xa7b0 0xa7b4,
  alt 0xa7b6 0xa7c4, run 0xa7c5 0xa7c7, one 0xa7c9, run 0xa7cb 0xa7cc, one 0xa7d0,
  alt 0xa7d6 0xa7dc, one 0xa7f5, run 0xff21 0xff3a, run 0x10400 0x10427, run 0x104b0 0x104d3,
  run 0x10570 0x1057a, run 0x1057c 0x1058a, run 0x1058c 0x10592, run 0x10594 0x10595,
  run 0x10c80 0x10cb2, run 0x10d50 0x10d65, run 0x118a0 0x118bf, run 0x16e40 0x16e5f,
  run 0x1d400 0x1d419, run 0x1d434 0x1d44d, run 0x1d468 0x1d481, one 0x1d49c, run 0x1d49e 0x1d49f,
  one 0x1d4a2, run 0x1d4a5 0x1d4a6, run 0x1d4a9 0x1d4ac, run 0x1d4ae 0x1d4b5, run 0x1d4d0 0x1d4e9,
  run 0x1d504 0x1d505, run 0x1d507 0x1d50a, run 0x1d50d 0x1d514, run 0x1d516 0x1d51c,
  run 0x1d538 0x1d539, run 0x1d53b 0x1d53e, run 0x1d540 0x1d544, one 0x1d546, run 0x1d54a 0x1d550,
  run 0x1d56c 0x1d585, run 0x1d5a0 0x1d5b9, run 0x1d5d4 0x1d5ed, run 0x1d608 0x1d621,
  run 0x1d63c 0x1d655, run 0x1d670 0x1d689, run 0x1d6a8 0x1d6c0, run 0x1d6e2 0x1d6fa,
  run 0x1d71c 0x1d734, run 0x1d756 0x1d76e, run 0x1d790 0x1d7a8, one 0x1d7ca, run 0x1e900 0x1e921]

/-- Titlecase letters are not among them. -/
def isUppercaseLetter (c : Char) : Bool :=
  anyHas uppercaseLetters c.toNat

end Text
end GrammarText
