import GrammarText.Text.CharRun

namespace GrammarText
namespace Text

open CharRun

/-- The code points with the property Cased in Unicode 17: capitals, small letters and titlecase
letters. -/
def casedLetters : List CharRun := [
  run 0x41 0x5a, run 0x61 0x7a, one 0xaa, one 0xb5, one 0xba, run 0xc0 0xd6, run 0xd8 0xf6,
  run 0xf8 0x1ba, run 0x1bc 0x1bf, run 0x1c4 0x293, run 0x296 0x2b8, run 0x2c0 0x2c1,
  run 0x2e0 0x2e4, one 0x345, run 0x370 0x373, run 0x376 0x377, run 0x37a 0x37d, one 0x37f,
  one 0x386, run 0x388 0x38a, one 0x38c, run 0x38e 0x3a1, run 0x3a3 0x3f5, run 0x3f7 0x481,
  run 0x48a 0x52f, run 0x531 0x556, run 0x560 0x588, run 0x10a0 0x10c5, one 0x10c7, one 0x10cd,
  run 0x10d0 0x10fa, run 0x10fc 0x10ff, run 0x13a0 0x13f5, run 0x13f8 0x13fd, run 0x1c80 0x1c8a,
  run 0x1c90 0x1cba, run 0x1cbd 0x1cbf, run 0x1d00 0x1dbf, run 0x1e00 0x1f15, run 0x1f18 0x1f1d,
  run 0x1f20 0x1f45, run 0x1f48 0x1f4d, run 0x1f50 0x1f57, alt 0x1f59 0x1f5d, run 0x1f5f 0x1f7d,
  run 0x1f80 0x1fb4, run 0x1fb6 0x1fbc, one 0x1fbe, run 0x1fc2 0x1fc4, run 0x1fc6 0x1fcc,
  run 0x1fd0 0x1fd3, run 0x1fd6 0x1fdb, run 0x1fe0 0x1fec, run 0x1ff2 0x1ff4, run 0x1ff6 0x1ffc,
  one 0x2071, one 0x207f, run 0x2090 0x209c, one 0x2102, one 0x2107, run 0x210a 0x2113, one 0x2115,
  run 0x2119 0x211d, alt 0x2124 0x2128, run 0x212a 0x212d, run 0x212f 0x2134, one 0x2139,
  run 0x213c 0x213f, run 0x2145 0x2149, one 0x214e, run 0x2160 0x217f, run 0x2183 0x2184,
  run 0x24b6 0x24e9, run 0x2c00 0x2ce4, run 0x2ceb 0x2cee, run 0x2cf2 0x2cf3, run 0x2d00 0x2d25,
  one 0x2d27, one 0x2d2d, run 0xa640 0xa66d, run 0xa680 0xa69d, run 0xa722 0xa787,
  run 0xa78b 0xa78e, run 0xa790 0xa7dc, run 0xa7f1 0xa7f6, run 0xa7f8 0xa7fa, run 0xab30 0xab5a,
  run 0xab5c 0xab69, run 0xab70 0xabbf, run 0xfb00 0xfb06, run 0xfb13 0xfb17, run 0xff21 0xff3a,
  run 0xff41 0xff5a, run 0x10400 0x1044f, run 0x104b0 0x104d3, run 0x104d8 0x104fb,
  run 0x10570 0x1057a, run 0x1057c 0x1058a, run 0x1058c 0x10592, run 0x10594 0x10595,
  run 0x10597 0x105a1, run 0x105a3 0x105b1, run 0x105b3 0x105b9, run 0x105bb 0x105bc, one 0x10780,
  run 0x10783 0x10785, run 0x10787 0x107b0, run 0x107b2 0x107ba, run 0x10c80 0x10cb2,
  run 0x10cc0 0x10cf2, run 0x10d50 0x10d65, run 0x10d70 0x10d85, run 0x118a0 0x118df,
  run 0x16e40 0x16e7f, run 0x16ea0 0x16eb8, run 0x16ebb 0x16ed3, run 0x1d400 0x1d454,
  run 0x1d456 0x1d49c, run 0x1d49e 0x1d49f, one 0x1d4a2, run 0x1d4a5 0x1d4a6, run 0x1d4a9 0x1d4ac,
  run 0x1d4ae 0x1d4b9, one 0x1d4bb, run 0x1d4bd 0x1d4c3, run 0x1d4c5 0x1d505, run 0x1d507 0x1d50a,
  run 0x1d50d 0x1d514, run 0x1d516 0x1d51c, run 0x1d51e 0x1d539, run 0x1d53b 0x1d53e,
  run 0x1d540 0x1d544, one 0x1d546, run 0x1d54a 0x1d550, run 0x1d552 0x1d6a5, run 0x1d6a8 0x1d6c0,
  run 0x1d6c2 0x1d6da, run 0x1d6dc 0x1d6fa, run 0x1d6fc 0x1d714, run 0x1d716 0x1d734,
  run 0x1d736 0x1d74e, run 0x1d750 0x1d76e, run 0x1d770 0x1d788, run 0x1d78a 0x1d7a8,
  run 0x1d7aa 0x1d7c2, run 0x1d7c4 0x1d7cb, run 0x1df00 0x1df09, run 0x1df0b 0x1df1e,
  run 0x1df25 0x1df2a, run 0x1e030 0x1e06d, run 0x1e900 0x1e943, run 0x1f130 0x1f149,
  run 0x1f150 0x1f169, run 0x1f170 0x1f189]

def isCased (c : Char) : Bool :=
  anyHas casedLetters c.toNat

end Text
end GrammarText
