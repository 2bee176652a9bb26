import GrammarText.Text.CharRun

namespace GrammarText
namespace Text

open CharRun

/-- The code points of general category Ll in Unicode 16. -/
def lowercaseLetters : List CharRun := [
  run 0x61 0x7a, one 0xb5, run 0xdf 0xf6, run 0xf8 0xff, alt 0x101 0x137, alt 0x138 0x148,
  alt 0x149 0x177, one 0x17a, one 0x17c, run 0x17e 0x180, one 0x183, one 0x185, one 0x188,
  run 0x18c 0x18d, one 0x192, one 0x195, run 0x199 0x19b, one 0x19e, one 0x1a1, one 0x1a3,
  one 0x1a5, one 0x1a8, run 0x1aa 0x1ab, one 0x1ad, one 0x1b0, one 0x1b4, one 0x1b6,
  run 0x1b9 0x1ba, run 0x1bd 0x1bf, one 0x1c6, one 0x1c9, alt 0x1cc 0x1dc, alt 0x1dd 0x1ef,
  one 0x1f0, one 0x1f3, one 0x1f5, alt 0x1f9 0x233, run 0x234 0x239, one 0x23c, run 0x23f 0x240,
  one 0x242, alt 0x247 0x24f, run 0x250 0x293, run 0x295 0x2af, one 0x371, one 0x373, one 0x377,
  run 0x37b 0x37d, one 0x390, run 0x3ac 0x3ce, run 0x3d0 0x3d1, run 0x3d5 0x3d7, alt 0x3d9 0x3ef,
  run 0x3f0 0x3f3, one 0x3f5, one 0x3f8, run 0x3fb 0x3fc, run 0x430 0x45f, alt 0x461 0x481,
  alt 0x48b 0x4bf, alt 0x4c2 0x4ce, alt 0x4cf 0x52f, run 0x560 0x588, run 0x10d0 0x10fa,
  run 0x10fd 0x10ff, run 0x13f8 0x13fd, run 0x1c80 0x1c88, one 0x1c8a, run 0x1d00 0x1d2b,
  run 0x1d6b 0x1d77, run 0x1d79 0x1d9a, alt 0x1e01 0x1e95, run 0x1e96 0x1e9d, alt 0x1e9f 0x1eff,
  run 0x1f00 0x1f07, run 0x1f10 0x1f15, run 0x1f20 0x1f27, run 0x1f30 0x1f37, run 0x1f40 0x1f45,
  run 0x1f50 0x1f57, run 0x1f60 0x1f67, run 0x1f70 0x1f7d, run 0x1f80 0x1f87, run 0x1f90 0x1f97,
  run 0x1fa0 0x1fa7, run 0x1fb0 0x1fb4, run 0x1fb6 0x1fb7, one 0x1fbe, run 0x1fc2 0x1fc4,
  run 0x1fc6 0x1fc7, run 0x1fd0 0x1fd3, run 0x1fd6 0x1fd7, run 0x1fe0 0x1fe7, run 0x1ff2 0x1ff4,
  run 0x1ff6 0x1ff7, one 0x210a, run 0x210e 0x210f, one 0x2113, one 0x212f, one 0x2134, one 0x2139,
  run 0x213c 0x213d, run 0x2146 0x2149, one 0x214e, one 0x2184, run 0x2c30 0x2c5f, one 0x2c61,
  run 0x2c65 0x2c66, one 0x2c68, one 0x2c6a, one 0x2c6c, one 0x2c71, run 0x2c73 0x2c74,
  run 0x2c76 0x2c7b, alt 0x2c81 0x2ce3, one 0x2ce4, one 0x2cec, one 0x2cee, one 0x2cf3,
  run 0x2d00 0x2d25, one 0x2d27, one 0x2d2d, alt 0xa641 0xa66d, alt 0xa681 0xa69b,
  alt 0xa723 0xa72f, run 0xa730 0xa731, alt 0xa733 0xa771, run 0xa772 0xa778, one 0xa77a,
  one 0xa77c, alt 0xa77f 0xa787, one 0xa78c, one 0xa78e, one 0xa791, run 0xa793 0xa795,
  alt 0xa797 0xa7a9, one 0xa7af, alt 0xa7b5 0xa7c3, one 0xa7c8, one 0xa7ca, one 0xa7cd,
  alt 0xa7d1 0xa7db, one 0xa7f6, one 0xa7fa, run 0xab30 0xab5a, run 0xab60 0xab68,
  run 0xab70 0xabbf, run 0xfb00 0xfb06, run 0xfb13 0xfb17, run 0xff41 0xff5a, run 0x10428 0x1044f,
  run 0x104d8 0x104fb, run 0x10597 0x105a1, run 0x105a3 0x105b1, run 0x105b3 0x105b9,
  run 0x105bb 0x105bc, run 0x10cc0 0x10cf2, run 0x10d70 0x10d85, run 0x118c0 0x118df,
  run 0x16e60 0x16e7f, run 0x1d41a 0x1d433, run 0x1d44e 0x1d454, run 0x1d456 0x1d467,
  run 0x1d482 0x1d49b, run 0x1d4b6 0x1d4b9, one 0x1d4bb, run 0x1d4bd 0x1d4c3, run 0x1d4c5 0x1d4cf,
  run 0x1d4ea 0x1d503, run 0x1d51e 0x1d537, run 0x1d552 0x1d56b, run 0x1d586 0x1d59f,
  run 0x1d5ba 0x1d5d3, run 0x1d5ee 0x1d607, run 0x1d622 0x1d63b, run 0x1d656 0x1d66f,
  run 0x1d68a 0x1d6a5, run 0x1d6c2 0x1d6da, run 0x1d6dc 0x1d6e1, run 0x1d6fc 0x1d714,
  run 0x1d716 0x1d71b, run 0x1d736 0x1d74e, run 0x1d750 0x1d755, run 0x1d770 0x1d788,
  run 0x1d78a 0x1d78f, run 0x1d7aa 0x1d7c2, run 0x1d7c4 0x1d7c9, one 0x1d7cb, run 0x1df00 0x1df09,
  run 0x1df0b 0x1df1e, run 0x1df25 0x1df2a, run 0x1e922 0x1e943]

/-- Modifier letters are not among them. -/
def isLowercaseLetter (c : Char) : Bool :=
  anyHas lowercaseLetters c.toNat

end Text
end GrammarText
