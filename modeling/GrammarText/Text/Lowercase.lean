/-
Lower case.  Almost every letter has one character for its lower case.  The capital I with a dot has
two, and the capital sigma one of two, by its place in the word.
-/
import GrammarText.Text.CaseIgnorable
import GrammarText.Text.Cased

namespace GrammarText
namespace Text

open CharRun

/-- Runs of capitals beyond ASCII and the lower case of the first of each, as of Unicode 17.  The
other capitals of a run are as far from theirs. -/
def capitals : List (CharRun × Nat) := [
  (run 0xc0 0xd6, 0xe0), (run 0xd8 0xde, 0xf8), (alt 0x100 0x12e, 0x101), (alt 0x132 0x136, 0x133),
  (alt 0x139 0x147, 0x13a), (alt 0x14a 0x176, 0x14b), (one 0x178, 0xff), (alt 0x179 0x17d, 0x17a),
  (one 0x181, 0x253), (alt 0x182 0x184, 0x183), (one 0x186, 0x254), (one 0x187, 0x188),
  (run 0x189 0x18a, 0x256), (one 0x18b, 0x18c), (one 0x18e, 0x1dd), (one 0x18f, 0x259),
  (one 0x190, 0x25b), (one 0x191, 0x192), (one 0x193, 0x260), (one 0x194, 0x263),
  (one 0x196, 0x269), (one 0x197, 0x268), (one 0x198, 0x199), (one 0x19c, 0x26f),
  (one 0x19d, 0x272), (one 0x19f, 0x275), (alt 0x1a0 0x1a4, 0x1a1), (one 0x1a6, 0x280),
  (one 0x1a7, 0x1a8), (one 0x1a9, 0x283), (one 0x1ac, 0x1ad), (one 0x1ae, 0x288),
  (one 0x1af, 0x1b0), (run 0x1b1 0x1b2, 0x28a), (alt 0x1b3 0x1b5, 0x1b4), (one 0x1b7, 0x292),
  (one 0x1b8, 0x1b9), (one 0x1bc, 0x1bd), (one 0x1c4, 0x1c6), (one 0x1c5, 0x1c6),
  (one 0x1c7, 0x1c9), (one 0x1c8, 0x1c9), (one 0x1ca, 0x1cc), (alt 0x1cb 0x1db, 0x1cc),
  (alt 0x1de 0x1ee, 0x1df), (one 0x1f1, 0x1f3), (alt 0x1f2 0x1f4, 0x1f3), (one 0x1f6, 0x195),
  (one 0x1f7, 0x1bf), (alt 0x1f8 0x21e, 0x1f9), (one 0x220, 0x19e), (alt 0x222 0x232, 0x223),
  (one 0x23a, 0x2c65), (one 0x23b, 0x23c), (one 0x23d, 0x19a), (one 0x23e, 0x2c66),
  (one 0x241, 0x242), (one 0x243, 0x180), (one 0x244, 0x289), (one 0x245, 0x28c),
  (alt 0x246 0x24e, 0x247), (alt 0x370 0x372, 0x371), (one 0x376, 0x377), (one 0x37f, 0x3f3),
  (one 0x386, 0x3ac), (run 0x388 0x38a, 0x3ad), (one 0x38c, 0x3cc), (run 0x38e 0x38f, 0x3cd),
  (run 0x391 0x3a1, 0x3b1), (run 0x3a3 0x3ab, 0x3c3), (one 0x3cf, 0x3d7), (alt 0x3d8 0x3ee, 0x3d9),
  (one 0x3f4, 0x3b8), (one 0x3f7, 0x3f8), (one 0x3f9, 0x3f2), (one 0x3fa, 0x3fb),
  (run 0x3fd 0x3ff, 0x37b), (run 0x400 0x40f, 0x450), (run 0x410 0x42f, 0x430),
  (alt 0x460 0x480, 0x461), (alt 0x48a 0x4be, 0x48b), (one 0x4c0, 0x4cf), (alt 0x4c1 0x4cd, 0x4c2),
  (alt 0x4d0 0x52e, 0x4d1), (run 0x531 0x556, 0x561), (run 0x10a0 0x10c5, 0x2d00),
  (one 0x10c7, 0x2d27), (one 0x10cd, 0x2d2d), (run 0x13a0 0x13ef, 0xab70),
  (run 0x13f0 0x13f5, 0x13f8), (one 0x1c89, 0x1c8a), (run 0x1c90 0x1cba, 0x10d0),
  (run 0x1cbd 0x1cbf, 0x10fd), (alt 0x1e00 0x1e94, 0x1e01), (one 0x1e9e, 0xdf),
  (alt 0x1ea0 0x1efe, 0x1ea1), (run 0x1f08 0x1f0f, 0x1f00), (run 0x1f18 0x1f1d, 0x1f10),
  (run 0x1f28 0x1f2f, 0x1f20), (run 0x1f38 0x1f3f, 0x1f30), (run 0x1f48 0x1f4d, 0x1f40),
  (alt 0x1f59 0x1f5f, 0x1f51), (run 0x1f68 0x1f6f, 0x1f60), (run 0x1f88 0x1f8f, 0x1f80),
  (run 0x1f98 0x1f9f, 0x1f90), (run 0x1fa8 0x1faf, 0x1fa0), (run 0x1fb8 0x1fb9, 0x1fb0),
  (run 0x1fba 0x1fbb, 0x1f70), (one 0x1fbc, 0x1fb3), (run 0x1fc8 0x1fcb, 0x1f72),
  (one 0x1fcc, 0x1fc3), (run 0x1fd8 0x1fd9, 0x1fd0), (run 0x1fda 0x1fdb, 0x1f76),
  (run 0x1fe8 0x1fe9, 0x1fe0), (run 0x1fea 0x1feb, 0x1f7a), (one 0x1fec, 0x1fe5),
  (run 0x1ff8 0x1ff9, 0x1f78), (run 0x1ffa 0x1ffb, 0x1f7c), (one 0x1ffc, 0x1ff3),
  (one 0x2126, 0x3c9), (one 0x212a, 0x6b), (one 0x212b, 0xe5), (one 0x2132, 0x214e),
  (run 0x2160 0x216f, 0x2170), (one 0x2183, 0x2184), (run 0x24b6 0x24cf, 0x24d0),
  (run 0x2c00 0x2c2f, 0x2c30), (one 0x2c60, 0x2c61), (one 0x2c62, 0x26b), (one 0x2c63, 0x1d7d),
  (one 0x2c64, 0x27d), (alt 0x2c67 0x2c6b, 0x2c68), (one 0x2c6d, 0x251), (one 0x2c6e, 0x271),
  (one 0x2c6f, 0x250), (one 0x2c70, 0x252), (one 0x2c72, 0x2c73), (one 0x2c75, 0x2c76),
  (run 0x2c7e 0x2c7f, 0x23f), (alt 0x2c80 0x2ce2, 0x2c81), (alt 0x2ceb 0x2ced, 0x2cec),
  (one 0x2cf2, 0x2cf3), (alt 0xa640 0xa66c, 0xa641), (alt 0xa680 0xa69a, 0xa681),
  (alt 0xa722 0xa72e, 0xa723), (alt 0xa732 0xa76e, 0xa733), (alt 0xa779 0xa77b, 0xa77a),
  (one 0xa77d, 0x1d79), (alt 0xa77e 0xa786, 0xa77f), (one 0xa78b, 0xa78c), (one 0xa78d, 0x265),
  (alt 0xa790 0xa792, 0xa791), (alt 0xa796 0xa7a8, 0xa797), (one 0xa7aa, 0x266),
  (one 0xa7ab, 0x25c), (one 0xa7ac, 0x261), (one 0xa7ad, 0x26c), (one 0xa7ae, 0x26a),
  (one 0xa7b0, 0x29e), (one 0xa7b1, 0x287), (one 0xa7b2, 0x29d), (one 0xa7b3, 0xab53),
  (alt 0xa7b4 0xa7c2, 0xa7b5), (one 0xa7c4, 0xa794), (one 0xa7c5, 0x282), (one 0xa7c6, 0x1d8e),
  (alt 0xa7c7 0xa7c9, 0xa7c8), (one 0xa7cb, 0x264), (alt 0xa7cc 0xa7da, 0xa7cd),
  (one 0xa7dc, 0x19b), (one 0xa7f5, 0xa7f6), (run 0xff21 0xff3a, 0xff41),
  (run 0x10400 0x10427, 0x10428), (run 0x104b0 0x104d3, 0x104d8), (run 0x10570 0x1057a, 0x10597),
  (run 0x1057c 0x1058a, 0x105a3), (run 0x1058c 0x10592, 0x105b3), (run 0x10594 0x10595, 0x105bb),
  (run 0x10c80 0x10cb2, 0x10cc0), (run 0x10d50 0x10d65, 0x10d70), (run 0x118a0 0x118bf, 0x118c0),
  (run 0x16e40 0x16e5f, 0x16e60), (run 0x16ea0 0x16eb8, 0x16ebb), (run 0x1e900 0x1e921, 0x1e922)]

/-- The lower case of a code point by a table of runs.  Others stand for themselves. -/
def lowerIn : List (CharRun × Nat) → Nat → Nat
  | [], code => code
  | (r, lower) :: rest, code => if r.has code then lower + (code - r.first) else lowerIn rest code

/-- The lower case of a character that does not depend on its place. -/
def lowerChar (c : Char) : List Char :=
  if c.toNat < 0x80 then [c.toLower]
  else if c == '\u0130' then ['i', '\u0307']
  else [Char.ofNat (lowerIn capitals c.toNat)]

/-- Whether the first character that is not case ignorable has case. -/
def startsCased (text : List Char) : Bool :=
  (text.dropWhile isCaseIgnorable).head?.any isCased

/-- Whether a word with case goes on behind a character if one did before it. -/
def isInWord (inWord : Bool) (c : Char) : Bool :=
  if isCaseIgnorable c then inWord else isCased c

/-- The lower case of a text, given whether a word with case goes on before it.  A sigma that ends
such a word is final. -/
def lowerFrom (inWord : Bool) : List Char → List Char
  | [] => []
  | c :: rest =>
      let lower := if c == 'Σ' && inWord && !startsCased rest then ['ς'] else lowerChar c
      lower ++ lowerFrom (isInWord inWord c) rest

def lowercase (text : String) : String :=
  String.ofList (lowerFrom false text.toList)

end Text
end GrammarText
