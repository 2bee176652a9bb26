import GrammarText.Text.Word
import GrammarText.Text.Letter

namespace GrammarText
namespace Text

open CharRun

/-- The alphabetic code points of Unicode 17 that are no letters of Unicode 16: vowel signs, letter
numbers and the like, and later letters. -/
def otherAlphabetics : List CharRun := [
  one 0x345, run 0x363 0x36f, run 0x5b0 0x5bd, one 0x5bf, run 0x5c1 0x5c2, run 0x5c4 0x5c5,
  one 0x5c7, run 0x610 0x61a, run 0x64b 0x657, run 0x659 0x65f, one 0x670, run 0x6d6 0x6dc,
  run 0x6e1 0x6e4, run 0x6e7 0x6e8, one 0x6ed, one 0x711, run 0x730 0x73f, run 0x7a6 0x7b0,
  run 0x816 0x817, run 0x81b 0x823, run 0x825 0x827, run 0x829 0x82c, one 0x88f, one 0x897,
  run 0x8d4 0x8df, run 0x8e3 0x8e9, run 0x8f0 0x903, run 0x93a 0x93b, run 0x93e 0x94c,
  run 0x94e 0x94f, run 0x955 0x957, run 0x962 0x963, run 0x981 0x983, run 0x9be 0x9c4,
  run 0x9c7 0x9c8, run 0x9cb 0x9cc, one 0x9d7, run 0x9e2 0x9e3, run 0xa01 0xa03, run 0xa3e 0xa42,
  run 0xa47 0xa48, run 0xa4b 0xa4c, one 0xa51, run 0xa70 0xa71, one 0xa75, run 0xa81 0xa83,
  run 0xabe 0xac5, run 0xac7 0xac9, run 0xacb 0xacc, run 0xae2 0xae3, run 0xafa 0xafc,
  run 0xb01 0xb03, run 0xb3e 0xb44, run 0xb47 0xb48, run 0xb4b 0xb4c, run 0xb56 0xb57,
  run 0xb62 0xb63, one 0xb82, run 0xbbe 0xbc2, run 0xbc6 0xbc8, run 0xbca 0xbcc, one 0xbd7,
  run 0xc00 0xc04, run 0xc3e 0xc44, run 0xc46 0xc48, run 0xc4a 0xc4c, run 0xc55 0xc56, one 0xc5c,
  run 0xc62 0xc63, run 0xc81 0xc83, run 0xcbe 0xcc4, run 0xcc6 0xcc8, run 0xcca 0xccc,
  run 0xcd5 0xcd6, one 0xcdc, run 0xce2 0xce3, one 0xcf3, run 0xd00 0xd03, run 0xd3e 0xd44,
  run 0xd46 0xd48, run 0xd4a 0xd4c, one 0xd57, run 0xd62 0xd63, run 0xd81 0xd83, run 0xdcf 0xdd4,
  one 0xdd6, run 0xdd8 0xddf, run 0xdf2 0xdf3, one 0xe31, run 0xe34 0xe3a, one 0xe4d, one 0xeb1,
  run 0xeb4 0xeb9, run 0xebb 0xebc, one 0xecd, run 0xf71 0xf83, run 0xf8d 0xf97, run 0xf99 0xfbc,
  run 0x102b 0x1036, one 0x1038, run 0x103b 0x103e, run 0x1056 0x1059, run 0x105e 0x1060,
  run 0x1062 0x1064, run 0x1067 0x106d, run 0x1071 0x1074, run 0x1082 0x108d, one 0x108f,
  run 0x109a 0x109d, run 0x16ee 0x16f0, run 0x1712 0x1713, run 0x1732 0x1733, run 0x1752 0x1753,
  run 0x1772 0x1773, run 0x17b6 0x17c8, run 0x1885 0x1886, one 0x18a9, run 0x1920 0x192b,
  run 0x1930 0x1938, run 0x1a17 0x1a1b, run 0x1a55 0x1a5e, run 0x1a61 0x1a74, run 0x1abf 0x1ac0,
  run 0x1acc 0x1ace, run 0x1b00 0x1b04, run 0x1b35 0x1b43, run 0x1b80 0x1b82, run 0x1ba1 0x1ba9,
  run 0x1bac 0x1bad, run 0x1be7 0x1bf1, run 0x1c24 0x1c36, run 0x1dd3 0x1df4, run 0x2160 0x2182,
  run 0x2185 0x2188, run 0x24b6 0x24e9, run 0x2de0 0x2dff, one 0x3007, run 0x3021 0x3029,
  run 0x3038 0x303a, run 0xa674 0xa67b, run 0xa69e 0xa69f, run 0xa6e6 0xa6ef, run 0xa7ce 0xa7cf,
  one 0xa7d2, one 0xa7d4, one 0xa7f1, one 0xa802, one 0xa80b, run 0xa823 0xa827, run 0xa880 0xa881,
  run 0xa8b4 0xa8c3, one 0xa8c5, one 0xa8ff, run 0xa926 0xa92a, run 0xa947 0xa952,
  run 0xa980 0xa983, run 0xa9b4 0xa9bf, one 0xa9e5, run 0xaa29 0xaa36, one 0xaa43,
  run 0xaa4c 0xaa4d, run 0xaa7b 0xaa7d, one 0xaab0, run 0xaab2 0xaab4, run 0xaab7 0xaab8,
  one 0xaabe, run 0xaaeb 0xaaef, one 0xaaf5, run 0xabe3 0xabea, one 0xfb1e, run 0x10140 0x10174,
  one 0x10341, one 0x1034a, run 0x10376 0x1037a, run 0x103d1 0x103d5, run 0x10940 0x10959,
  run 0x10a01 0x10a03, run 0x10a05 0x10a06, run 0x10a0c 0x10a0f, run 0x10d24 0x10d27, one 0x10d69,
  run 0x10eab 0x10eac, run 0x10ec5 0x10ec7, run 0x10efa 0x10efc, run 0x11000 0x11002,
  run 0x11038 0x11045, run 0x11073 0x11074, run 0x11080 0x11082, run 0x110b0 0x110b8, one 0x110c2,
  run 0x11100 0x11102, run 0x11127 0x11132, run 0x11145 0x11146, run 0x11180 0x11182,
  run 0x111b3 0x111bf, run 0x111ce 0x111cf, run 0x1122c 0x11234, one 0x11237, one 0x1123e,
  one 0x11241, run 0x112df 0x112e8, run 0x11300 0x11303, run 0x1133e 0x11344, run 0x11347 0x11348,
  run 0x1134b 0x1134c, one 0x11357, run 0x11362 0x11363, run 0x113b8 0x113c0, one 0x113c2,
  one 0x113c5, run 0x113c7 0x113ca, run 0x113cc 0x113cd, run 0x11435 0x11441, run 0x11443 0x11445,
  run 0x114b0 0x114c1, run 0x115af 0x115b5, run 0x115b8 0x115be, run 0x115dc 0x115dd,
  run 0x11630 0x1163e, one 0x11640, run 0x116ab 0x116b5, run 0x1171d 0x1172a, run 0x1182c 0x11838,
  run 0x11930 0x11935, run 0x11937 0x11938, run 0x1193b 0x1193c, one 0x11940, one 0x11942,
  run 0x119d1 0x119d7, run 0x119da 0x119df, one 0x119e4, run 0x11a01 0x11a0a, run 0x11a35 0x11a39,
  run 0x11a3b 0x11a3e, run 0x11a51 0x11a5b, run 0x11a8a 0x11a97, run 0x11b60 0x11b67,
  run 0x11c2f 0x11c36, run 0x11c38 0x11c3e, run 0x11c92 0x11ca7, run 0x11ca9 0x11cb6,
  run 0x11d31 0x11d36, one 0x11d3a, run 0x11d3c 0x11d3d, run 0x11d3f 0x11d41, one 0x11d43,
  one 0x11d47, run 0x11d8a 0x11d8e, run 0x11d90 0x11d91, run 0x11d93 0x11d96, run 0x11db0 0x11ddb,
  run 0x11ef3 0x11ef6, run 0x11f00 0x11f01, one 0x11f03, run 0x11f34 0x11f3a, run 0x11f3e 0x11f40,
  run 0x12400 0x1246e, run 0x1611e 0x1612e, run 0x16ea0 0x16eb8, run 0x16ebb 0x16ed3, one 0x16f4f,
  run 0x16f51 0x16f87, run 0x16f8f 0x16f92, run 0x16ff0 0x16ff6, run 0x187f8 0x187ff,
  run 0x18d09 0x18d1e, run 0x18d80 0x18df2, one 0x1bc9e, run 0x1e000 0x1e006, run 0x1e008 0x1e018,
  run 0x1e01b 0x1e021, run 0x1e023 0x1e024, run 0x1e026 0x1e02a, one 0x1e08f, run 0x1e6c0 0x1e6de,
  run 0x1e6e0 0x1e6f5, run 0x1e6fe 0x1e6ff, one 0x1e947, run 0x1f130 0x1f149, run 0x1f150 0x1f169,
  run 0x1f170 0x1f189, run 0x2b73a 0x2b73f, run 0x2cea2 0x2cead, run 0x323b0 0x33479]

/-- The code points of general category N in Unicode 17 that are no decimal digits of Unicode 16. -/
def otherNumbers : List CharRun := [
  run 0xb2 0xb3, one 0xb9, run 0xbc 0xbe, run 0x9f4 0x9f9, run 0xb72 0xb77, run 0xbf0 0xbf2,
  run 0xc78 0xc7e, run 0xd58 0xd5e, run 0xd70 0xd78, run 0xf2a 0xf33, run 0x1369 0x137c,
  run 0x16ee 0x16f0, run 0x17f0 0x17f9, one 0x19da, one 0x2070, run 0x2074 0x2079,
  run 0x2080 0x2089, run 0x2150 0x2182, run 0x2185 0x2189, run 0x2460 0x249b, run 0x24ea 0x24ff,
  run 0x2776 0x2793, one 0x2cfd, one 0x3007, run 0x3021 0x3029, run 0x3038 0x303a,
  run 0x3192 0x3195, run 0x3220 0x3229, run 0x3248 0x324f, run 0x3251 0x325f, run 0x3280 0x3289,
  run 0x32b1 0x32bf, run 0xa6e6 0xa6ef, run 0xa830 0xa835, run 0x10107 0x10133, run 0x10140 0x10178,
  run 0x1018a 0x1018b, run 0x102e1 0x102fb, run 0x10320 0x10323, one 0x10341, one 0x1034a,
  run 0x103d1 0x103d5, run 0x10858 0x1085f, run 0x10879 0x1087f, run 0x108a7 0x108af,
  run 0x108fb 0x108ff, run 0x10916 0x1091b, run 0x109bc 0x109bd, run 0x109c0 0x109cf,
  run 0x109d2 0x109ff, run 0x10a40 0x10a48, run 0x10a7d 0x10a7e, run 0x10a9d 0x10a9f,
  run 0x10aeb 0x10aef, run 0x10b58 0x10b5f, run 0x10b78 0x10b7f, run 0x10ba9 0x10baf,
  run 0x10cfa 0x10cff, run 0x10e60 0x10e7e, run 0x10f1d 0x10f26, run 0x10f51 0x10f54,
  run 0x10fc5 0x10fcb, run 0x11052 0x11065, run 0x111e1 0x111f4, run 0x1173a 0x1173b,
  run 0x118ea 0x118f2, run 0x11c5a 0x11c6c, run 0x11de0 0x11de9, run 0x11fc0 0x11fd4,
  run 0x12400 0x1246e, run 0x16b5b 0x16b61, run 0x16e80 0x16e96, run 0x16ff4 0x16ff6,
  run 0x1d2c0 0x1d2d3, run 0x1d2e0 0x1d2f3, run 0x1d360 0x1d378, run 0x1e8c7 0x1e8cf,
  run 0x1ec71 0x1ecab, run 0x1ecad 0x1ecaf, run 0x1ecb1 0x1ecb4, run 0x1ed01 0x1ed2d,
  run 0x1ed2f 0x1ed3d, run 0x1f100 0x1f10c]

def isAlphabetic (c : Char) : Bool :=
  isLetter c || anyHas otherAlphabetics c.toNat

def isAlphanumeric (c : Char) : Bool :=
  isAlphabetic c || isDecimalDigit c || anyHas otherNumbers c.toNat

end Text
end GrammarText
