import GrammarText.Text.CharRun

namespace GrammarText
namespace Text

open CharRun

/-- The code points with the property Case_Ignorable in Unicode 17.  They may stand inside a word,
and whether a word has case does not depend on them. -/
def caseIgnorables : List CharRun := [
  one 0x27, one 0x2e, one 0x3a, one 0x5e, one 0x60, one 0xa8, one 0xad, one 0xaf, one 0xb4,
  run 0xb7 0xb8, run 0x2b0 0x36f, run 0x374 0x375, one 0x37a, run 0x384 0x385, one 0x387,
  run 0x483 0x489, one 0x559, one 0x55f, run 0x591 0x5bd, one 0x5bf, run 0x5c1 0x5c2,
  run 0x5c4 0x5c5, one 0x5c7, one 0x5f4, run 0x600 0x605, run 0x610 0x61a, one 0x61c, one 0x640,
  run 0x64b 0x65f, one 0x670, run 0x6d6 0x6dd, run 0x6df 0x6e8, run 0x6ea 0x6ed, one 0x70f,
  one 0x711, run 0x730 0x74a, run 0x7a6 0x7b0, run 0x7eb 0x7f5, one 0x7fa, one 0x7fd,
  run 0x816 0x82d, run 0x859 0x85b, one 0x888, run 0x890 0x891, run 0x897 0x89f, run 0x8c9 0x902,
  one 0x93a, one 0x93c, run 0x941 0x948, one 0x94d, run 0x951 0x957, run 0x962 0x963, one 0x971,
  one 0x981, one 0x9bc, run 0x9c1 0x9c4, one 0x9cd, run 0x9e2 0x9e3, one 0x9fe, run 0xa01 0xa02,
  one 0xa3c, run 0xa41 0xa42, run 0xa47 0xa48, run 0xa4b 0xa4d, one 0xa51, run 0xa70 0xa71,
  one 0xa75, run 0xa81 0xa82, one 0xabc, run 0xac1 0xac5, run 0xac7 0xac8, one 0xacd,
  run 0xae2 0xae3, run 0xafa 0xaff, one 0xb01, one 0xb3c, one 0xb3f, run 0xb41 0xb44, one 0xb4d,
  run 0xb55 0xb56, run 0xb62 0xb63, one 0xb82, one 0xbc0, one 0xbcd, one 0xc00, one 0xc04,
  one 0xc3c, run 0xc3e 0xc40, run 0xc46 0xc48, run 0xc4a 0xc4d, run 0xc55 0xc56, run 0xc62 0xc63,
  one 0xc81, one 0xcbc, one 0xcbf, one 0xcc6, run 0xccc 0xccd, run 0xce2 0xce3, run 0xd00 0xd01,
  run 0xd3b 0xd3c, run 0xd41 0xd44, one 0xd4d, run 0xd62 0xd63, one 0xd81, one 0xdca,
  run 0xdd2 0xdd4, one 0xdd6, one 0xe31, run 0xe34 0xe3a, run 0xe46 0xe4e, one 0xeb1,
  run 0xeb4 0xebc, one 0xec6, run 0xec8 0xece, run 0xf18 0xf19, alt 0xf35 0xf39, run 0xf71 0xf7e,
  run 0xf80 0xf84, run 0xf86 0xf87, run 0xf8d 0xf97, run 0xf99 0xfbc, one 0xfc6, run 0x102d 0x1030,
  run 0x1032 0x1037, run 0x1039 0x103a, run 0x103d 0x103e, run 0x1058 0x1059, run 0x105e 0x1060,
  run 0x1071 0x1074, one 0x1082, run 0x1085 0x1086, one 0x108d, one 0x109d, one 0x10fc,
  run 0x135d 0x135f, run 0x1712 0x1714, run 0x1732 0x1733, run 0x1752 0x1753, run 0x1772 0x1773,
  run 0x17b4 0x17b5, run 0x17b7 0x17bd, one 0x17c6, run 0x17c9 0x17d3, one 0x17d7, one 0x17dd,
  run 0x180b 0x180f, one 0x1843, run 0x1885 0x1886, one 0x18a9, run 0x1920 0x1922,
  run 0x1927 0x1928, one 0x1932, run 0x1939 0x193b, run 0x1a17 0x1a18, one 0x1a1b, one 0x1a56,
  run 0x1a58 0x1a5e, one 0x1a60, one 0x1a62, run 0x1a65 0x1a6c, run 0x1a73 0x1a7c, one 0x1a7f,
  one 0x1aa7, run 0x1ab0 0x1add, run 0x1ae0 0x1aeb, run 0x1b00 0x1b03, one 0x1b34,
  run 0x1b36 0x1b3a, one 0x1b3c, one 0x1b42, run 0x1b6b 0x1b73, run 0x1b80 0x1b81,
  run 0x1ba2 0x1ba5, run 0x1ba8 0x1ba9, run 0x1bab 0x1bad, one 0x1be6, run 0x1be8 0x1be9,
  one 0x1bed, run 0x1bef 0x1bf1, run 0x1c2c 0x1c33, run 0x1c36 0x1c37, run 0x1c78 0x1c7d,
  run 0x1cd0 0x1cd2, run 0x1cd4 0x1ce0, run 0x1ce2 0x1ce8, one 0x1ced, one 0x1cf4,
  run 0x1cf8 0x1cf9, run 0x1d2c 0x1d6a, one 0x1d78, run 0x1d9b 0x1dff, one 0x1fbd,
  run 0x1fbf 0x1fc1, run 0x1fcd 0x1fcf, run 0x1fdd 0x1fdf, run 0x1fed 0x1fef, run 0x1ffd 0x1ffe,
  run 0x200b 0x200f, run 0x2018 0x2019, one 0x2024, one 0x2027, run 0x202a 0x202e,
  run 0x2060 0x2064, run 0x2066 0x206f, one 0x2071, one 0x207f, run 0x2090 0x209c,
  run 0x20d0 0x20f0, run 0x2c7c 0x2c7d, run 0x2cef 0x2cf1, one 0x2d6f, one 0x2d7f,
  run 0x2de0 0x2dff, one 0x2e2f, one 0x3005, run 0x302a 0x302d, run 0x3031 0x3035, one 0x303b,
  run 0x3099 0x309e, run 0x30fc 0x30fe, one 0xa015, run 0xa4f8 0xa4fd, one 0xa60c,
  run 0xa66f 0xa672, run 0xa674 0xa67d, one 0xa67f, run 0xa69c 0xa69f, run 0xa6f0 0xa6f1,
  run 0xa700 0xa721, one 0xa770, run 0xa788 0xa78a, run 0xa7f1 0xa7f4, run 0xa7f8 0xa7f9,
  one 0xa802, one 0xa806, one 0xa80b, run 0xa825 0xa826, one 0xa82c, run 0xa8c4 0xa8c5,
  run 0xa8e0 0xa8f1, one 0xa8ff, run 0xa926 0xa92d, run 0xa947 0xa951, run 0xa980 0xa982,
  one 0xa9b3, run 0xa9b6 0xa9b9, run 0xa9bc 0xa9bd, one 0xa9cf, run 0xa9e5 0xa9e6,
  run 0xaa29 0xaa2e, run 0xaa31 0xaa32, run 0xaa35 0xaa36, one 0xaa43, one 0xaa4c, one 0xaa70,
  one 0xaa7c, one 0xaab0, run 0xaab2 0xaab4, run 0xaab7 0xaab8, run 0xaabe 0xaabf, one 0xaac1,
  one 0xaadd, run 0xaaec 0xaaed, run 0xaaf3 0xaaf4, one 0xaaf6, run 0xab5b 0xab5f,
  run 0xab69 0xab6b, one 0xabe5, one 0xabe8, one 0xabed, one 0xfb1e, run 0xfbb2 0xfbc2,
  run 0xfe00 0xfe0f, one 0xfe13, run 0xfe20 0xfe2f, one 0xfe52, one 0xfe55, one 0xfeff, one 0xff07,
  one 0xff0e, one 0xff1a, one 0xff3e, one 0xff40, one 0xff70, run 0xff9e 0xff9f, one 0xffe3,
  run 0xfff9 0xfffb, one 0x101fd, one 0x102e0, run 0x10376 0x1037a, run 0x10780 0x10785,
  run 0x10787 0x107b0, run 0x107b2 0x107ba, run 0x10a01 0x10a03, run 0x10a05 0x10a06,
  run 0x10a0c 0x10a0f, run 0x10a38 0x10a3a, one 0x10a3f, run 0x10ae5 0x10ae6, run 0x10d24 0x10d27,
  one 0x10d4e, run 0x10d69 0x10d6d, one 0x10d6f, run 0x10eab 0x10eac, one 0x10ec5,
  run 0x10efa 0x10eff, run 0x10f46 0x10f50, run 0x10f82 0x10f85, one 0x11001, run 0x11038 0x11046,
  one 0x11070, run 0x11073 0x11074, run 0x1107f 0x11081, run 0x110b3 0x110b6, run 0x110b9 0x110ba,
  one 0x110bd, one 0x110c2, one 0x110cd, run 0x11100 0x11102, run 0x11127 0x1112b,
  run 0x1112d 0x11134, one 0x11173, run 0x11180 0x11181, run 0x111b6 0x111be, run 0x111c9 0x111cc,
  one 0x111cf, run 0x1122f 0x11231, one 0x11234, run 0x11236 0x11237, one 0x1123e, one 0x11241,
  one 0x112df, run 0x112e3 0x112ea, run 0x11300 0x11301, run 0x1133b 0x1133c, one 0x11340,
  run 0x11366 0x1136c, run 0x11370 0x11374, run 0x113bb 0x113c0, alt 0x113ce 0x113d2,
  run 0x113e1 0x113e2, run 0x11438 0x1143f, run 0x11442 0x11444, one 0x11446, one 0x1145e,
  run 0x114b3 0x114b8, one 0x114ba, run 0x114bf 0x114c0, run 0x114c2 0x114c3, run 0x115b2 0x115b5,
  run 0x115bc 0x115bd, run 0x115bf 0x115c0, run 0x115dc 0x115dd, run 0x11633 0x1163a, one 0x1163d,
  run 0x1163f 0x11640, one 0x116ab, one 0x116ad, run 0x116b0 0x116b5, one 0x116b7, one 0x1171d,
  one 0x1171f, run 0x11722 0x11725, run 0x11727 0x1172b, run 0x1182f 0x11837, run 0x11839 0x1183a,
  run 0x1193b 0x1193c, one 0x1193e, one 0x11943, run 0x119d4 0x119d7, run 0x119da 0x119db,
  one 0x119e0, run 0x11a01 0x11a0a, run 0x11a33 0x11a38, run 0x11a3b 0x11a3e, one 0x11a47,
  run 0x11a51 0x11a56, run 0x11a59 0x11a5b, run 0x11a8a 0x11a96, run 0x11a98 0x11a99, one 0x11b60,
  run 0x11b62 0x11b64, one 0x11b66, run 0x11c30 0x11c36, run 0x11c38 0x11c3d, one 0x11c3f,
  run 0x11c92 0x11ca7, run 0x11caa 0x11cb0, run 0x11cb2 0x11cb3, run 0x11cb5 0x11cb6,
  run 0x11d31 0x11d36, one 0x11d3a, run 0x11d3c 0x11d3d, run 0x11d3f 0x11d45, one 0x11d47,
  run 0x11d90 0x11d91, one 0x11d95, one 0x11d97, one 0x11dd9, run 0x11ef3 0x11ef4,
  run 0x11f00 0x11f01, run 0x11f36 0x11f3a, one 0x11f40, one 0x11f42, one 0x11f5a,
  run 0x13430 0x13440, run 0x13447 0x13455, run 0x1611e 0x16129, run 0x1612d 0x1612f,
  run 0x16af0 0x16af4, run 0x16b30 0x16b36, run 0x16b40 0x16b43, run 0x16d40 0x16d42,
  run 0x16d6b 0x16d6c, one 0x16f4f, run 0x16f8f 0x16f9f, run 0x16fe0 0x16fe1, run 0x16fe3 0x16fe4,
  run 0x16ff2 0x16ff3, run 0x1aff0 0x1aff3, run 0x1aff5 0x1affb, run 0x1affd 0x1affe,
  run 0x1bc9d 0x1bc9e, run 0x1bca0 0x1bca3, run 0x1cf00 0x1cf2d, run 0x1cf30 0x1cf46,
  run 0x1d167 0x1d169, run 0x1d173 0x1d182, run 0x1d185 0x1d18b, run 0x1d1aa 0x1d1ad,
  run 0x1d242 0x1d244, run 0x1da00 0x1da36, run 0x1da3b 0x1da6c, one 0x1da75, one 0x1da84,
  run 0x1da9b 0x1da9f, run 0x1daa1 0x1daaf, run 0x1e000 0x1e006, run 0x1e008 0x1e018,
  run 0x1e01b 0x1e021, run 0x1e023 0x1e024, run 0x1e026 0x1e02a, run 0x1e030 0x1e06d, one 0x1e08f,
  run 0x1e130 0x1e13d, one 0x1e2ae, run 0x1e2ec 0x1e2ef, run 0x1e4eb 0x1e4ef, run 0x1e5ee 0x1e5ef,
  one 0x1e6e3, one 0x1e6e6, run 0x1e6ee 0x1e6ef, one 0x1e6f5, one 0x1e6ff, run 0x1e8d0 0x1e8d6,
  run 0x1e944 0x1e94b, run 0x1f3fb 0x1f3ff, one 0xe0001, run 0xe0020 0xe007f, run 0xe0100 0xe01ef]

def isCaseIgnorable (c : Char) : Bool :=
  anyHas caseIgnorables c.toNat

end Text
end GrammarText
