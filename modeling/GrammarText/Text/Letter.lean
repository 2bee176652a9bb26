import GrammarText.Text.CharRun

namespace GrammarText
namespace Text

open CharRun

/-- The code points of general category L (Lu, Ll, Lt, Lm, Lo) in Unicode 16. -/
def letters : List CharRun := [
  run 0x41 0x5a, run 0x61 0x7a, one 0xaa, one 0xb5, one 0xba, run 0xc0 0xd6, run 0xd8 0xf6,
  run 0xf8 0x2c1, run 0x2c6 0x2d1, run 0x2e0 0x2e4, one 0x2ec, one 0x2ee, run 0x370 0x374,
  run 0x376 0x377, run 0x37a 0x37d, one 0x37f, one 0x386, run 0x388 0x38a, one 0x38c,
  run 0x38e 0x3a1, run 0x3a3 0x3f5, run 0x3f7 0x481, run 0x48a 0x52f, run 0x531 0x556, one 0x559,
  run 0x560 0x588, run 0x5d0 0x5ea, run 0x5ef 0x5f2, run 0x620 0x64a, run 0x66e 0x66f,
  run 0x671 0x6d3, one 0x6d5, run 0x6e5 0x6e6, run 0x6ee 0x6ef, run 0x6fa 0x6fc, one 0x6ff,
  one 0x710, run 0x712 0x72f, run 0x74d 0x7a5, one 0x7b1, run 0x7ca 0x7ea, run 0x7f4 0x7f5,
  one 0x7fa, run 0x800 0x815, one 0x81a, one 0x824, one 0x828, run 0x840 0x858, run 0x860 0x86a,
  run 0x870 0x887, run 0x889 0x88e, run 0x8a0 0x8c9, run 0x904 0x939, one 0x93d, one 0x950,
  run 0x958 0x961, run 0x971 0x980, run 0x985 0x98c, run 0x98f 0x990, run 0x993 0x9a8,
  run 0x9aa 0x9b0, one 0x9b2, run 0x9b6 0x9b9, one 0x9bd, one 0x9ce, run 0x9dc 0x9dd,
  run 0x9df 0x9e1, run 0x9f0 0x9f1, one 0x9fc, run 0xa05 0xa0a, run 0xa0f 0xa10, run 0xa13 0xa28,
  run 0xa2a 0xa30, run 0xa32 0xa33, run 0xa35 0xa36, run 0xa38 0xa39, run 0xa59 0xa5c, one 0xa5e,
  run 0xa72 0xa74, run 0xa85 0xa8d, run 0xa8f 0xa91, run 0xa93 0xaa8, run 0xaaa 0xab0,
  run 0xab2 0xab3, run 0xab5 0xab9, one 0xabd, one 0xad0, run 0xae0 0xae1, one 0xaf9,
  run 0xb05 0xb0c, run 0xb0f 0xb10, run 0xb13 0xb28, run 0xb2a 0xb30, run 0xb32 0xb33,
  run 0xb35 0xb39, one 0xb3d, run 0xb5c 0xb5d, run 0xb5f 0xb61, one 0xb71, one 0xb83,
  run 0xb85 0xb8a, run 0xb8e 0xb90, run 0xb92 0xb95, run 0xb99 0xb9a, one 0xb9c, run 0xb9e 0xb9f,
  run 0xba3 0xba4, run 0xba8 0xbaa, run 0xbae 0xbb9, one 0xbd0, run 0xc05 0xc0c, run 0xc0e 0xc10,
  run 0xc12 0xc28, run 0xc2a 0xc39, one 0xc3d, run 0xc58 0xc5a, one 0xc5d, run 0xc60 0xc61,
  one 0xc80, run 0xc85 0xc8c, run 0xc8e 0xc90, run 0xc92 0xca8, run 0xcaa 0xcb3, run 0xcb5 0xcb9,
  one 0xcbd, run 0xcdd 0xcde, run 0xce0 0xce1, run 0xcf1 0xcf2, run 0xd04 0xd0c, run 0xd0e 0xd10,
  run 0xd12 0xd3a, one 0xd3d, one 0xd4e, run 0xd54 0xd56, run 0xd5f 0xd61, run 0xd7a 0xd7f,
  run 0xd85 0xd96, run 0xd9a 0xdb1, run 0xdb3 0xdbb, one 0xdbd, run 0xdc0 0xdc6, run 0xe01 0xe30,
  run 0xe32 0xe33, run 0xe40 0xe46, run 0xe81 0xe82, one 0xe84, run 0xe86 0xe8a, run 0xe8c 0xea3,
  one 0xea5, run 0xea7 0xeb0, run 0xeb2 0xeb3, one 0xebd, run 0xec0 0xec4, one 0xec6,
  run 0xedc 0xedf, one 0xf00, run 0xf40 0xf47, run 0xf49 0xf6c, run 0xf88 0xf8c, run 0x1000 0x102a,
  one 0x103f, run 0x1050 0x1055, run 0x105a 0x105d, one 0x1061, run 0x1065 0x1066,
  run 0x106e 0x1070, run 0x1075 0x1081, one 0x108e, run 0x10a0 0x10c5, one 0x10c7, one 0x10cd,
  run 0x10d0 0x10fa, run 0x10fc 0x1248, run 0x124a 0x124d, run 0x1250 0x1256, one 0x1258,
  run 0x125a 0x125d, run 0x1260 0x1288, run 0x128a 0x128d, run 0x1290 0x12b0, run 0x12b2 0x12b5,
  run 0x12b8 0x12be, one 0x12c0, run 0x12c2 0x12c5, run 0x12c8 0x12d6, run 0x12d8 0x1310,
  run 0x1312 0x1315, run 0x1318 0x135a, run 0x1380 0x138f, run 0x13a0 0x13f5, run 0x13f8 0x13fd,
  run 0x1401 0x166c, run 0x166f 0x167f, run 0x1681 0x169a, run 0x16a0 0x16ea, run 0x16f1 0x16f8,
  run 0x1700 0x1711, run 0x171f 0x1731, run 0x1740 0x1751, run 0x1760 0x176c, run 0x176e 0x1770,
  run 0x1780 0x17b3, one 0x17d7, one 0x17dc, run 0x1820 0x1878, run 0x1880 0x1884,
  run 0x1887 0x18a8, one 0x18aa, run 0x18b0 0x18f5, run 0x1900 0x191e, run 0x1950 0x196d,
  run 0x1970 0x1974, run 0x1980 0x19ab, run 0x19b0 0x19c9, run 0x1a00 0x1a16, run 0x1a20 0x1a54,
  one 0x1aa7, run 0x1b05 0x1b33, run 0x1b45 0x1b4c, run 0x1b83 0x1ba0, run 0x1bae 0x1baf,
  run 0x1bba 0x1be5, run 0x1c00 0x1c23, run 0x1c4d 0x1c4f, run 0x1c5a 0x1c7d, run 0x1c80 0x1c8a,
  run 0x1c90 0x1cba, run 0x1cbd 0x1cbf, run 0x1ce9 0x1cec, run 0x1cee 0x1cf3, run 0x1cf5 0x1cf6,
  one 0x1cfa, run 0x1d00 0x1dbf, run 0x1e00 0x1f15, run 0x1f18 0x1f1d, run 0x1f20 0x1f45,
  run 0x1f48 0x1f4d, run 0x1f50 0x1f57, alt 0x1f59 0x1f5f, run 0x1f60 0x1f7d, run 0x1f80 0x1fb4,
  run 0x1fb6 0x1fbc, one 0x1fbe, run 0x1fc2 0x1fc4, run 0x1fc6 0x1fcc, run 0x1fd0 0x1fd3,
  run 0x1fd6 0x1fdb, run 0x1fe0 0x1fec, run 0x1ff2 0x1ff4, run 0x1ff6 0x1ffc, one 0x2071,
  one 0x207f, run 0x2090 0x209c, one 0x2102, one 0x2107, run 0x210a 0x2113, one 0x2115,
  run 0x2119 0x211d, alt 0x2124 0x212a, run 0x212b 0x212d, run 0x212f 0x2139, run 0x213c 0x213f,
  run 0x2145 0x2149, one 0x214e, run 0x2183 0x2184, run 0x2c00 0x2ce4, run 0x2ceb 0x2cee,
  run 0x2cf2 0x2cf3, run 0x2d00 0x2d25, one 0x2d27, one 0x2d2d, run 0x2d30 0x2d67, one 0x2d6f,
  run 0x2d80 0x2d96, run 0x2da0 0x2da6, run 0x2da8 0x2dae, run 0x2db0 0x2db6, run 0x2db8 0x2dbe,
  run 0x2dc0 0x2dc6, run 0x2dc8 0x2dce, run 0x2dd0 0x2dd6, run 0x2dd8 0x2dde, one 0x2e2f,
  run 0x3005 0x3006, run 0x3031 0x3035, run 0x303b 0x303c, run 0x3041 0x3096, run 0x309d 0x309f,
  run 0x30a1 0x30fa, run 0x30fc 0x30ff, run 0x3105 0x312f, run 0x3131 0x318e, run 0x31a0 0x31bf,
  run 0x31f0 0x31ff, run 0x3400 0x4dbf, run 0x4e00 0xa48c, run 0xa4d0 0xa4fd, run 0xa500 0xa60c,
  run 0xa610 0xa61f, run 0xa62a 0xa62b, run 0xa640 0xa66e, run 0xa67f 0xa69d, run 0xa6a0 0xa6e5,
  run 0xa717 0xa71f, run 0xa722 0xa788, run 0xa78b 0xa7cd, run 0xa7d0 0xa7d1, one 0xa7d3,
  run 0xa7d5 0xa7dc, run 0xa7f2 0xa801, run 0xa803 0xa805, run 0xa807 0xa80a, run 0xa80c 0xa822,
  run 0xa840 0xa873, run 0xa882 0xa8b3, run 0xa8f2 0xa8f7, one 0xa8fb, run 0xa8fd 0xa8fe,
  run 0xa90a 0xa925, run 0xa930 0xa946, run 0xa960 0xa97c, run 0xa984 0xa9b2, one 0xa9cf,
  run 0xa9e0 0xa9e4, run 0xa9e6 0xa9ef, run 0xa9fa 0xa9fe, run 0xaa00 0xaa28, run 0xaa40 0xaa42,
  run 0xaa44 0xaa4b, run 0xaa60 0xaa76, one 0xaa7a, run 0xaa7e 0xaaaf, one 0xaab1,
  run 0xaab5 0xaab6, run 0xaab9 0xaabd, one 0xaac0, one 0xaac2, run 0xaadb 0xaadd,
  run 0xaae0 0xaaea, run 0xaaf2 0xaaf4, run 0xab01 0xab06, run 0xab09 0xab0e, run 0xab11 0xab16,
  run 0xab20 0xab26, run 0xab28 0xab2e, run 0xab30 0xab5a, run 0xab5c 0xab69, run 0xab70 0xabe2,
  run 0xac00 0xd7a3, run 0xd7b0 0xd7c6, run 0xd7cb 0xd7fb, run 0xf900 0xfa6d, run 0xfa70 0xfad9,
  run 0xfb00 0xfb06, run 0xfb13 0xfb17, one 0xfb1d, run 0xfb1f 0xfb28, run 0xfb2a 0xfb36,
  run 0xfb38 0xfb3c, one 0xfb3e, run 0xfb40 0xfb41, run 0xfb43 0xfb44, run 0xfb46 0xfbb1,
  run 0xfbd3 0xfd3d, run 0xfd50 0xfd8f, run 0xfd92 0xfdc7, run 0xfdf0 0xfdfb, run 0xfe70 0xfe74,
  run 0xfe76 0xfefc, run 0xff21 0xff3a, run 0xff41 0xff5a, run 0xff66 0xffbe, run 0xffc2 0xffc7,
  run 0xffca 0xffcf, run 0xffd2 0xffd7, run 0xffda 0xffdc, run 0x10000 0x1000b,
  run 0x1000d 0x10026, run 0x10028 0x1003a, run 0x1003c 0x1003d, run 0x1003f 0x1004d,
  run 0x10050 0x1005d, run 0x10080 0x100fa, run 0x10280 0x1029c, run 0x102a0 0x102d0,
  run 0x10300 0x1031f, run 0x1032d 0x10340, run 0x10342 0x10349, run 0x10350 0x10375,
  run 0x10380 0x1039d, run 0x103a0 0x103c3, run 0x103c8 0x103cf, run 0x10400 0x1049d,
  run 0x104b0 0x104d3, run 0x104d8 0x104fb, run 0x10500 0x10527, run 0x10530 0x10563,
  run 0x10570 0x1057a, run 0x1057c 0x1058a, run 0x1058c 0x10592, run 0x10594 0x10595,
  run 0x10597 0x105a1, run 0x105a3 0x105b1, run 0x105b3 0x105b9, run 0x105bb 0x105bc,
  run 0x105c0 0x105f3, run 0x10600 0x10736, run 0x10740 0x10755, run 0x10760 0x10767,
  run 0x10780 0x10785, run 0x10787 0x107b0, run 0x107b2 0x107ba, run 0x10800 0x10805, one 0x10808,
  run 0x1080a 0x10835, run 0x10837 0x10838, one 0x1083c, run 0x1083f 0x10855, run 0x10860 0x10876,
  run 0x10880 0x1089e, run 0x108e0 0x108f2, run 0x108f4 0x108f5, run 0x10900 0x10915,
  run 0x10920 0x10939, run 0x10980 0x109b7, run 0x109be 0x109bf, one 0x10a00, run 0x10a10 0x10a13,
  run 0x10a15 0x10a17, run 0x10a19 0x10a35, run 0x10a60 0x10a7c, run 0x10a80 0x10a9c,
  run 0x10ac0 0x10ac7, run 0x10ac9 0x10ae4, run 0x10b00 0x10b35, run 0x10b40 0x10b55,
  run 0x10b60 0x10b72, run 0x10b80 0x10b91, run 0x10c00 0x10c48, run 0x10c80 0x10cb2,
  run 0x10cc0 0x10cf2, run 0x10d00 0x10d23, run 0x10d4a 0x10d65, run 0x10d6f 0x10d85,
  run 0x10e80 0x10ea9, run 0x10eb0 0x10eb1, run 0x10ec2 0x10ec4, run 0x10f00 0x10f1c, one 0x10f27,
  run 0x10f30 0x10f45, run 0x10f70 0x10f81, run 0x10fb0 0x10fc4, run 0x10fe0 0x10ff6,
  run 0x11003 0x11037, run 0x11071 0x11072, one 0x11075, run 0x11083 0x110af, run 0x110d0 0x110e8,
  run 0x11103 0x11126, one 0x11144, one 0x11147, run 0x11150 0x11172, one 0x11176,
  run 0x11183 0x111b2, run 0x111c1 0x111c4, one 0x111da, one 0x111dc, run 0x11200 0x11211,
  run 0x11213 0x1122b, run 0x1123f 0x11240, run 0x11280 0x11286, one 0x11288, run 0x1128a 0x1128d,
  run 0x1128f 0x1129d, run 0x1129f 0x112a8, run 0x112b0 0x112de, run 0x11305 0x1130c,
  run 0x1130f 0x11310, run 0x11313 0x11328, run 0x1132a 0x11330, run 0x11332 0x11333,
  run 0x11335 0x11339, one 0x1133d, one 0x11350, run 0x1135d 0x11361, run 0x11380 0x11389,
  one 0x1138b, one 0x1138e, run 0x11390 0x113b5, one 0x113b7, one 0x113d1, one 0x113d3,
  run 0x11400 0x11434, run 0x11447 0x1144a, run 0x1145f 0x11461, run 0x11480 0x114af,
  run 0x114c4 0x114c5, one 0x114c7, run 0x11580 0x115ae, run 0x115d8 0x115db, run 0x11600 0x1162f,
  one 0x11644, run 0x11680 0x116aa, one 0x116b8, run 0x11700 0x1171a, run 0x11740 0x11746,
  run 0x11800 0x1182b, run 0x118a0 0x118df, run 0x118ff 0x11906, one 0x11909, run 0x1190c 0x11913,
  run 0x11915 0x11916, run 0x11918 0x1192f, one 0x1193f, one 0x11941, run 0x119a0 0x119a7,
  run 0x119aa 0x119d0, one 0x119e1, one 0x119e3, one 0x11a00, run 0x11a0b 0x11a32, one 0x11a3a,
  one 0x11a50, run 0x11a5c 0x11a89, one 0x11a9d, run 0x11ab0 0x11af8, run 0x11bc0 0x11be0,
  run 0x11c00 0x11c08, run 0x11c0a 0x11c2e, one 0x11c40, run 0x11c72 0x11c8f, run 0x11d00 0x11d06,
  run 0x11d08 0x11d09, run 0x11d0b 0x11d30, one 0x11d46, run 0x11d60 0x11d65, run 0x11d67 0x11d68,
  run 0x11d6a 0x11d89, one 0x11d98, run 0x11ee0 0x11ef2, one 0x11f02, run 0x11f04 0x11f10,
  run 0x11f12 0x11f33, one 0x11fb0, run 0x12000 0x12399, run 0x12480 0x12543, run 0x12f90 0x12ff0,
  run 0x13000 0x1342f, run 0x13441 0x13446, run 0x13460 0x143fa, run 0x14400 0x14646,
  run 0x16100 0x1611d, run 0x16800 0x16a38, run 0x16a40 0x16a5e, run 0x16a70 0x16abe,
  run 0x16ad0 0x16aed, run 0x16b00 0x16b2f, run 0x16b40 0x16b43, run 0x16b63 0x16b77,
  run 0x16b7d 0x16b8f, run 0x16d40 0x16d6c, run 0x16e40 0x16e7f, run 0x16f00 0x16f4a, one 0x16f50,
  run 0x16f93 0x16f9f, run 0x16fe0 0x16fe1, one 0x16fe3, run 0x17000 0x187f7, run 0x18800 0x18cd5,
  run 0x18cff 0x18d08, run 0x1aff0 0x1aff3, run 0x1aff5 0x1affb, run 0x1affd 0x1affe,
  run 0x1b000 0x1b122, one 0x1b132, run 0x1b150 0x1b152, one 0x1b155, run 0x1b164 0x1b167,
  run 0x1b170 0x1b2fb, run 0x1bc00 0x1bc6a, run 0x1bc70 0x1bc7c, run 0x1bc80 0x1bc88,
  run 0x1bc90 0x1bc99, run 0x1d400 0x1d454, run 0x1d456 0x1d49c, run 0x1d49e 0x1d49f, one 0x1d4a2,
  run 0x1d4a5 0x1d4a6, run 0x1d4a9 0x1d4ac, run 0x1d4ae 0x1d4b9, one 0x1d4bb, run 0x1d4bd 0x1d4c3,
  run 0x1d4c5 0x1d505, run 0x1d507 0x1d50a, run 0x1d50d 0x1d514, run 0x1d516 0x1d51c,
  run 0x1d51e 0x1d539, run 0x1d53b 0x1d53e, run 0x1d540 0x1d544, one 0x1d546, run 0x1d54a 0x1d550,
  run 0x1d552 0x1d6a5, run 0x1d6a8 0x1d6c0, run 0x1d6c2 0x1d6da, run 0x1d6dc 0x1d6fa,
  run 0x1d6fc 0x1d714, run 0x1d716 0x1d734, run 0x1d736 0x1d74e, run 0x1d750 0x1d76e,
  run 0x1d770 0x1d788, run 0x1d78a 0x1d7a8, run 0x1d7aa 0x1d7c2, run 0x1d7c4 0x1d7cb,
  run 0x1df00 0x1df1e, run 0x1df25 0x1df2a, run 0x1e030 0x1e06d, run 0x1e100 0x1e12c,
  run 0x1e137 0x1e13d, one 0x1e14e, run 0x1e290 0x1e2ad, run 0x1e2c0 0x1e2eb, run 0x1e4d0 0x1e4eb,
  run 0x1e5d0 0x1e5ed, one 0x1e5f0, run 0x1e7e0 0x1e7e6, run 0x1e7e8 0x1e7eb, run 0x1e7ed 0x1e7ee,
  run 0x1e7f0 0x1e7fe, run 0x1e800 0x1e8c4, run 0x1e900 0x1e943, one 0x1e94b, run 0x1ee00 0x1ee03,
  run 0x1ee05 0x1ee1f, run 0x1ee21 0x1ee22, one 0x1ee24, one 0x1ee27, run 0x1ee29 0x1ee32,
  run 0x1ee34 0x1ee37, one 0x1ee39, one 0x1ee3b, one 0x1ee42, alt 0x1ee47 0x1ee4d,
  run 0x1ee4e 0x1ee4f, run 0x1ee51 0x1ee52, one 0x1ee54, alt 0x1ee57 0x1ee61, one 0x1ee62,
  one 0x1ee64, run 0x1ee67 0x1ee6a, run 0x1ee6c 0x1ee72, run 0x1ee74 0x1ee77, run 0x1ee79 0x1ee7c,
  one 0x1ee7e, run 0x1ee80 0x1ee89, run 0x1ee8b 0x1ee9b, run 0x1eea1 0x1eea3, run 0x1eea5 0x1eea9,
  run 0x1eeab 0x1eebb, run 0x20000 0x2a6df, run 0x2a700 0x2b739, run 0x2b740 0x2b81d,
  run 0x2b820 0x2cea1, run 0x2ceb0 0x2ebe0, run 0x2ebf0 0x2ee5d, run 0x2f800 0x2fa1d,
  run 0x30000 0x3134a, run 0x31350 0x323af]

/-- Combining marks are not letters. -/
def isLetter (c : Char) : Bool :=
  anyHas letters c.toNat

end Text
end GrammarText
