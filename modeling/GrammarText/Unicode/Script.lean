/-
The scripts of Unicode 16.
-/
import GrammarText.Text.CharSet

namespace GrammarText
namespace Unicode

open Text (CharSet)

structure Script where
  names : String
  /-- The characters of this script. -/
  own : CharSet
  /-- The characters that are written in this script, if they are not just its own. -/
  written? : Option CharSet
  deriving Repr

namespace Script

/-- The characters that are written in a script. -/
def written (s : Script) : CharSet :=
  s.written?.getD s.own

def all : List Script := [
  ⟨"adlm adlam", .packed "2olc-23 4-9 4-1", some (.packed "17j w 55a 2r5 2fge-23 4-9 4-1")⟩,
  ⟨"ahom", .packed "1j40-q 2-e 4-m", none⟩,
  ⟨"hluw anatolianhieroglyphs", .packed "1s00-g6", none⟩,
  ⟨"arab arabic",
    .packed (
      "16o-4 1-5 1-d 1-2 1-v 1-9 b-p 1-2z 1-x 28-1b 6o-u 1-1 5-22 1-s 1bv4-36 g-a2 2-27 2-1h 7 "
      ++ "w-f 34-4 1-3q 31f-u 1v-2 1j-3 181s-3 1-q 1-1 1 2 1-9 1-3 1 1 6 4/2 1-2 1-1 1 2/4 1-1 "
      ++ "1 2-3 1-6 1-3 1-3 1 1-9 1-g 5-2 1-4 1-g 1g-1"),
    some (.packed (
      "16o-4 1-5y 1-x 28-1b 6o-u 1-1 5-22 1-s 4lr 2r5 14i6-36 g-cc 2-1h 7 w-f 34-4 1-3q rn-r "
      ++ "290-u 1v-2 1j-3 181s-3 1-q 1-1 1 2 1-9 1-3 1 1 6 4/2 1-2 1-1 1 2/4 1-1 1 2-3 1-6 1-3 "
      ++ "1-3 1 1-9 1-g 5-2 1-4 1-g 1g-1"))⟩,
  ⟨"armn armenian", .packed "10x-11 2-1d 2-2 1chv-4", some (.packed "lk fc-11 2-1d 2-2 1chv-4")⟩,
  ⟨"avst avestan", .packed "1gqo-1h 3-6", some (.packed "53 8zc-1 17m6-1h 3-6")⟩,
  ⟨"bali balinese", .packed "5c0-24 1-1d", none⟩,
  ⟨"bamu bamum", .packed "www-2f 124o-fs", none⟩,
  ⟨"bass bassavah", .packed "1zo0-t 2-5", none⟩,
  ⟨"batk batak", .packed "5hc-1f 8-3", none⟩,
  ⟨"beng bengali",
    .packed "1vk-3 1-7 2-1 2-l 1-6 1 3-3 2-8 2-1 2-3 8 4-1 1-4 2-o",
    some (.packed (
      "jg 1as-1 h-1 q-3 1-7 2-1 2-l 1-6 1 3-3 2-8 2-1 2-3 8 4-1 1-4 2-o 3pt 1 2-1 1 8 8 2 4 "
      ++ "2-2 rnd"))⟩,
  ⟨"bhks bhaiksuki", .packed "1k3k-8 1-18 1-d a-s", none⟩,
  ⟨"bopo bopomofo",
    .packed "kq-1 93t-16 34-v",
    some (.packed "jr 1-2 d g-1 8wl-2 4-9 1-c a-3 2 6 5f 9-16 34-v 14ed-1 7u-4")⟩,
  ⟨"brah brahmi", .packed "1hq8-25 4-z 9", none⟩,
  ⟨"brai braille", .packed "7wg-73", none⟩,
  ⟨"bugi buginese", .packed "54w-r 2-1", some (.packed "54w-r 2-1 sdr")⟩,
  ⟨"buhd buhid", .packed "4lc-j", some (.packed "4l1-1 9-j")⟩,
  ⟨"cans canadianaboriginal", .packed "3y8-hr fk-1x 1ewq-f", none⟩,
  ⟨"cari carian", .packed "1f34-1c", some (.packed "53 68y 2 2qb 15ym-1c")⟩,
  ⟨"aghb caucasianalbanian", .packed "1flc-1f b", some (.packed "lg 18 18 1exd-1f b")⟩,
  ⟨"cakm chakma", .packed "1hxc-1g 1-h", some (.packed "1ye-9 18w-9 1epi-1g 1-h")⟩,
  ⟨"cham", .packed "xkw-1i 9-d 2-9 2-3", none⟩,
  ⟨"cher cherokee",
    .packed "3vk-2d 2-5 twy-27",
    some (.packed "lc-2 1 6-1 m-1 b-1 38u-2d 2-5 twy-27")⟩,
  ⟨"chrs chorasmian", .packed "1ho0-r", none⟩,
  ⟨"zyyy common",
    .packed (
      "0-1s q-5 q-1a 1-e 1-4 n v ch-12 5-4 2-j 38 9 6 1 hp 6 e 3 w 4c ec 3l-1 yh b9-3 82 167-2 "
      ++ "1z-1 5n-1 1 y5 d 7-3 1-5 1-2 2 lh-b 2-2e 1-a 3-a 1-e h-w 1r-11 1-2 2-5 1-q 1-g 15-2 "
      ++ "4-ih m-a l-pr 74-hf 2-v 1-2w e8-2l b6-k 1 1-o f-7 4-3 2j-1 3 2i-1 43-f w-11 9 1c-1r "
      ++ "v-28 1b 2g-4n 534-1r hkw-x 2u-2 4l-9 6s 4g az e-1 g5u-1 5s-9 m-y 1-i 1-3 43 1-v q-5 "
      ++ "q-a a 19-1 1s-6 1-6 a-4 76-2 4-18 3-8 28-c 1f-18 6c-q 10o4-3 318-6x 6-c3 4c-37 1o-6t "
      ++ "a-12 2-1p 3-g 8-1 7-t 4-1o 5x-j c-j c-2e 9-o 3r-2c 1-1y 1-1 2 2-1 2-3 1-b 1 1-6 1-1s "
      ++ "1-3 2-7 1-6 1-r 1-3 1-4 1 3-6 1-9f 2-83 2-1d 41d-1v 24-1o jm-17 4-2r c-e 2-e 1-e "
      ++ "1-10 a-4t 1k-p 1-1 d-17 4-8 7-1 e-5 4a-rb 4-g 3-c 3-3a 4-2m 6-b 4 f-b 4-1j 8-9 6-13 "
      ++ "8-t 2-b 4-1 1q-9f c-d 2-c 3-9 5-1j 7-e 2-a 6-8 7-42 1-2t gvlz u-2n"),
    some (.packed (
      "0-1s q-5 q-1a 1-b 1-1 1-4 n v ch-2 1-9 1 3 1-8 1 1-5 5-4 2-j 3i 6 1 hp 5z ec 124 b9-3 "
      ++ "36v-b 2-w 1-u 1-9 1-1 1-6 1-a 3-a 1-e h-w 1r-11 1-2 2-5 1-q 1-g 15-2 4-ih m-a l-pr "
      ++ "74-hf 2-v 1-2w e8-m 1-n 2-9 1-3 1 1-p bm 3 d d l ep-n v 1d-e c-3 4h-9 5-2n v 534-1r "
      ++ "hl4-p 2u-2 r4 e-1 gbo-9 m-k 2-b 1-i 1-3 43 1-v q-5 q-5 3j-6 1-6 a-4 b6-c 1f-18 "
      ++ "13wj-6x 6-c3 4c-37 1o-6t a-12 2-1p 3-g 8-1 7-t 4-1o 5x-j c-j c-2e r-6 3r-2c 1-1y 1-1 "
      ++ "2 2-1 2-3 1-b 1 1-6 1-1s 1-3 2-7 1-6 1-r 1-3 1-4 1 3-6 1-9f 2-83 2-1d 41d-1v 24-1o "
      ++ "jm-17 4-2r c-e 2-e 1-e 1-10 a-4t 1k-p 1-1 d-17 4-8 n-5 4a-rb 4-g 3-c 3-3a 4-2m 6-b 4 "
      ++ "f-b 4-1j 8-9 6-13 8-t 2-b 4-1 1q-9f c-d 2-c 3-9 5-1j 7-e 2-a 6-8 7-42 1-2t gvlz u-2n"))⟩,
  ⟨"copt qaac coptic",
    .packed "rm-d 80g-37 5-6",
    some (.packed "53 g8 3-1 1 30-1 30-d 80g-37 5-6 7r 1614-r")⟩,
  ⟨"xsux cuneiform", .packed "1kw0-pl 2u-32 1-4 b-5f", none⟩,
  ⟨"cprt cypriot",
    .packed "1g5c-5 2 1-17 1-1 3 2",
    some (.packed "1erk-2 4-18 3-8 1c0-5 2 1-17 1-1 3 2")⟩,
  ⟨"cpmn cyprominoan", .packed "1nyo-2q", some (.packed "1erk-1 972-2q")⟩,
  ⟨"cyrl cyrillic",
    .packed "sg-3o 2-4o 4ls-a 4g 24 38n-v nr4-2n ham-1 18n4-1p x",
    some (.packed "jg 1v-2 1/2 2 5 6m-8f 4ls-a 4g 24 3j 353-v 1v np8-2n ham-1 18n4-1p x")⟩,
  ⟨"dsrt deseret", .packed "1fcw-27", none⟩,
  ⟨"deva devanagari",
    .packed "1s0-28 4-e 2-p vhc-v mio-9",
    some (.packed "jg 18j-2a 2-16 3tc-12 1-1 s6 qpr-9 4m-v mio-9")⟩,
  ⟨"diak divesakuru", .packed "1ji8-6 2 2-7 1-1 1-t 1-1 2-b 9-9", none⟩,
  ⟨"dogr dogra", .packed "1jb4-1n", some (.packed "1us-b vcw-9 m2u-1n")⟩,
  ⟨"dupl duployan",
    .packed "2fpc-2y 5-c 3-8 7-9 2-3",
    some (.packed "53 gf-1 1 o-1 8if 26kj-2y 5-c 3-8 7-9 2-7")⟩,
  ⟨"egyp egyptianhieroglyphs", .packed "1o1s-ut a-32y", none⟩,
  ⟨"elba elbasan", .packed "1fk0-13", some (.packed "53 gd 1eyi-13")⟩,
  ⟨"elym elymaic", .packed "1hpc-m", none⟩,
  ⟨"ethi ethiopic",
    .packed (
      "3k0-20 1-3 2-6 1 1-3 2-14 1-3 2-w 1-3 2-6 1 1-3 2-e 1-1k 1-3 2-1u 2-v 3-p 546-m 9-6 1-6 "
      ++ "1-6 1-6 1-6 1-6 1-6 1-6 opu-5 2-5 2-5 9-6 1-6 1qk1-6 1-3 1-1 1-e"),
    some (.packed (
      "lq 2y9-20 1-3 2-6 1 1-3 2-14 1-3 2-w 1-3 2-6 1 1-3 2-e 1-1k 1-3 2-1u 2-v 3-p 546-m 9-6 "
      ++ "1-6 1-6 1-6 1-6 1-6 1-6 1-6 opu-5 2-5 2-5 9-6 1-6 1qk1-6 1-3 1-1 1-e"))⟩,
  ⟨"gara garay", .packed "1h6o-11 3-s 8-1", some (.packed "170 e 3 1fz4-11 3-s 8-1")⟩,
  ⟨"geor georgian",
    .packed "3a8-11 1 5 2-16 1-3 2a8-16 2-2 37k-11 1 5",
    some (.packed "53 y9 26u-11 1 5 2-1b 2a8-16 2-2 pm 2hx-11 1 5 77")⟩,
  ⟨"glag glagolitic",
    .packed "8ow-2n 2e1s-6 1-g 2-6 1-1 1-4",
    some (.packed "53 gb 1 am 2 75 29d 31a 2at-2n df nqj 1pxs-6 1-g 2-6 1-1 1-4")⟩,
  ⟨"goth gothic", .packed "1f74-q", some (.packed "53 gc-1 2 14 1eke-q")⟩,
  ⟨"gran grantha",
    .packed "1ibk-3 1-7 2-1 2-l 1-6 1-1 1-4 2-8 2-1 2-2 2 6 5-6 2-6 3-4",
    some (.packed (
      "1u9-1 h-1 hs-d 3bw 1-1 u-2 3-1 s6 1btb-3 1-7 2-1 2-l 1-6 1-1 1-4 1-9 2-1 2-2 2 6 5-6 "
      ++ "2-6 3-4 2fv-1 1"))⟩,
  ⟨"grek greek",
    .packed (
      "og-3 1-2 2-3 1 4 1 1-2 1 1-j 1-1q e-f 4yu-4 1e-4 4-4 2c 8w-l 2-5 2-11 2-5 2-7 1/2 1-u "
      ++ "2-1g 1-e 1-d 2-5 1-i 2-2 1-8 87 rb2 gyi-26 h 155r-1x"),
    some (.packed (
      "53 g8-1 2/2 a 1a 2 16-7 2-3 1 4 1 1-2 1 1-j 1-1q e-f 4yu-4 1e-4 4-4 2c-2 8u-l 2-5 2-11 "
      ++ "2-5 2-7 1/2 1-u 2-1g 1-e 1-d 2-5 1-i 2-2 1-8 2m 5k rb2 gyi-26 h 155r-1x"))⟩,
  ⟨"gujr gujarati",
    .packed "22p-2 1-8 1-2 1-l 1-6 1-1 1-4 2-9 1-2 1-2 2 f-3 2-b 7-6",
    some (.packed "1u9-1 h-1 7v-2 1-8 1-2 1-l 1-6 1-1 1-4 2-9 1-2 1-2 2 f-3 2-b 7-6 v1s-9")⟩,
  ⟨"gong gunjalagondi",
    .packed "1kdc-5 1-1 1-10 1-1 1-5 7-9",
    some (.packed "53 1po-1 1iii-5 1-1 1-10 1-1 1-5 7-9")⟩,
  ⟨"guru gurmukhi",
    .packed "1z5-2 1-5 4-1 2-l 1-6 1-1 1-1 1-1 2 1-4 4-1 2-2 3 7-3 1 7-g",
    some (.packed "1u9-1 h-1 4b-2 1-5 4-1 2-l 1-6 1-1 1-1 1-1 2 1-4 4-1 2-2 3 7-3 1 7-g v5l-9")⟩,
  ⟨"gukh gurungkhema", .packed "1xq8-1l", some (.packed "1ut 1vve-1l")⟩,
  ⟨"hani han",
    .packed (
      "96o-p 1-2g c-5x 1b 1 p-8 e-3 qs-533 1s-g73 hkw-a5 2-2x n48-1 c-1 sge-wyn w-37d 6-65 "
      ++ "2-4g1 e-5rk f-h9 1wi-f1 15u-3t6 5-38f"),
    some (.packed (
      "53 91k-p 1-2g c-5x q-f 1-2 1-c 1-c 1-c 2 6-8 57 44-f w-11 9 1c-13 1k-1c f-b 1f 2g-o a-4 "
      ++ "2o-u 1-533 1s-g73 1ds-7 g6w-a5 2-2x ob-1 7u-4 m7w-1 c-1 jn2-h 63i-1 2pa-wyn w-37d "
      ++ "6-65 2-4g1 e-5rk f-h9 1wi-f1 15u-3t6 5-38f"))⟩,
  ⟨"hang hangul",
    .packed "3cw-73 5ym-1 75-2l 35-u 1t-u nhd-s hv-8mb c-m 4-1c 7tw-u 3-5 2-5 2-5 2-2",
    some (.packed (
      "3cw-73 5xd-2 4-9 1-c e-2 6 5f 1h-2l 35-u 1t-u nhd-s hv-8mb c-m 4-1c 7k9-1 7u-4 1m-u 3-5 "
      ++ "2-5 2-5 2-2"))⟩,
  ⟨"rohg hanifirohingya", .packed "1h4w-13 8-9", some (.packed "170 e 3 w 43 1fsb-13 8-9")⟩,
  ⟨"hano hanunoo", .packed "4kg-k", some (.packed "4kg-m")⟩,
  ⟨"hatr hatran", .packed "1gbk-i 1-1 5-4", none⟩,
  ⟨"hebr hebrew",
    .packed "13l-1i 8-q 4-5 1cfc-p 1-4 1 1-1 1-1 1-9",
    some (.packed "lj-1 i0-1i 8-q 4-5 1cfc-p 1-4 1 1-1 1-1 1-9")⟩,
  ⟨"hira hiragana",
    .packed "9j5-2d 6-2 23q9-7y i t-2 crx",
    some (.packed "9hd-2 4-9 1-c g-5 1 4-1 3-2d 2-7 2i-1 14js-1 7u-4 a 19-1 yu9-7y i t-2 crx")⟩,
  ⟨"armi imperialaramaic", .packed "1g74-l 1-8", none⟩,
  ⟨"qaai zinh inherited",
    .packed (
      "lc-33 7p-1 ck-a q kg-3 3ff-u e9-2 1-c 1-6 4 6 3-1 5i-1r ek-1 5e-w 309-3 2z-1 14kl-f g-d "
      ++ "r3 6a 38a 1138-19 2-m f4-2 h-7 2-6 u-3 h45u-6n"),
    some (.packed (
      "lr 2 1-b 1-1 3-6 2 2-f 1-1 1-h 1-4 1-3 168-1 3ff-u kz-1h 1 1-4 ek-1 5e-v 17o0-f g-d r3 "
      ++ "14hu-19 2-m f4-2 h-7 2-6 u-3 h45u-6n"))⟩,
  ⟨"phli inscriptionalpahlavi", .packed "1gtc-i 5-7", none⟩,
  ⟨"prti inscriptionalparthian", .packed "1gsg-l 2-7", none⟩,
  ⟨"java javanese", .packed "xhc-25 2-9 4-1", some (.packed "xhc-25 1-a 4-1")⟩,
  ⟨"kthi kaithi", .packed "1hts-1u a", some (.packed "1uu-9 79d o3i-9 kli-1u a")⟩,
  ⟨"knda kannada",
    .packed "2gw-c 1-2 1-m 1-9 1-4 2-8 1-2 1-3 7-1 6-1 1-3 2-9 1-2",
    some (.packed (
      "1u9-1 h-1 m2-c 1-2 1-m 1-9 1-4 2-8 1-2 1-3 7-1 6-1 1-3 2-9 1-2 34s 1-1 6 n 1 ri3-5"))⟩,
  ⟨"kana katakana",
    .packed "9lt-2h 2-2 6o-f 5s-1a 1-2f 14b2-9 1-18 ytu-3 1-6 1-1 1 7z-2 1e e-3",
    some (.packed (
      "lh t 8v1-2 4-9 1-c g-5 1 4-1 2j-3 3-2n 6o-f 5s-1a 1-2f 1431-1 7u-1q yts-3 1-6 1-1 1 "
      ++ "7z-2 1e e-3"))⟩,
  ⟨"kawi", .packed "1kow-g 1-14 3-s", none⟩,
  ⟨"kali kayahli", .packed "xds-19 1", some (.packed "xds-1b")⟩,
  ⟨"khar kharoshthi", .packed "1gjk-3 1-1 5-7 1-2 1-s 2-2 4-9 7-8", none⟩,
  ⟨"kits khitansmallscript", .packed "20o4 5cr-d1 15", none⟩,
  ⟨"khmr khmer", .packed "4n4-2l 2-9 6-9 di-v", none⟩,
  ⟨"khoj khojki", .packed "1i4g-h 1-1a", some (.packed "25i-9 v28-9 kw6-h 1-1a")⟩,
  ⟨"sind khudawadi", .packed "1i9c-1m 5-9", some (.packed "1us-1 vd6-9 l12-1m 5-9")⟩,
  ⟨"krai kiratrai", .packed "205c-1l", none⟩,
  ⟨"laoo lao", .packed "2v5-1 1 1-4 1-n 1 1-m 2-4 1 1-6 1-9 2-3", none⟩,
  ⟨"latn latin",
    .packed (
      "1t-p 6-p 1b f 5-m 1-u 1-cg 13-4 55n-11 6-1c 5-3 5-c 1-1x 1t-73 a9 d g-c 3x-1 6 r h-14 "
      ++ "253-v o82-2t 3-1u 2-1 1 1-7 l-d mo-16 1-8 1-3 fpy-6 t6-p 6-p 1lx-5 1-15 1-8 16it-u "
      ++ "6-5"),
    some (.packed (
      "1t-p 6-p 1b c 2 5-m 1-u 1-cg 3 a 1-2 1 9 1 6-4 r-e 1-1 1 c 2-2 7-1 1-1 12 5 4-c 7p-1 "
      ++ "y2-1 1ig 2dg-11 6-1c 5-3 5-c 1-1x 1l 7-73 8f 1t d g-c 2b 1l-1 6 r h-14 253-v bb "
      ++ "nvs-7 q-2t 3-1u 2-1 1 1-7 l-d 8e e9-16 1-8 1-3 fpy-6 t6-p 6-p 1lx-5 1-15 1-8 16it-u "
      ++ "6-5"))⟩,
  ⟨"lepc lepcha", .packed "5j4-1j 3-e 3-2", none⟩,
  ⟨"limb limbu", .packed "4xs-u 1-b 4-b 4 3-b", some (.packed "1ut 32y-u 1-b 4-b 4 3-b")⟩,
  ⟨"lina lineara", .packed "1fr4-8m 9-l a-7", some (.packed "1err-18 y4-8m 9-l a-7")⟩,
  ⟨"linb linearb",
    .packed "1ekg-b 1-p 1-i 1-1 1-e 2-d y-3e",
    some (.packed "1ekg-b 1-p 1-i 1-1 1-e 2-d y-3e 5-2 4-18 3-8")⟩,
  ⟨"lisu", .packed "wk0-1b o8g", some (.packed "jg g 8xo-1 n2c-1b o8g")⟩,
  ⟨"lyci lycian", .packed "1f28-s", some (.packed "6e2 18o5-s")⟩,
  ⟨"lydi lydian", .packed "1gdc-p 5", some (.packed "53 8zd 178u-p 5")⟩,
  ⟨"mahj mahajani", .packed "1hzk-12", some (.packed "53 1po-b vcw-9 kra-12")⟩,
  ⟨"maka makasar", .packed "1ko0-o", none⟩,
  ⟨"mlym malayalam",
    .packed "2kg-c 1-2 1-1e 1-2 1-5 4-f 2-p",
    some (.packed "1u9-1 h-1 pm-c 1-2 1-1e 1-2 1-5 4-f 2-p 316 n ri5-2")⟩,
  ⟨"mand mandaic", .packed "1mo-r 2", some (.packed "18g e7-r 2")⟩,
  ⟨"mani manichaean", .packed "1gow-12 4-b", some (.packed "18g 1fgf-12 4-b")⟩,
  ⟨"marc marchen", .packed "1k6o-v 2-l 1-d", none⟩,
  ⟨"gonm masaramgondi",
    .packed "1kao-6 1-1 1-17 3 1-1 1-8 8-9",
    some (.packed "1us-1 1ifu-6 1-1 1-17 3 1-1 1-8 8-9")⟩,
  ⟨"medf medefaidrin", .packed "20cg-2i", none⟩,
  ⟨"mtei meeteimayek", .packed "xr4-m 5l-19 2-9", none⟩,
  ⟨"mend mendekikakui", .packed "2oe8-5g 2-f", none⟩,
  ⟨"merc meroiticcursive", .packed "1ggw-n 4-j 2-19", none⟩,
  ⟨"mero meroitichieroglyphs", .packed "1gg0-v", some (.packed "6e5 1a1u-v")⟩,
  ⟨"plrd miao", .packed "20hs-22 4-1k 7-g", none⟩,
  ⟨"modi", .packed "1iww-1w b-9", some (.packed "x80-9 lom-1w b-9")⟩,
  ⟨"mong mongolian",
    .packed "4qo-1 2 1-j 6-2g 7-16 1e45-c",
    some (.packed "4qo-p 6-2g 7-16 1hg 34h-1 5-3 19hw-c")⟩,
  ⟨"mroo mro", .packed "1zk0-u 1-9 4-1", none⟩,
  ⟨"mult multani", .packed "1i80-6 1 1-3 1-e 1-a", some (.packed "21y-9 1g5s-6 1 1-3 1-e 1-a")⟩,
  ⟨"mymr myanmar", .packed "35s-4f u9s-u 2p-v le8-j", some (.packed "35s-4f u4u 4x-u 2p-v le8-j")⟩,
  ⟨"nbat nabataean", .packed "1g8w-u 8-8", none⟩,
  ⟨"nagm nagmundari", .packed "2nrk-15", none⟩,
  ⟨"nand nandinagari",
    .packed "1jmo-7 2-19 2-a",
    some (.packed "1us-1 ow-9 35l 8 7 rhx-5 mei-7 2-19 2-a")⟩,
  ⟨"talu newtailue", .packed "51c-17 4-p 6-a 3-1", none⟩,
  ⟨"newa", .packed "1iio-2j 1-4", none⟩,
  ⟨"nkoo nko", .packed "1j4-1m 2-2", some (.packed "170 e 3 bk-1m 2-2 1cfy-1")⟩,
  ⟨"nshu nushu", .packed "20o1 cy6-az", none⟩,
  ⟨"hmnp nyiakengpuachuehmong", .packed "2n0g-18 3-d 2-9 4-1", none⟩,
  ⟨"ogam ogham", .packed "4g0-s", none⟩,
  ⟨"olck olchiki", .packed "5lc-1b", none⟩,
  ⟨"onao olonal", .packed "2nyo-16 4", some (.packed "1us-1 2m3u-16 4")⟩,
  ⟨"hung oldhungarian", .packed "1h1c-1e d-1e 7-5", some (.packed "6e2 2 2qb f 17we-1e d-1e 7-5")⟩,
  ⟨"ital olditalic", .packed "1f5s-z 9-2", none⟩,
  ⟨"narb oldnortharabian", .packed "1gn4-v", none⟩,
  ⟨"perm oldpermic", .packed "1f80-16", some (.packed "53 g8 5-2 a a7 1ebw-16")⟩,
  ⟨"xpeo oldpersian", .packed "1fa8-z 4-d", none⟩,
  ⟨"sogo oldsogdian", .packed "1hj4-13", none⟩,
  ⟨"sarb oldsoutharabian", .packed "1gm8-v", none⟩,
  ⟨"orkh oldturkic", .packed "1gxs-20", some (.packed "6e2 2qd 17tb-20")⟩,
  ⟨"ougr olduyghur", .packed "1hm8-p", some (.packed "18g 1fht vx-p")⟩,
  ⟨"orya oriya",
    .packed "269-2 1-7 2-1 2-l 1-6 1-1 1-4 2-8 2-1 2-2 7-2 4-1 1-4 2-h",
    some (.packed "1u9-1 h-1 bf-2 1-7 2-1 2-l 1-6 1-1 1-4 2-8 2-1 2-2 7-2 4-1 1-4 2-h 3fm n")⟩,
  ⟨"osge osage", .packed "1fhs-z 4-z", some (.packed "ld 2 6 24 1etz-z 4-z")⟩,
  ⟨"osma osmanya", .packed "1fgg-t 2-9", none⟩,
  ⟨"hmng pahawhhmong", .packed "1zpc-1x a-9 1-6 1-k 5-i", none⟩,
  ⟨"palm palmyrene", .packed "1g80-v", none⟩,
  ⟨"pauc paucinhau", .packed "1juo-1k", none⟩,
  ⟨"phag phagspa", .packed "x8g-1j", some (.packed "4qq-1 1 1m1 34i nr1-1j")⟩,
  ⟨"phnx phoenician", .packed "1gcg-r 3", none⟩,
  ⟨"phlp psalterpahlavi", .packed "1gu8-h 7-3 c-6", some (.packed "18g 1flr-h 7-3 c-6")⟩,
  ⟨"rjng rejang", .packed "xf4-z b", none⟩,
  ⟨"runr runic", .packed "4gw-22 3-a", some (.packed "4gw-2g")⟩,
  ⟨"samr samaritan", .packed "1kw-19 2-e", some (.packed "1kw-19 2-e 7hu")⟩,
  ⟨"saur saurashtra", .packed "xa8-1x 8-b", none⟩,
  ⟨"shrd sharada", .packed "1i0w-2n", some (.packed "1u9 3ut 1 2-1 2 rin-5 2 ksn-2n")⟩,
  ⟨"shaw shavian", .packed "1ff4-1b", some (.packed "53 1fa0-1b")⟩,
  ⟨"sidd siddham", .packed "1itc-1h 2-11", none⟩,
  ⟨"sgnw signwriting", .packed "2l8g-i3 f-4 1-e", none⟩,
  ⟨"sinh sinhala",
    .packed "2o1-2 1-h 3-n 1-8 1 2-6 3 4-5 1 1-7 6-9 2-2 1fcc-j",
    some (.packed "1us-1 t7-2 1-h 3-n 1-8 1 2-6 3 4-5 1 1-7 6-9 2-2 2yl 1cdq-j")⟩,
  ⟨"sogd sogdian", .packed "1hkg-15", some (.packed "18g 1gbz-15")⟩,
  ⟨"sora sorasompeng", .packed "1hw0-o 7-9", none⟩,
  ⟨"soyo soyombo", .packed "1jrk-2a", none⟩,
  ⟨"sund sundanese", .packed "5fk-1r 74-7", none⟩,
  ⟨"sunu sunuwar", .packed "1k1s-x e-9", some (.packed "lc-1 1 9 2 s 3 1jf2-x e-9")⟩,
  ⟨"sylo sylotinagri", .packed "x6o-18", some (.packed "1us-1 3k-9 v80-18")⟩,
  ⟨"syrc syriac",
    .packed "1ds-d 1-1n 2-2 7k-a",
    some (.packed "lf-1 2-1 1 l 2-2 7-1 1 kb e-1 2 w a-a q 3z-d 1-1n 2-2 7k-a 499 1")⟩,
  ⟨"tglg tagalog", .packed "4jk-l 9", some (.packed "4jk-l 9 l-1")⟩,
  ⟨"tagb tagbanwa", .packed "4m8-c 1-2 1-1", some (.packed "4l1-1 15-c 1-2 1-1")⟩,
  ⟨"tale taile", .packed "500-t 2-4", some (.packed "lc-1 5-1 3 2lv-9 1s6-t 2-4")⟩,
  ⟨"lana taitham", .packed "55s-1q 1-s 2-a 6-9 6-d", none⟩,
  ⟨"tavt taiviet", .packed "xog-1u o-4", none⟩,
  ⟨"takr takri", .packed "1j0g-1l 6-9", some (.packed "1us-1 vd6-9 ls6-1l 6-9")⟩,
  ⟨"taml tamil",
    .packed "29u-1 1-5 3-2 1-3 3-1 1 1-1 3-1 3-2 3-b 4-4 3-2 1-3 2 6 e-k 1ih1-1d d",
    some (.packed (
      "1u9-1 h-1 f0-1 1-5 3-2 1-3 3-1 1 1-1 3-1 3-2 3-b 4-4 3-2 1-3 2 6 e-k 3bz ro8 ky5 1 1j-1 "
      ++ "2gz-1d d"))⟩,
  ⟨"tnsa tangsa", .packed "1zlc-26 1-9", none⟩,
  ⟨"tang tangut", .packed "20o0 v-4qf 8-lb e8-8", some (.packed "9gw-f dr 1qsw v-4qf 8-lb e8-8")⟩,
  ⟨"telu telugu",
    .packed "2dc-c 1-2 1-m 1-f 2-8 1-2 1-3 7-1 1-2 2 2-3 2-9 7-8",
    some (.packed "1u9-1 h-1 ii-c 1-2 1-m 1-f 2-8 1-2 1-3 7-1 1-2 2 2-3 2-9 7-8 38a n")⟩,
  ⟨"thaa thaana", .packed "1hc-1d", some (.packed "170 e-1 2 1s-9 7q-1d 1cn4 a")⟩,
  ⟨"thai", .packed "2rl-1l 5-r", some (.packed "jg q 17 19 24v-1l 5-r")⟩,
  ⟨"tibt tibetan",
    .packed "2yo-1z 1-z 4-12 1-z 1-e 1-6 4-1",
    some (.packed "2yo-1z 1-z 4-12 1-z 1-e 1-6 4-1 6ct-3")⟩,
  ⟨"tfng tifinagh", .packed "8xc-1j 7-1 e", some (.packed "le 1 2 1 8bq-1j 7-1 e")⟩,
  ⟨"tirh tirhuta", .packed "1im8-1z 8-9", some (.packed "1u9-1 h-1 3v0 ri5-9 ldy-1z 8-9")⟩,
  ⟨"todr todhri", .packed "1fpc-1f", some (.packed "ld 2 2 9 1 22 1f1d-1f")⟩,
  ⟨"toto", .packed "2nbk-u", some (.packed "jg 2ms3-u")⟩,
  ⟨"tutg tulutigalari",
    .packed "1if4-9 1 2 1-11 1-9 1 2 1-3 1-9 1-1 8-1",
    some (.packed "2jq-9 35u 1 ri3-5 57 l1q-9 1 2 1-11 1-9 1 2 1-3 1-9 1-1 8-1")⟩,
  ⟨"ugar ugaritic", .packed "1f9c-t 1", none⟩,
  ⟨"vaii vai", .packed "wlc-8b", none⟩,
  ⟨"vith vithkuqi", .packed "1fn4-a 1-e 1-6 1-1 1-a 1-e 1-6 1-1", none⟩,
  ⟨"wcho wancho", .packed "2ncw-1l 5", none⟩,
  ⟨"wara warangciti", .packed "1jfk-2a c", none⟩,
  ⟨"yezi yezidi", .packed "1hfk-15 1-2 2-1", some (.packed "170 e 3 1s-9 1g5y-15 1-2 2-1")⟩,
  ⟨"yiii yi", .packed "vls-wc 3-1i", some (.packed "9hd-1 5-9 2-7 67 lxg-wc 3-1i hwa-4")⟩,
  ⟨"zanb zanabazarsquare", .packed "1jpc-1z", none⟩]

/-- Names of scripts that no character has. -/
def unused : List String :=
  ["hrkt", "katakanaorhiragana", "unknown", "zzzz"]

def find? (name : String) : Option Script :=
  all.find? fun s => (s.names.splitOn " ").contains name

end Script
end Unicode
end GrammarText
