/-
The classes of characters in Unicode 16 by which texts are cut into graphemes, words and sentences.
-/
import GrammarText.Unicode.Flag

namespace GrammarText
namespace Unicode

open Text (CharSet)

namespace Break

def carriageReturn : CharSet := .one '\r'

def lineFeed : CharSet := .one '\n'

def joiner : CharSet := .one '\u200d'

/- Graphemes. -/

def graphemeControl : CharSet := .packed <|
    "0-9 1-1 1-h 2n-w d 12m 3jl 1ks 2-1 o-6 1d-f 17yn 6o-b ab8-f qxs-3 43z-7 h405-v 2o-3j 6o-2rz"

def graphemeSpacingMark : CharSet := .packed <|
    "1s3 1j 2-2 8-3 1-1 1e-1 1n-1 6-1 2-1 1i 1m-2 1u 1m-2 8 1-1 1h-1 1o 6-1 2-1 36 1-1 3-2 1-2 "
    ++ "1g-2 1p-3 1p-1 1m 2 1-1 1a e-1 1n-1 5-2 1-2 1h-1 24-1 6-6 j-1 1r 3j 3u-1 1r 4x 9-1 p-1 18 "
    ++ "1f5 7-7 1-1 9m-3 2-2 4-1 1-5 68-1 1m 1 l-5 41 1l-3 1s u 4-1 1r 2-2 1 1h-7 8-1 4r l rhn-1 2 "
    ++ "2g-1 1e-f 3y 1c 1c-1 4-1 2-1 33-1 2-1 o 4d 2-1 5 6l-1 1-1 1-1 1 jrn 1 3j 19-2 4-1 37 o-1 "
    ++ "1n 1c-2 9 e 2l-2 3-1 4s-2 v-1 1n 1-3 2-1 2-1 l-1 2d-1 f 1-1 2v-2 8-1 3 2z-1 6 1-1 1 2 6m-1 "
    ++ "6-3 2 35-2 8-1 1 31 1-1 32 7 79-2 9 6w-4 1-1 7 1 3y-2 8-3 4 2c t-1 1q bb e 2y 7 2 5x-4 4-1 "
    ++ "1 9q-1 c 1c-1 8-1 d0q-2 2sk-1i"

/-- The syllables of Hangul without a final consonant, one in 28. -/
def openSyllable : CharSet := .runs [⟨0xac00, 0xd788, 28⟩]

def closedSyllable : CharSet :=
  (CharSet.range '\uac00' '\ud7a3').without openSyllable

/-- The classes for graphemes with their names. -/
def grapheme : List (String × CharSet) := [
  ("cr", carriageReturn),
  ("lf", lineFeed),
  ("cn control", graphemeControl),
  ("ex extend", Flag.graphemeExtend.union Flag.emojiModifier),
  ("zwj", joiner),
  ("ri regionalindicator", Flag.regionalIndicator),
  ("pp prepend", .packed "16o-5 5z 1d ao-1 28 vf 1f8u f 6s-1 el 12l 1 6w 21-5 jg cb"),
  ("sm spacingmark", graphemeSpacingMark),
  ("l", .packed "3cw-2n u0w-s"),
  ("v", .packed "3fk-1z 1348-m tjw 3-3"),
  ("t", .packed "3hk-2f 132j-1c"),
  ("lv", openSyllable),
  ("lvt", closedSyllable)]

/- Words. -/

def hebrewLetter : CharSet := .packed "15c-q 4-3 1cfe 1-9 1-c 1-4 1 1-1 1-1 1-9"

def katakana : CharSet :=
  .packed "9ip-4 2t-1 3-2i 1-3 6o-f 5s-1a 1-2f 14b2-1j ytu-3 1-6 1-1 1 7z-2 1e e-3"

def wordExtend : CharSet :=
  .unions [Flag.graphemeExtend, Category.spacingMark, Flag.emojiModifier]

/-- The letters of scripts that put no blanks between words. -/
def spacelessLetter : CharSet := .packed <|
    "2rl-1b 1-1 c-6 1m-1 1 1-4 1-n 1 1-9 1-1 9 2-4 1 l-3 80-16 k g-5 4-3 3 3-1 7-2 4-c c 1dd-1f z "
    ++ "4 ab-t 2-4 b-17 4-p 2e-1g 2a 49l-2d 6-2 ny8-4 1-9 a-4 2p-m 3 3-1d 1 3-1 2-4 2 1 o-2 lcy-q "
    ++ "11-6 u62-7y i t-2"

def signLetter : CharSet := .packed "jm-3 c-5 6-1 5-6 1 1-g gq-2 1 17 2w 7v vlk-e 9-1 2v-1 r4"

/-- The letters of scripts that put blanks between words, and some signs that are taken for such. -/
def wordLetter : CharSet :=
  ((Flag.alphabetic.without
    (.unions [hebrewLetter, katakana, Flag.ideographic, wordExtend, spacelessLetter])).union
    signLetter)

/-- The classes for words with their names. -/
def word : List (String × CharSet) := [
  ("cr", carriageReturn),
  ("lf", lineFeed),
  ("nl newline", .packed "b-1 3c 68y-1"),
  ("extend", wordExtend),
  ("zwj", joiner),
  ("fo format", .packed "4t 12m 3jl 1kv-1 q-4 1d-4 1-9 17yn 6x-2 ab8-f qxs-3 43z-7 h406"),
  ("ri regionalindicator", Flag.regionalIndicator),
  ("ka katakana", katakana),
  ("hl hebrewletter", hebrewLetter),
  ("le aletter", wordLetter),
  ("sq singlequote", .one '\''),
  ("dq doublequote", .one '"'),
  ("mb midnumlet", .packed "1a 6ax-1 a 17vx 50 6"),
  ("ml midletter", .packed "1m 3g jz d3 44 56a 17u3 1t 5g"),
  ("mn midnum", .packed "18 e n6 ei 3m-1 2m az 4sr 17uz 3 53 e"),
  ("nu numeric", Category.decimalNumber.union (.packed "16o-5 2t 35 c2-1 28 3cn 1crm f")),
  ("ex extendnumlet", .packed "2n 6a7 f-1 j 17tq-1 o-2 6n"),
  ("wsegspace", .packed "w 4f3 1vj-6 1-2 2c 334")]

/- Sentences. -/

def lineEnd : CharSet := .packed "3p 68y-1"

def fullStop : CharSet := .packed "1a 6b9 17vx 57"

def sentenceExtend : CharSet :=
  .unions [Flag.graphemeExtend, Category.spacingMark, joiner]

/-- The letters of Georgian have no case at the start of a sentence. -/
def sentenceLower : CharSet :=
  (Flag.lowercase.without Flag.graphemeExtend).without (.packed "3bk-16 2-2")

def sentenceUpper : CharSet :=
  (Category.titlecaseLetter.union Flag.uppercase).without (.packed "5n4-16 2-2")

def sentenceLetter : CharSet :=
  (Flag.alphabetic.union (.one '\u05f3')).without
    (.unions [sentenceLower, sentenceUpper, sentenceExtend])

def closing : CharSet :=
  .unions [Category.openPunctuation, Category.closePunctuation, Category.initialPunctuation,
    Category.finalPunctuation, .packed "y 4 7qr-5 1b3-1 4-2 2 2i5m-2"]

/-- The classes for sentences with their names. -/
def sentence : List (String × CharSet) := [
  ("cr", carriageReturn),
  ("lf", lineFeed),
  ("ex extend", sentenceExtend),
  ("se sep", lineEnd),
  ("fo format", .packed "4t 12m 6q 3cu 1ks 2-1 q-4 1d-4 1-9 17yn 6x-2 ab8-f qxs-3 43z-7 h406"),
  ("sp", Flag.whiteSpace.without (.unions [carriageReturn, lineFeed, lineEnd])),
  ("lo lower", sentenceLower),
  ("up upper", sentenceUpper),
  ("le oletter", sentenceLetter),
  ("nu numeric", Category.decimalNumber.union (.packed "16o-5 2t-1 34 c2-1 28 3cn 1crm f")),
  ("at aterm", fullStop),
  ("sc scontinue",
    .packed "18-1 c-1 n6 da 4u-1 dm 361 5 1l6-1 358 14pa-1 1-1 s-1 t-1 2-1 2 a 4o-1 c-1 20"),
  ("st sterm", Flag.sentenceTerminal.without fullStop),
  ("cl close", closing)]

end Break
end Unicode
end GrammarText
