/-
What words are made of, and the space between them.
-/
import GrammarText.Text.CharRun
import GrammarText.Text.UppercaseLetter
import GrammarText.Text.LowercaseLetter
import GrammarText.Text.Letter

namespace GrammarText
namespace Text

/-- The characters with the Unicode property White_Space. -/
def isSpace (c : Char) : Bool :=
  ('\t' ≤ c && c ≤ '\r') || c == ' ' || c == '\x85' || c == '\xa0' || c == '\u1680'
    || ('\u2000' ≤ c && c ≤ '\u200a') || c == '\u2028' || c == '\u2029' || c == '\u202f'
    || c == '\u205f' || c == '\u3000'

/-- The text without the white space at its ends. -/
def trim (text : List Char) : List Char :=
  ((text.dropWhile isSpace).reverse.dropWhile isSpace).reverse

open CharRun

/-- The code points of general category Nd in Unicode 16, ten to a script. -/
def decimalDigits : List CharRun := [
  run 0x30 0x39, run 0x660 0x669, run 0x6f0 0x6f9, run 0x7c0 0x7c9, run 0x966 0x96f,
  run 0x9e6 0x9ef, run 0xa66 0xa6f, run 0xae6 0xaef, run 0xb66 0xb6f, run 0xbe6 0xbef,
  run 0xc66 0xc6f, run 0xce6 0xcef, run 0xd66 0xd6f, run 0xde6 0xdef, run 0xe50 0xe59,
  run 0xed0 0xed9, run 0xf20 0xf29, run 0x1040 0x1049, run 0x1090 0x1099, run 0x17e0 0x17e9,
  run 0x1810 0x1819, run 0x1946 0x194f, run 0x19d0 0x19d9, run 0x1a80 0x1a89, run 0x1a90 0x1a99,
  run 0x1b50 0x1b59, run 0x1bb0 0x1bb9, run 0x1c40 0x1c49, run 0x1c50 0x1c59, run 0xa620 0xa629,
  run 0xa8d0 0xa8d9, run 0xa900 0xa909, run 0xa9d0 0xa9d9, run 0xa9f0 0xa9f9, run 0xaa50 0xaa59,
  run 0xabf0 0xabf9, run 0xff10 0xff19, run 0x104a0 0x104a9, run 0x10d30 0x10d39,
  run 0x10d40 0x10d49, run 0x11066 0x1106f, run 0x110f0 0x110f9, run 0x11136 0x1113f,
  run 0x111d0 0x111d9, run 0x112f0 0x112f9, run 0x11450 0x11459, run 0x114d0 0x114d9,
  run 0x11650 0x11659, run 0x116c0 0x116c9, run 0x116d0 0x116e3, run 0x11730 0x11739,
  run 0x118e0 0x118e9, run 0x11950 0x11959, run 0x11bf0 0x11bf9, run 0x11c50 0x11c59,
  run 0x11d50 0x11d59, run 0x11da0 0x11da9, run 0x11f50 0x11f59, run 0x16130 0x16139,
  run 0x16a60 0x16a69, run 0x16ac0 0x16ac9, run 0x16b50 0x16b59, run 0x16d70 0x16d79,
  run 0x1ccf0 0x1ccf9, run 0x1d7ce 0x1d7ff, run 0x1e140 0x1e149, run 0x1e2f0 0x1e2f9,
  run 0x1e4f0 0x1e4f9, run 0x1e5f1 0x1e5fa, run 0x1e950 0x1e959, run 0x1fbf0 0x1fbf9]

/-- Superscripts, fractions and letter numbers are not decimal digits. -/
def isDecimalDigit (c : Char) : Bool :=
  anyHas decimalDigits c.toNat

/-- Word characters are letters, decimal digits and the low line. -/
def isWord (c : Char) : Bool :=
  isLetter c || isDecimalDigit c || c == '_'

/-- Whether the last character is a word character.  The empty text has none. -/
def endsInWord (text : String) : Bool :=
  text.toList.getLast?.any isWord

end Text
end GrammarText
