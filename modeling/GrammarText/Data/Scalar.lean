/-
Texts that stand without quotes in YAML.  A text needs quotes where a reader would take it for
something other than a text, or where its characters would end it or start something else.
-/
import GrammarText.Text.Binary64

namespace GrammarText
namespace Data
namespace Yaml

/-- Digits behind a zero and perhaps a sign.  They are a text and no number. -/
def isPaddedDigits (text : List Char) : Bool :=
  let bare :=
    match text with
    | '-' :: rest => rest
    | '+' :: rest => rest
    | rest => rest
  match bare with
  | '0' :: next :: rest => (next :: rest).all Char.isDigit
  | _ => false

def digitValue? (c : Char) : Option Nat :=
  if c.isDigit then some (c.toNat - '0'.toNat)
  else if 'a' ≤ c && c ≤ 'f' then some (c.toNat - 'a'.toNat + 10)
  else if 'A' ≤ c && c ≤ 'F' then some (c.toNat - 'A'.toNat + 10)
  else none

/-- The value of digits in a base, of which there is at least one. -/
def valueIn? (base : Nat) (digits : List Char) : Option Nat :=
  if digits.isEmpty then none
  else
    digits.foldl (fun n c => do
      let value ← digitValue? c
      if value < base then return base * (← n) + value else none) (some 0)

/-- A number in a base that its first characters announce, below or at a limit. -/
def isBased (text : List Char) (limit : Nat) : Bool :=
  match text with
  | '0' :: 'x' :: rest => (valueIn? 16 rest).any (· ≤ limit)
  | '0' :: 'o' :: rest => (valueIn? 8 rest).any (· ≤ limit)
  | '0' :: 'b' :: rest => (valueIn? 2 rest).any (· ≤ limit)
  | _ => false

/-- A whole number of up to 128 bits. -/
def isWhole (text : List Char) : Bool :=
  let decimal (digits : List Char) (limit : Nat) : Bool :=
    !isPaddedDigits text && (valueIn? 10 digits).any (· ≤ limit)
  match text with
  | '-' :: rest => isBased rest (Nat.pow 2 127) || decimal rest (Nat.pow 2 127)
  | '+' :: rest => isBased rest (Nat.pow 2 128 - 1) || decimal rest (Nat.pow 2 128 - 1)
  | rest => isBased rest (Nat.pow 2 128 - 1) || decimal rest (Nat.pow 2 128 - 1)

/-- A number with a fraction or exponent that is finite in 64 bits, or a name of one that is not. -/
def isFloat (text : List Char) : Bool :=
  let unsigned := if text.head? == some '+' then text.tail else text
  let signs : Bool := text.head? == some '+'
    && (unsigned.head? == some '+' || unsigned.head? == some '-')
  let named :=
    [".inf", ".Inf", ".INF"].contains (String.ofList unsigned)
      || ["-.inf", "-.Inf", "-.INF", ".nan", ".NaN", ".NAN"].contains (String.ofList text)
  let finite := (Text.Decimal.parse? unsigned).any fun d => (Text.Binary64.ofDecimal d).isFinite
  !isPaddedDigits text && !signs && (named || finite)

/-- The spellings of the truth values and of nothing. -/
def names : List String :=
  ["", "true", "True", "TRUE", "false", "False", "FALSE", "null", "Null", "NULL", "~"]

/-- A text that readers take for a truth value, for nothing, or for a number. -/
def isTyped (text : List Char) : Bool :=
  names.contains (String.ofList text) || isPaddedDigits text || isWhole text || isFloat text

/-- Characters that end a line. -/
def isBreak (c : Char) : Bool :=
  c == '\n' || c == '\r' || c == '\x85' || c == '\u2028' || c == '\u2029'

def isBlankOrBreak (c : Char) : Bool :=
  c == ' ' || c == '\t' || c == '\x00' || isBreak c

/-- Characters that are written as they are. -/
def isPrintable (c : Char) : Bool :=
  c == '\n' || (' ' ≤ c && c ≤ '~') || (0xa0 ≤ c.toNat && c.toNat ≤ 0xd7ff)
    || (0xe000 ≤ c.toNat && c.toNat ≤ 0xfffd && c.toNat != 0xfeff) || 0x10000 ≤ c.toNat

/-- Whether `holds` is true of two characters that follow each other. -/
def anyPair (holds : Char → Char → Bool) : List Char → Bool
  | a :: b :: rest => holds a b || anyPair holds (b :: rest)
  | _ => false

/-- Whether the text starts with what would be no text without quotes. -/
def startsStructure : List Char → Bool
  | [] => false
  | c :: rest =>
      "#,[]\x7b\x7d&*!|>'\"%@`".toList.contains c
        || ((c == '?' || c == ':' || c == '-') && rest.head?.all isBlankOrBreak)
        || ['-', '-', '-'].isPrefixOf (c :: rest) || ['.', '.', '.'].isPrefixOf (c :: rest)

/-- Whether a text without quotes would end too early or be no text. -/
def hasIndicator (text : List Char) : Bool :=
  startsStructure text
    || anyPair (fun a b => a == ':' && isBlankOrBreak b) text.tail
    || (text.length > 1 && text.getLast? == some ':')
    || anyPair (fun a b => b == '#' && isBlankOrBreak a) text

/-- How a text is written. -/
inductive Style where
  | plain
  | single
  | double
  | literal
  deriving Repr, DecidableEq

/-- The plainest style that keeps the text as it is. -/
def styleOf (text : List Char) : Style :=
  let isOddSpace := anyPair (fun a b => a == ' ' && isBreak b) text
  let isOddBreak := anyPair (fun a b => isBreak a && b == ' ') text
  let isSpecial := isOddSpace || text.any (!isPrintable ·)
  let isSpaced :=
    text.head?.any (fun c => c == ' ' || isBreak c)
      || text.getLast?.any (fun c => c == ' ' || isBreak c)
  if text.contains '\n' then
    if isSpecial || text.getLast? == some ' ' then .double else .literal
  else if isSpecial || isOddBreak then .double
  else if isTyped text || isSpaced || text.any isBreak || hasIndicator text then .single
  else .plain

end Yaml
end Data
end GrammarText
