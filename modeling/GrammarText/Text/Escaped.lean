namespace GrammarText
namespace Text

/-- A hexadecimal digit in lower case.  Digits from sixteen on have none and read as `0`. -/
def hexDigit (n : Nat) : Char :=
  if n < 10 then Char.ofNat ('0'.toNat + n)
  else if n < 16 then Char.ofNat ('a'.toNat + (n - 10))
  else '0'

/-- The hexadecimal digits of a number below `16 ^ width`, padded with zeros to that width. -/
def hexPadded : Nat → Nat → List Char
  | 0, _ => []
  | width + 1, n => hexPadded width (n / 16) ++ [hexDigit (n % 16)]

/-- The hexadecimal digits of a code point without leading zeros. -/
def hexCode (n : Nat) : List Char :=
  match (hexPadded 6 n).dropWhile (· == '0') with
  | [] => ['0']
  | digits => digits

/-- A code point as `\u` and its hexadecimal digits in braces. -/
def bracedEscape (c : Char) : List Char :=
  '\\' :: 'u' :: '{' :: hexCode c.toNat ++ ['}']

/-- Escapes everything but printable ASCII, and both kinds of quote and the backslash. -/
def asciiEscape (c : Char) : List Char :=
  if c == '\t' then ['\\', 't']
  else if c == '\r' then ['\\', 'r']
  else if c == '\n' then ['\\', 'n']
  else if c == '\'' || c == '"' || c == '\\' then ['\\', c]
  else if ' ' ≤ c && c ≤ '~' then [c]
  else bracedEscape c

def asciiEscaped (text : String) : String :=
  String.ofList (text.toList.flatMap asciiEscape)

end Text
end GrammarText
