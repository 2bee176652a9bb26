/-
Lexing by longest match.  No two classes of fragments start with the same character, so the first
character decides the class, and the fragment is the longest prefix of the remaining text that the
class allows.  Blanks and comments are skipped.  Every other fragment is a token or a lexical
error, and `scan` keeps both lists in source order.
-/
import GrammarText.Span
import GrammarText.Token
import GrammarText.Text.Offset
import GrammarText.Text.Delimited
import GrammarText.Text.Word

namespace GrammarText

/-- The blanks between tokens: space, tab, carriage return, line feed and form feed. -/
def isBlank (c : Char) : Bool :=
  c == ' ' || c == '\t' || c == '\r' || c == '\n' || c == '\x0c'

/-- The value of a run of decimal digits. -/
def decimalValue (digits : List Char) : Nat :=
  digits.foldl (fun n c => 10 * n + (c.toNat - '0'.toNat)) 0

/-- Reads an integer of any number of digits that fits in 32 bits. -/
def readInteger (digits : List Char) : Except LexFault Token :=
  let value := decimalValue digits
  if value < UInt32.size then .ok (.integer (UInt32.ofNat value)) else .error .integerOverflow

/-- What stands at the head of a text. -/
inductive Fragment where
  | skipped
  | token (t : Token)
  | fault (f : LexFault)
  deriving Repr, DecidableEq

def Fragment.ofExcept : Except LexFault Token → Fragment
  | .ok t => .token t
  | .error f => .fault f

/-- A fragment's reading and the number of characters it takes behind its first. -/
structure Match where
  fragment : Fragment
  tail : Nat
  deriving Repr, DecidableEq

/-- The fragment that starts with `c` and goes on into `rest`. -/
def Match.ofHead (c : Char) (rest : List Char) : Match :=
  if isBlank c then
    ⟨.skipped, (rest.takeWhile isBlank).length⟩
  else if c == '#' then
    ⟨.skipped, (rest.takeWhile (!Text.isLineEnd ·)).length⟩
  else if c == '\'' then
    let inside := (Text.Delimited.split '\'' rest).1
    ⟨.ofExcept ((Text.Quoted.decode (c :: inside)).map .literal), inside.length⟩
  else if c == '/' then
    let inside := (Text.Delimited.split '/' rest).1
    ⟨.ofExcept ((Text.Slashed.decode (c :: inside)).map .regex), inside.length⟩
  else if Text.isUppercaseLetter c then
    let more := rest.takeWhile Text.isWord
    ⟨.token (.tokenName (String.ofList (c :: more))), more.length⟩
  else if Text.isLowercaseLetter c then
    let more := rest.takeWhile Text.isWord
    ⟨.token (.ruleName (String.ofList (c :: more))), more.length⟩
  else if c.isDigit then
    let more := rest.takeWhile Char.isDigit
    ⟨.ofExcept (readInteger (c :: more)), more.length⟩
  else if c == '.' && rest.head? == some '.' then
    ⟨.token (.mark .range), 1⟩
  else
    match Mark.ofChar? c with
    | some m => ⟨.token (.mark m), 0⟩
    | none => ⟨.fault .unexpectedCharacter, 0⟩

/-- The tokens of a text and the fragments that are none, both in source order. -/
structure Lexed where
  tokens : List Lexeme
  errors : List LexError
  deriving Repr, DecidableEq

namespace Lexed

def empty : Lexed :=
  ⟨[], []⟩

/-- Puts a fragment in front. -/
def push (fragment : Fragment) (span : Span) (later : Lexed) : Lexed :=
  match fragment with
  | .skipped => later
  | .token t => { later with tokens := ⟨t, span⟩ :: later.tokens }
  | .fault f => { later with errors := ⟨f, span⟩ :: later.errors }

/-- Lexes a text that starts at a byte offset. -/
def scan (offset : Nat) (text : List Char) : Lexed :=
  match text with
  | [] => empty
  | c :: rest =>
      let found := Match.ofHead c rest
      let stop := offset + c.utf8Size + Text.byteLength (rest.take found.tail)
      push found.fragment ⟨offset, stop⟩ (scan stop (rest.drop found.tail))
  termination_by text.length

end Lexed

def tokenize (source : String) : Lexed :=
  Lexed.scan 0 source.toList

end GrammarText
