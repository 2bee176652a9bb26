/-
Ranges of a source, what is read from one, and what keeps one from being a token.
-/
namespace GrammarText

/-- A half-open range of byte offsets into a source text. -/
structure Span where
  start : Nat
  stop : Nat
  deriving Repr, DecidableEq, Inhabited

namespace Span

/-- Two ranges overlap when each starts before the other stops. -/
def overlaps (a b : Span) : Bool :=
  a.start < b.stop && b.start < a.stop

def shift (s : Span) (distance : Nat) : Span :=
  ⟨s.start + distance, s.stop + distance⟩

/-- The range in the form `start..stop`. -/
def text (s : Span) : String :=
  toString s.start ++ ".." ++ toString s.stop

end Span

/-- A value together with the source range it was read from. -/
structure Spanned (α : Type) where
  node : α
  span : Span
  deriving Repr, DecidableEq

/-- Why a fragment of source text is no token. -/
inductive LexFault where
  /-- An escape other than `\n`, `\t`, `\r`, `\'` and `\\` inside a quoted literal. -/
  | malformedEscape
  | unterminatedLiteral
  | unterminatedRegex
  /-- An integer that does not fit in 32 bits. -/
  | integerOverflow
  | unexpectedCharacter
  deriving Repr, DecidableEq

def LexFault.message : LexFault → String
  | malformedEscape => "malformed escape sequence in string literal"
  | unterminatedLiteral => "unterminated string literal"
  | unterminatedRegex => "unterminated regex literal"
  | integerOverflow => "integer is too large"
  | unexpectedCharacter => "unexpected character"

/-- A fragment that is no token, and the reason. -/
structure LexError where
  fault : LexFault
  span : Span
  deriving Repr, DecidableEq

def LexError.message (e : LexError) : String :=
  "Lexing error at " ++ e.span.text ++ ": " ++ e.fault.message

end GrammarText
