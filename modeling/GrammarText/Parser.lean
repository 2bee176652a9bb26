/-
Parsers over tokens with one token of decision and ordered choice.  Besides its value a parser that
succeeds hands on the error, if any, that kept it from reading more: should the parse fail later at
the same place, that error is part of the reason.  Of two errors the one that lies further on is
kept, and two at the same place are merged.
-/
import GrammarText.ParseError

namespace GrammarText

/-- An error and the number of tokens that were left where it arose. -/
structure Setback where
  left : Nat
  error : ParseError
  deriving Repr, DecidableEq

namespace Setback

/-- The error with fewer tokens left.  At one place the two merge. -/
def furthest (a b : Setback) : Setback :=
  if a.left < b.left then a
  else if b.left < a.left then b
  else { a with error := a.error.merge b.error }

/-- `furthest` where the second may be missing. -/
def max (a : Setback) : Option Setback → Setback
  | none => a
  | some b => a.furthest b

/-- The furthest of two setbacks that may both be missing.  In a merge the later comes first. -/
def latest : Option Setback → Option Setback → Option Setback
  | none, later => later
  | earlier, none => earlier
  | some earlier, some later => some (later.furthest earlier)

def withLabel (name : Expectation) (s : Setback) : Setback :=
  { s with error := s.error.withLabel name }

end Setback

/-- What a parser makes of a list of tokens. -/
inductive Outcome (α : Type) where
  | done (value : α) (rest : List Lexeme) (setback : Option Setback)
  | failed (setback : Setback)
  deriving Repr, DecidableEq

/-- A parser is given the offset of the end of the source, for errors at the end. -/
def Parser (α : Type) : Type :=
  Nat → List Lexeme → Outcome α

namespace Parser

variable {α β : Type}

/-- Reads one token that `read` has a value for.  Another token, but not the end, is reported as
out of place where `wanted` should stand. -/
def token (wanted : Expectation) (read : Token → Option α) : Parser α := fun stop tokens =>
  match tokens with
  | [] => .failed ⟨0, .unexpected ⟨stop, stop⟩ [] none⟩
  | t :: rest =>
      match read t.node with
      | some value => .done value rest none
      | none => .failed ⟨rest.length + 1, .unexpected t.span [wanted] (some t.node)⟩

/-- Reads one particular token. -/
def exactly (wanted : Expectation) (expected : Token) : Parser Unit := fun stop tokens =>
  match tokens with
  | [] => .failed ⟨0, .unexpected ⟨stop, stop⟩ [wanted] none⟩
  | t :: rest =>
      if t.node = expected then .done () rest none
      else .failed ⟨rest.length + 1, .unexpected t.span [wanted] (some t.node)⟩

def mark (m : Mark) : Parser Unit :=
  exactly (.mark m) (.mark m)

/-- Succeeds where no token is left. -/
def endOfInput : Parser Unit := fun _ tokens =>
  match tokens with
  | [] => .done () [] none
  | t :: rest => .failed ⟨rest.length + 1, .unexpected t.span [.endOfInput] (some t.node)⟩

def map (f : α → β) (p : Parser α) : Parser β := fun stop tokens =>
  match p stop tokens with
  | .done value rest setback => .done (f value) rest setback
  | .failed setback => .failed setback

/-- One parser after the other. -/
def both (p : Parser α) (q : Parser β) : Parser (α × β) := fun stop tokens =>
  match p stop tokens with
  | .failed setback => .failed setback
  | .done a rest setback =>
      match q stop rest with
      | .failed later => .failed (later.max setback)
      | .done b rest' later => .done (a, b) rest' (Setback.latest setback later)

/-- One parser after the other, of which the first gives the value. -/
def before (p : Parser α) (q : Parser β) : Parser α :=
  map Prod.fst (both p q)

/-- One parser after the other, of which the second gives the value. -/
def after (p : Parser α) (q : Parser β) : Parser β :=
  map Prod.snd (both p q)

/-- The first parser that succeeds.  If none does, the errors of all are joined. -/
def firstOf (p : Parser α) : List (Parser α) → Parser α
  | [], stop, tokens => p stop tokens
  | q :: others, stop, tokens =>
      match p stop tokens with
      | .done value rest setback => .done value rest setback
      | .failed setback =>
          match firstOf q others stop tokens with
          | .done value rest later => .done value rest (Setback.latest (some setback) later)
          | .failed later => .failed (later.furthest setback)

/-- A parser or nothing. -/
def optional (p : Parser α) : Parser (Option α) := fun stop tokens =>
  match p stop tokens with
  | .done value rest setback => .done (some value) rest setback
  | .failed setback => .done none tokens (some setback)

/-- The values a parser reads in turn, at most `limit` of them, and what it leaves. -/
def collect (p : Parser α) (stop : Nat) :
    Nat → List Lexeme → List α × List Lexeme × Option Setback
  | 0, tokens => ([], tokens, none)
  | limit + 1, tokens =>
      match p stop tokens with
      | .failed setback => ([], tokens, some setback)
      | .done value rest setback =>
          let (values, rest', later) := collect p stop limit rest
          (value :: values, rest', Setback.latest setback later)

/-- A parser as often as it succeeds.  Every success has to read a token. -/
def many (p : Parser α) : Parser (List α) := fun stop tokens =>
  let (values, rest, setback) := collect p stop (tokens.length + 1) tokens
  .done values rest setback

/-- A parser as often as it succeeds, and once at least. -/
def many1 (p : Parser α) : Parser (List α) :=
  map (fun (first, others) => first :: others) (both p (many p))

/-- Names what the parser reads in every error it reports, now or later. -/
def labelled (name : Expectation) (p : Parser α) : Parser α := fun stop tokens =>
  match p stop tokens with
  | .done value rest setback => .done value rest (setback.map (Setback.withLabel name))
  | .failed setback => .failed (setback.withLabel name)

/-- The source range of the tokens between two lists, of which the second is a tail of the first. -/
def spanBetween (stop : Nat) (tokens rest : List Lexeme) : Span :=
  match tokens, (tokens.take (tokens.length - rest.length)).getLast? with
  | first :: _, some last => ⟨first.span.start, last.span.stop⟩
  | first :: _, none => first.span
  | [], _ => ⟨stop, stop⟩

def spanned (p : Parser α) : Parser (Spanned α) := fun stop tokens =>
  match p stop tokens with
  | .done value rest setback => .done ⟨value, spanBetween stop tokens rest⟩ rest setback
  | .failed setback => .failed setback

/-- Puts a value to a check.  Its error stands behind the value and ends whatever kept the parser
from reading more. -/
def checked (check : α → Span → Except ParseError β) (p : Parser α) : Parser β :=
  fun stop tokens =>
    match p stop tokens with
    | .failed setback => .failed setback
    | .done value rest setback =>
        match check value (spanBetween stop tokens rest) with
        | .ok checkedValue => .done checkedValue rest setback
        | .error e => .failed ⟨rest.length, e⟩

/-- Runs a parser, which need not read all tokens.  That no run reports two errors is in the type:
a parser stops where it fails and keeps the furthest error, and none goes on behind its own. -/
def run (p : Parser α) (stop : Nat) (tokens : List Lexeme) : Except ParseError α :=
  match p stop tokens with
  | .done value _ _ => .ok value
  | .failed setback => .error setback.error

end Parser
end GrammarText
