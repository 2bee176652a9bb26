/-
Syntax errors.  An error of the ordinary kind lists what would have been accepted where it arose.
Two errors at one place merge into one that lists what either lists, while an error about bounds or
literals is about a place that was accepted and stands as it is.
-/
import GrammarText.Token

namespace GrammarText

/-- The texts of all that may be wanted besides words. -/
def Word.taken : List String :=
  ["end of input", "token name", "rule name", "string literal", "regex", "integer",
    "token expression", "rule expression", "quantifier"]
    ++ Mark.all.map fun m => "'" ++ m.text ++ "'"

/-- A word that is wanted as it is.  To the lexer it is the name of a rule.  Nothing else that may
be wanted has its text. -/
structure Word where
  text : String
  apart : text ∉ Word.taken
  deriving Repr, DecidableEq

/- The words that mean something of their own at some place. -/

namespace Word

def main : Word := ⟨"main", by decide⟩
def skip : Word := ⟨"skip", by decide⟩
def before : Word := ⟨"before", by decide⟩
def after : Word := ⟨"after", by decide⟩
def greedy : Word := ⟨"greedy", by decide⟩
def lazy : Word := ⟨"lazy", by decide⟩
def identifier : Word := ⟨"identifier", by decide⟩
def keyword : Word := ⟨"keyword", by decide⟩
def choice : Word := ⟨"choice", by decide⟩
def number : Word := ⟨"number", by decide⟩
def int : Word := ⟨"int", by decide⟩
def float : Word := ⟨"float", by decide⟩
def double : Word := ⟨"double", by decide⟩

end Word

/-- What the grammar may want at a place: a kind of token, the end, or a construct by its name. -/
inductive Expectation where
  | endOfInput
  | tokenName
  | ruleName
  | word (w : Word)
  | literal
  | regex
  | integer
  | mark (m : Mark)
  | tokenExpression
  | ruleExpression
  | quantifier
  deriving Repr, DecidableEq

namespace Expectation

def text : Expectation → String
  | endOfInput => "end of input"
  | tokenName => "token name"
  | ruleName => "rule name"
  | word w => w.text
  | literal => "string literal"
  | regex => "regex"
  | integer => "integer"
  | mark m => "'" ++ m.text ++ "'"
  | tokenExpression => "token expression"
  | ruleExpression => "rule expression"
  | quantifier => "quantifier"

/-- Adds an expectation to a list in the order of their texts that holds none twice. -/
def insert (e : Expectation) : List Expectation → List Expectation
  | [] => [e]
  | other :: rest =>
      if e.text = other.text then other :: rest
      else if e.text < other.text then e :: other :: rest
      else other :: insert e rest

/-- What either of two lists holds. -/
def union (a b : List Expectation) : List Expectation :=
  b.foldl (fun all e => insert e all) a

end Expectation

inductive ParseFault where
  /-- The token at the place is none that the grammar accepts there. -/
  | unexpected
  /-- Bounds of which the upper is below the lower. -/
  | invertedBounds (min max : UInt32)
  /-- A run of literals of which some end in a word character and some do not. -/
  | mixedLiterals
  deriving Repr, DecidableEq

structure ParseError where
  fault : ParseFault
  span : Span
  expected : List Expectation
  found : Option Token
  /-- The name of the construct that was wanted, once one has been given. -/
  label : Option Expectation
  deriving Repr, DecidableEq

namespace ParseError

/-- An error at a token, or at the end, where one thing or nothing in particular was wanted. -/
def unexpected (span : Span) (expected : List Expectation) (found : Option Token) : ParseError :=
  ⟨.unexpected, span, expected, found, none⟩

def invertedBounds (span : Span) (min max : UInt32) : ParseError :=
  ⟨.invertedBounds min max, span, [], none, none⟩

def mixedLiterals (span : Span) : ParseError :=
  ⟨.mixedLiterals, span, [], none, none⟩

/-- Whether the error is about a value rather than about a token out of place. -/
def isSpecific (e : ParseError) : Bool :=
  e.fault != .unexpected

/--
Replaces what was expected by the name of a construct.  An error that has a name keeps it, so the
innermost name wins, and a specific error takes none.
-/
def withLabel (name : Expectation) (e : ParseError) : ParseError :=
  if e.label.isNone && !e.isSpecific then { e with label := some name, expected := [name] } else e

/-- One error for two that arose at the same place.  A specific one hides an ordinary one. -/
def merge (a b : ParseError) : ParseError :=
  if a.isSpecific then a
  else if b.isSpecific then b
  else
    { a with
      label := a.label <|> b.label
      expected := Expectation.union a.expected b.expected
      found := a.found <|> b.found }

/-- How a token reads in a message: literals and regexes as they are, others in quotes. -/
def describeFound : Option Token → String
  | none => "end of input"
  | some (.literal text) => (Token.literal text).text
  | some (.regex body) => (Token.regex body).text
  | some t => "'" ++ t.text ++ "'"

def foundText (e : ParseError) : String :=
  describeFound e.found

def message (e : ParseError) : String :=
  match e.fault with
  | .unexpected =>
      let expected := String.intercalate ", " (e.expected.map Expectation.text)
      match e.expected with
      | [] => "unexpected " ++ e.foundText
      | [_] => "unexpected " ++ e.foundText ++ ", expected " ++ expected
      | _ => "unexpected " ++ e.foundText ++ ", expected one of " ++ expected
  | .invertedBounds min max =>
      "invalid repetition range \x7b" ++ toString min.toNat ++ ".." ++ toString max.toNat
        ++ "\x7d: upper bound is below lower bound"
  | .mixedLiterals =>
      "literal choice mixes alternatives ending in a word character with alternatives that do not"

end ParseError
end GrammarText
