import GrammarText.Span
import GrammarText.Text.Escaped

namespace GrammarText

/-- Punctuation marks. -/
inductive Mark where
  | colon
  | semicolon
  | bar
  | percent
  | openParen
  | closeParen
  | question
  | star
  | plus
  | openBrace
  | closeBrace
  | range
  | dollar
  deriving Repr, DecidableEq

namespace Mark

def text : Mark → String
  | colon => ":"
  | semicolon => ";"
  | bar => "|"
  | percent => "%"
  | openParen => "("
  | closeParen => ")"
  | question => "?"
  | star => "*"
  | plus => "+"
  | openBrace => "\x7b"
  | closeBrace => "\x7d"
  | range => ".."
  | dollar => "$"

def all : List Mark :=
  [colon, semicolon, bar, percent, openParen, closeParen, question, star, plus, openBrace,
    closeBrace, range, dollar]

/-- The marks of one character.  The range mark, of two, is not among them. -/
def ofChar? : Char → Option Mark
  | ':' => some colon
  | ';' => some semicolon
  | '|' => some bar
  | '%' => some percent
  | '(' => some openParen
  | ')' => some closeParen
  | '?' => some question
  | '*' => some star
  | '+' => some plus
  | '{' => some openBrace
  | '}' => some closeBrace
  | '$' => some dollar
  | _ => none

end Mark

/--
A token.  Names that start with an uppercase letter name tokens of the grammar, the others rules.
There are no reserved words: the words behind `$` are rule names here.  Literals and regexes are
held decoded.
-/
inductive Token where
  | tokenName (name : String)
  | ruleName (name : String)
  | literal (text : String)
  | regex (body : String)
  | integer (value : UInt32)
  | mark (mark : Mark)
  deriving Repr, DecidableEq

/-- The token as messages show it. -/
def Token.text : Token → String
  | tokenName name => name
  | ruleName name => name
  | literal text => "'" ++ Text.asciiEscaped text ++ "'"
  | regex body => "/" ++ body ++ "/"
  | integer value => toString value.toNat
  | mark m => m.text

/-- A token with the range of its source text. -/
abbrev Lexeme : Type := Spanned Token

end GrammarText
