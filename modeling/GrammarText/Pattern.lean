import GrammarText.Expr
import GrammarText.Text.Word

namespace GrammarText

/-- The numeric shapes that a token pattern may ask for. -/
inductive NumberKind where
  | integer
  | float
  | double
  deriving Repr, DecidableEq

/-- The word that selects the shape. -/
def NumberKind.word : NumberKind → String
  | integer => "int"
  | float => "float"
  | double => "double"

/-- Tokens that a grammar may use without declaring them. -/
inductive Builtin where
  /-- The end of the input. -/
  | eof
  /-- A run of any whitespace. -/
  | whitespaces
  /-- A run of spaces and tabs. -/
  | spaces
  /-- A single line break. -/
  | newline
  deriving Repr, DecidableEq

namespace Builtin

def all : List Builtin :=
  [eof, whitespaces, spaces, newline]

/-- The token name the builtin is declared under. -/
def tokenName : Builtin → String
  | eof => "EOF"
  | whitespaces => "WS"
  | spaces => "SPACES"
  | newline => "NEWLINE"

end Builtin

/-- The atoms of token patterns. -/
inductive PatternLeaf where
  /-- A token declared elsewhere. -/
  | ref (name : String)
  | literal (text : String)
  | literalChoice (texts : List String)
  /-- Exact text that no word character may follow. -/
  | keyword (text : String)
  | keywordChoice (texts : List String)
  | identifier
  | number (kind : NumberKind)
  | regex (body : String)
  | builtin (token : Builtin)
  deriving Repr, DecidableEq

/-- Token patterns. -/
abbrev Pattern : Type := Expr PatternLeaf

/--
The leaf for a run of quoted alternatives.  They are keywords if all of them end in a word
character and plain literals if none does; a run that mixes the two has no leaf.
-/
def PatternLeaf.ofLiterals? (texts : List String) : Option PatternLeaf :=
  if !texts.isEmpty && texts.all Text.endsInWord then
    match texts with
    | [text] => some (.keyword text)
    | _ => some (.keywordChoice texts)
  else if texts.all (!Text.endsInWord ·) then
    match texts with
    | [text] => some (.literal text)
    | _ => some (.literalChoice texts)
  else
    none

end GrammarText
