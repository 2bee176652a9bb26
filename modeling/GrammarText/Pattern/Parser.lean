import GrammarText.Expr.Parser
import GrammarText.Pattern

namespace GrammarText
namespace Pattern

open GrammarText.Parser

/-- A word with a meaning of its own at this place. -/
def word (w : Word) : Parser Unit :=
  labelled (.word w) (exactly (.word w) (.ruleName w.text))

def tokenName : Parser String :=
  token .tokenName fun
    | .tokenName name => some name
    | _ => none

def literal : Parser String :=
  token .literal fun
    | .literal text => some text
    | _ => none

def regex : Parser String :=
  token .regex fun
    | .regex body => some body
    | _ => none

/-- Literals with bars between them, as many as there are. -/
def literalRun : Parser (List String) :=
  map (fun (first, others) => first :: others)
    (both literal (many (after (mark .bar) literal)))

/-- A run of literals, which are keywords or plain literals together. -/
def literalChoice : Parser PatternLeaf :=
  checked (fun texts span =>
      match PatternLeaf.ofLiterals? texts with
      | some leaf => .ok leaf
      | none => .error (.mixedLiterals span))
    literalRun

/-- What may stand behind the word for keywords. -/
def keyword : Parser PatternLeaf :=
  firstOf (map PatternLeaf.keywordChoice (after (word .choice) literalRun))
    [map PatternLeaf.keyword literal]

def numberKind : Parser NumberKind :=
  firstOf (map (fun _ => NumberKind.integer) (word .int))
    [map (fun _ => NumberKind.float) (word .float),
     map (fun _ => NumberKind.double) (word .double)]

/-- The leaves that start with a dollar sign. -/
def directive : Parser PatternLeaf :=
  after (mark .dollar)
    (firstOf (map (fun _ => PatternLeaf.identifier) (word .identifier))
      [after (word .keyword) keyword,
       after (word .number) (map PatternLeaf.number numberKind)])

/-- The forms of a token term, given what stands inside parentheses. -/
def termForms (inner : Parser Pattern) : Parser Pattern :=
  firstOf (Expr.group inner)
    [map (fun name => .leaf (.ref name)) tokenName,
     map .leaf directive,
     map (fun body => .leaf (.regex body)) regex,
     map .leaf literalChoice]

/-- Token expressions with parentheses nested at most so deep. -/
def nested : Nat → Parser Pattern
  | 0 => Expr.tooDeep
  | depth + 1 => Expr.layers (labelled .tokenExpression (termForms (nested depth)))

/-- A token expression.  No text nests deeper than it has tokens. -/
def parser : Parser Pattern := fun stop tokens =>
  nested (tokens.length + 1) stop tokens

end Pattern
end GrammarText
