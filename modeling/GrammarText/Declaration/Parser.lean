import GrammarText.Declaration
import GrammarText.Pattern.Parser

namespace GrammarText
namespace Rule

open GrammarText.Parser

def ruleName : Parser String :=
  token .ruleName fun
    | .ruleName name => some name
    | _ => none

/--
The forms of a rule term, given what stands inside parentheses.  A group is read as a rule first.
Any token term is a rule term too.
-/
def term (inner : Parser Rule) : Parser Rule :=
  labelled .ruleExpression
    (firstOf (Expr.group inner)
      [map (fun name => .leaf (.ref name)) ruleName,
       map (fun pattern => .leaf (.token pattern)) (Pattern.termForms Pattern.parser)])

/-- Rule expressions with parentheses nested at most so deep. -/
def nested : Nat → Parser Rule
  | 0 => Expr.tooDeep
  | depth + 1 => Expr.layers (term (nested depth))

/-- A rule expression.  No text nests deeper than it has tokens. -/
def parser : Parser Rule := fun stop tokens =>
  nested (tokens.length + 1) stop tokens

end Rule

namespace Declaration

open GrammarText.Parser

/-- What stands before the colon of a rule. -/
inductive Header where
  | main (name : Option String)
  | skip (strategy : SkipStrategy)
  | named (name : String)
  deriving Repr, DecidableEq

def Header.declare : Header → Rule → Declaration
  | main name, body => .main name body
  | skip strategy, body => .skip strategy body
  | named name, body => .rule name body

/-- Whether skipping comes before a match.  Else it comes after. -/
def side : Parser Bool :=
  firstOf (map (fun _ => true) (Pattern.word .before))
    [map (fun _ => false) (Pattern.word .after)]

/-- Whether skipping is greedy.  Else it is lazy. -/
def greed : Parser Bool :=
  firstOf (map (fun _ => true) (Pattern.word .greedy))
    [map (fun _ => false) (Pattern.word .lazy)]

def strategyOf : Option (Bool × Option Bool) → SkipStrategy
  | none => .before
  | some (true, none) => .before
  | some (true, some true) => .beforeGreedy
  | some (true, some false) => .beforeLazy
  | some (false, none) => .after
  | some (false, some true) => .afterGreedy
  | some (false, some false) => .afterLazy

/-- The words of a skip strategy, or nothing for the default. -/
def skipStrategy : Parser SkipStrategy :=
  map strategyOf (optional (both side (optional greed)))

def header : Parser Header :=
  firstOf
    (after (mark .dollar)
      (firstOf (after (Pattern.word .main) (map Header.main (optional Rule.ruleName)))
        [after (Pattern.word .skip) (map Header.skip skipStrategy)]))
    [map Header.named Rule.ruleName]

def tokenParser : Parser Declaration :=
  map (fun (name, pattern) => Declaration.token name pattern)
    (before (both (before Pattern.tokenName (mark .colon)) Pattern.parser) (mark .semicolon))

def ruleParser : Parser Declaration :=
  map (fun (h, body) => h.declare body)
    (before (both (before header (mark .colon)) Rule.parser) (mark .semicolon))

/-- A declaration of either kind. -/
def parser : Parser (Spanned Declaration) :=
  spanned (firstOf tokenParser [ruleParser])

end Declaration

end GrammarText
