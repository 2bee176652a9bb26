/-
Rules and declarations.
-/
import GrammarText.Pattern

namespace GrammarText

/-- The atoms of rules. -/
inductive RuleLeaf where
  /-- A rule declared elsewhere. -/
  | ref (name : String)
  /-- A token pattern in the place of a rule. -/
  | token (pattern : Pattern)
  deriving DecidableEq

/-- Rules. -/
abbrev Rule : Type := Expr RuleLeaf

/-- The token patterns inside a rule, from left to right. -/
def Expr.tokenLeaves (rule : Rule) : List Pattern :=
  rule.leaves.filterMap fun
    | .token pattern => some pattern
    | .ref _ => none

/-- How insignificant input is skipped around a match. -/
inductive SkipStrategy where
  | beforeGreedy
  | beforeLazy
  | before
  | afterGreedy
  | afterLazy
  | after
  deriving Repr, DecidableEq

/-- The words that select a strategy.  The default has none. -/
def SkipStrategy.words : SkipStrategy → List String
  | beforeGreedy => ["before", "greedy"]
  | beforeLazy => ["before", "lazy"]
  | before => []
  | afterGreedy => ["after", "greedy"]
  | afterLazy => ["after", "lazy"]
  | after => ["after"]

inductive Declaration where
  | token (name : String) (pattern : Pattern)
  | rule (name : String) (body : Rule)
  /-- The main rule.  Its name is optional. -/
  | main (name : Option String) (body : Rule)
  | skip (strategy : SkipStrategy) (body : Rule)
  deriving DecidableEq

/-- A short description for people. -/
def Declaration.describe : Declaration → String
  | token name _ => "token " ++ name
  | rule name _ => "rule " ++ name
  | main (some name) _ => "$main " ++ name
  | main none _ => "$main"
  | skip _ _ => "$skip"

end GrammarText
