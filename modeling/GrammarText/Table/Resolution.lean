/-
Resolution of a table: every name is claimed once, there is a main rule, every reference names a
declaration, and the regex engine takes every regex.  Whether rules refer to each other in circles
is not looked at.
-/
import GrammarText.Table

namespace GrammarText

/-- What a regex engine says of the body of a regex: why it does not take it, or nothing.  Which
bodies are well formed and within its limits is for the engine to say. -/
abbrev RegexCheck : Type :=
  String → Option String

inductive ResolveError where
  | duplicateToken (name : String)
  | duplicateRule (name : String)
  | mainNameClash (name : String)
  | duplicateMain
  | duplicateSkip
  | missingMain
  | undefinedToken (name owner : String)
  | undefinedRule (name owner : String)
  | invalidRegex (body reason : String)
  deriving Repr, DecidableEq

namespace ResolveError

def ofConflict : Conflict → ResolveError
  | .token name => duplicateToken name
  | .rule name => duplicateRule name
  | .mainName name => mainNameClash name
  | .main => duplicateMain
  | .skip => duplicateSkip

def message : ResolveError → String
  | duplicateToken name => "token " ++ name ++ " is declared more than once"
  | duplicateRule name => "rule " ++ name ++ " is declared more than once"
  | mainNameClash name => "$main " ++ name ++ " clashes with a rule of the same name"
  | duplicateMain => "more than one $main declaration"
  | duplicateSkip => "more than one $skip declaration"
  | missingMain => "no $main declaration"
  | undefinedToken name owner => "undefined token " ++ name ++ " referenced by " ++ owner
  | undefinedRule name owner => "undefined rule " ++ name ++ " referenced by " ++ owner
  | invalidRegex body reason => "invalid regex /" ++ body ++ "/: " ++ reason

end ResolveError

namespace Table

/-- The errors of one leaf of a token pattern. -/
def patternLeafErrors (t : Table) (check : RegexCheck) (owner : String) :
    PatternLeaf → List ResolveError
  | .ref name => if t.hasToken name then [] else [.undefinedToken name owner]
  | .regex body => ((check body).map (.invalidRegex body)).toList
  | _ => []

def patternErrors (t : Table) (check : RegexCheck) (owner : String) (pattern : Pattern) :
    List ResolveError :=
  pattern.leaves.flatMap (t.patternLeafErrors check owner)

/-- The errors of one leaf of a rule. -/
def ruleLeafErrors (t : Table) (check : RegexCheck) (owner : String) :
    RuleLeaf → List ResolveError
  | .ref name => if t.hasRule name then [] else [.undefinedRule name owner]
  | .token pattern => t.patternErrors check owner pattern

def ruleErrors (t : Table) (check : RegexCheck) (owner : String) (rule : Rule) :
    List ResolveError :=
  rule.leaves.flatMap (t.ruleLeafErrors check owner)

/-- The errors inside a declaration, in source order. -/
def declarationErrors (t : Table) (check : RegexCheck) (d : Declaration) : List ResolveError :=
  match d with
  | .token _ pattern => t.patternErrors check d.describe pattern
  | .rule _ body => t.ruleErrors check d.describe body
  | .main _ body => t.ruleErrors check d.describe body
  | .skip _ body => t.ruleErrors check d.describe body

/-- Everything that keeps the table from being a grammar, where the regexes are for an engine with
such a check. -/
def resolveWith (t : Table) (check : RegexCheck) : List ResolveError :=
  t.conflicts.map ResolveError.ofConflict
    ++ (if t.main?.isNone then [.missingMain] else [])
    ++ t.declarations.flatMap (t.declarationErrors check)

end Table
end GrammarText
