import GrammarText.Declaration
import GrammarText.Pattern.Printer
import GrammarText.Span

namespace GrammarText
namespace RuleLeaf

/-- A token pattern inside a rule keeps its own parentheses unless it is a single leaf. -/
def text : RuleLeaf → String
  | ref name => name
  | token pattern => Expr.parenthesized (pattern.looserThan .term) pattern.print

def endsInLiteral : RuleLeaf → Bool
  | token (.leaf leaf) => leaf.endsInLiteral
  | _ => false

end RuleLeaf

instance : LeafText RuleLeaf where
  text := RuleLeaf.text
  endsInLiteral := RuleLeaf.endsInLiteral

namespace Declaration

def print : Declaration → String
  | token name pattern => name ++ " : " ++ pattern.print ++ " ;"
  | rule name body => name ++ " : " ++ body.print ++ " ;"
  | main none body => "$main : " ++ body.print ++ " ;"
  | main (some name) body => "$main " ++ name ++ " : " ++ body.print ++ " ;"
  | skip strategy body =>
      "$skip" ++ String.join (strategy.words.map (" " ++ ·)) ++ " : " ++ body.print ++ " ;"

/-- Whether the declaration gives a token a builtin meaning, which has no spelling. -/
def isBuiltin : Declaration → Bool
  | token _ (.leaf (.builtin _)) => true
  | _ => false

/-- Every declaration that has a spelling, one to a line. -/
def printAll (declarations : List Declaration) : String :=
  String.join ((declarations.filter (!·.isBuiltin)).map (·.print ++ "\n"))

end Declaration

/-- A declaration with the range it was read from. -/
def Spanned.printDeclaration (d : Spanned Declaration) : String :=
  d.node.print ++ " @ " ++ d.span.text

end GrammarText
