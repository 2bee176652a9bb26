import GrammarText.Expr.Printer
import GrammarText.Pattern
import GrammarText.Text.Delimited

namespace GrammarText
namespace PatternLeaf

/-- Quoted literals with bars between them. -/
def quotedRun (texts : List String) : String :=
  String.intercalate " | " (texts.map Text.Quoted.encode)

/--
A keyword that ends in a word character prints as a bare literal, which reads back as a keyword.
Other keywords need the word for them.  A builtin has no spelling and prints as a remark.
-/
def text : PatternLeaf → String
  | ref name => name
  | literal text => Text.Quoted.encode text
  | literalChoice texts => quotedRun texts
  | keyword text =>
      if Text.endsInWord text then Text.Quoted.encode text
      else "$keyword " ++ Text.Quoted.encode text
  | keywordChoice texts =>
      if texts.length > 1 && texts.all Text.endsInWord then quotedRun texts
      else "$keyword choice " ++ quotedRun texts
  | identifier => "$identifier"
  | number kind => "$number " ++ kind.word
  | regex body => Text.Slashed.encode body
  | builtin token => "<builtin " ++ token.tokenName ++ ">"

def endsInLiteral : PatternLeaf → Bool
  | literal _ => true
  | literalChoice _ => true
  | keyword _ => true
  | keywordChoice _ => true
  | _ => false

end PatternLeaf

instance : LeafText PatternLeaf where
  text := PatternLeaf.text
  endsInLiteral := PatternLeaf.endsInLiteral

end GrammarText
