/-
The layers between a term and a whole expression, tightest first: a term, terms with separators
between them, at most one quantifier behind that, a sequence of those, and alternatives.
-/
import GrammarText.Expr
import GrammarText.Quantifier.Parser

namespace GrammarText
namespace Expr

open GrammarText.Parser

variable {Leaf : Type}

/-- A term, and any number of separators with their quantifiers, folded from the left. -/
def separatedParser (term : Parser (Expr Leaf)) : Parser (Expr Leaf) :=
  map (fun (first, others) => others.foldl (fun e (s, q) => separated e s q) first)
    (both term (many (both (after (mark .percent) term) Quantifier.parser)))

def quantifiedParser (term : Parser (Expr Leaf)) : Parser (Expr Leaf) :=
  map (fun (e, suffix) =>
      match suffix with
      | some q => quantified e q
      | none => e)
    (both (separatedParser term) (Parser.optional Quantifier.parser))

def sequenceParser (term : Parser (Expr Leaf)) : Parser (Expr Leaf) :=
  map sequenceOf (many1 (quantifiedParser term))

/-- A whole expression over terms. -/
def layers (term : Parser (Expr Leaf)) : Parser (Expr Leaf) :=
  map (fun (first, others) => choiceOf (first :: others))
    (both (sequenceParser term) (many (after (mark .bar) (sequenceParser term))))

/-- An expression in parentheses. -/
def group (inner : Parser (Expr Leaf)) : Parser (Expr Leaf) :=
  after (mark .openParen) (before inner (mark .closeParen))

/-- Where parentheses nest deeper than a parser was made for. -/
def tooDeep : Parser (Expr Leaf) := fun stop tokens =>
  .failed ⟨tokens.length, .unexpected ⟨stop, stop⟩ [] none⟩

end Expr
end GrammarText
