import GrammarText.Lexer
import GrammarText.Parser
import GrammarText.Quantifier

namespace GrammarText
namespace Quantifier

open GrammarText.Parser

def integer : Parser UInt32 :=
  token .integer fun
    | .integer value => some value
    | _ => none

/-- Bounds as they are written: a lower one, and behind two dots perhaps an upper one. -/
def bounds : Parser (UInt32 × Option (Option UInt32)) :=
  after (mark .openBrace)
    (before (both integer (Parser.optional (after (mark .range) (Parser.optional integer))))
      (mark .closeBrace))

/-- The quantifier for bounds as they are written. -/
def ofWritten : UInt32 × Option (Option UInt32) → Span → Except ParseError Quantifier
  | (count, none), _ => .ok (exactly count)
  | (min, some none), _ => .ok (atLeast min)
  | (min, some (some max)), span =>
      match between? min max with
      | some q => .ok q
      | none => .error (.invertedBounds span min max)

/-- One quantifier in any of its spellings. -/
def parser : Parser Quantifier :=
  labelled .quantifier
    (firstOf (map (fun _ => optional) (mark .question))
      [map (fun _ => zeroOrMore) (mark .star),
       map (fun _ => oneOrMore) (mark .plus),
       checked ofWritten bounds])

/-- Reads a text that holds a quantifier or nothing.  It reports one error, as the type says: the
first lexical error stands for all of them, and a run of the parser has no second one. -/
def resolve (text : String) : Except ParseError (Option Quantifier) :=
  let lexed := tokenize text
  match lexed.errors with
  | e :: _ => .error (.unexpected e.span [.quantifier] none)
  | [] =>
      run (before (Parser.optional parser) endOfInput) (Text.byteLength text.toList) lexed.tokens

end Quantifier
end GrammarText
