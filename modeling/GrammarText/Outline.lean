/-
Values as programmers read them: the name of each constructor with its arguments, and texts in
quotes with their odd characters escaped.  An outline is written on one line or with one item to
a line.
-/
import GrammarText.Table.Resolution
import GrammarText.Text.Printable

namespace GrammarText

inductive Outline where
  /-- A constructor without arguments, or a number. -/
  | bare (name : String)
  | text (value : String)
  /-- A constructor with arguments by their places. -/
  | applied (name : String) (arguments : List Outline)
  /-- A constructor with named arguments. -/
  | labelled (name : String) (fields : List (String × Outline))
  | list (items : List Outline)

namespace Outline

mutual

/-- On one line. -/
def compact : Outline → String
  | bare name => name
  | text value => Text.visibleQuote value
  | applied name arguments => name ++ "(" ++ compactItems arguments ++ ")"
  | labelled name fields => name ++ " \x7b " ++ compactFields fields ++ " \x7d"
  | list items => "[" ++ compactItems items ++ "]"

def compactItems : List Outline → String
  | [] => ""
  | [item] => item.compact
  | item :: rest => item.compact ++ ", " ++ compactItems rest

def compactFields : List (String × Outline) → String
  | [] => ""
  | [(name, value)] => name ++ ": " ++ value.compact
  | (name, value) :: rest => name ++ ": " ++ value.compact ++ ", " ++ compactFields rest

end

def indent (depth : Nat) : String :=
  "".pushn ' ' (4 * depth)

mutual

/-- With one argument, field or item to a line, and a comma behind each. -/
def tall (depth : Nat) : Outline → String
  | bare name => name
  | text value => Text.visibleQuote value
  | applied name arguments =>
      name ++ "(\n" ++ tallItems (depth + 1) arguments ++ indent depth ++ ")"
  | labelled name fields =>
      name ++ " \x7b\n" ++ tallFields (depth + 1) fields ++ indent depth ++ "\x7d"
  | list [] => "[]"
  | list items => "[\n" ++ tallItems (depth + 1) items ++ indent depth ++ "]"

def tallItems (depth : Nat) : List Outline → String
  | [] => ""
  | item :: rest => indent depth ++ item.tall depth ++ ",\n" ++ tallItems depth rest

def tallFields (depth : Nat) : List (String × Outline) → String
  | [] => ""
  | (name, value) :: rest =>
      indent depth ++ name ++ ": " ++ value.tall depth ++ ",\n" ++ tallFields depth rest

end

def number (n : Nat) : Outline :=
  bare (toString n)

def option {α : Type} (outline : α → Outline) : Option α → Outline
  | none => bare "None"
  | some value => applied "Some" [outline value]

def texts (values : List String) : Outline :=
  list (values.map text)

end Outline

def Quantifier.outline (q : Quantifier) : Outline :=
  .labelled "Quantifier" [
    ("min", .number q.min.toNat),
    ("max", .option (fun max => .number max.toNat) q.max)]

class LeafOutline (Leaf : Type) where
  outline : Leaf → Outline

namespace Expr

variable {Leaf : Type} [LeafOutline Leaf]

mutual

def outline : Expr Leaf → Outline
  | leaf value => LeafOutline.outline value
  | sequence items => .applied "Sequence" [.list (outlineList items)]
  | choice items => .applied "Choice" [.list (outlineList items)]
  | optional child => .applied "Optional" [child.outline]
  | repeated child q =>
      .labelled "Repeat" [("child", child.outline), ("quantifier", q.outline)]
  | separated child separator q =>
      .labelled "SeparatedRepeat" [("child", child.outline), ("separator", separator.outline),
        ("quantifier", q.outline)]

def outlineList : List (Expr Leaf) → List Outline
  | [] => []
  | item :: rest => item.outline :: outlineList rest

end

end Expr

def NumberKind.outline : NumberKind → Outline
  | integer => .bare "Integer"
  | float => .bare "Float"
  | double => .bare "Double"

def Builtin.outline : Builtin → Outline
  | eof => .bare "Eof"
  | whitespaces => .bare "Whitespaces"
  | spaces => .bare "Spaces"
  | newline => .bare "Newline"

/-- A token's name. -/
def Outline.tokenName (name : String) : Outline :=
  .applied "TokenName" [.text name]

/-- A rule's name. -/
def Outline.ruleName (name : String) : Outline :=
  .applied "RuleName" [.text name]

def PatternLeaf.outline : PatternLeaf → Outline
  | ref name => .applied "Ref" [.tokenName name]
  | literal text => .applied "Literal" [.text text]
  | literalChoice texts => .applied "LiteralChoice" [.texts texts]
  | keyword text => .applied "Keyword" [.text text]
  | keywordChoice texts => .applied "KeywordChoice" [.texts texts]
  | identifier => .bare "Identifier"
  | number kind => .applied "Number" [kind.outline]
  | regex body => .applied "Regex" [.text body]
  | builtin token => .applied "Builtin" [token.outline]

instance : LeafOutline PatternLeaf where
  outline := PatternLeaf.outline

def RuleLeaf.outline : RuleLeaf → Outline
  | ref name => .applied "Ref" [.ruleName name]
  | token pattern => .applied "Token" [pattern.outline]

instance : LeafOutline RuleLeaf where
  outline := RuleLeaf.outline

def SkipStrategy.outline : SkipStrategy → Outline
  | beforeGreedy => .bare "SkipBeforeGreedy"
  | beforeLazy => .bare "SkipBeforeLazy"
  | before => .bare "SkipBefore"
  | afterGreedy => .bare "SkipAfterGreedy"
  | afterLazy => .bare "SkipAfterLazy"
  | after => .bare "SkipAfter"

def Declaration.outline : Declaration → Outline
  | token name pattern =>
      .labelled "Token" [("name", .tokenName name), ("pattern", pattern.outline)]
  | rule name body => .labelled "Rule" [("name", .ruleName name), ("rule", body.outline)]
  | main name body =>
      .labelled "Main" [("name", .option .ruleName name), ("rule", body.outline)]
  | skip strategy body =>
      .labelled "Skip" [("strategy", strategy.outline), ("rule", body.outline)]

def ResolveError.outline : ResolveError → Outline
  | duplicateToken name => .labelled "DuplicateToken" [("name", .text name)]
  | duplicateRule name => .labelled "DuplicateRule" [("name", .text name)]
  | mainNameClash name => .labelled "MainNameClash" [("name", .text name)]
  | duplicateMain => .bare "DuplicateMain"
  | duplicateSkip => .bare "DuplicateSkip"
  | missingMain => .bare "MissingMain"
  | undefinedToken name owner =>
      .labelled "UndefinedToken" [("name", .text name), ("referenced_by", .text owner)]
  | undefinedRule name owner =>
      .labelled "UndefinedRule" [("name", .text name), ("referenced_by", .text owner)]
  | invalidRegex body reason =>
      .labelled "InvalidRegex" [("pattern", .text body), ("message", .text reason)]

end GrammarText
