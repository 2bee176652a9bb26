/-
Declarations as structured data.  Nodes of expressions name their kind and carry the rest under
`value`, and declarations name theirs among their other fields.
-/
import GrammarText.Data
import GrammarText.Table

namespace GrammarText

def Quantifier.toData (q : Quantifier) : Data :=
  .record [
    ("min", .number q.min.toNat),
    ("max", match q.max with
      | none => .null
      | some max => .number max.toNat)]

/-- A node of a kind that has nothing else to it. -/
def Data.kind (name : String) : Data :=
  .record [("kind", .text name)]

/-- A node of a kind, with the rest of it. -/
def Data.node (name : String) (value : Data) : Data :=
  .record [("kind", .text name), ("value", value)]

class LeafData (Leaf : Type) where
  toData : Leaf → Data

namespace Expr

variable {Leaf : Type} [LeafData Leaf]

mutual

def toData : Expr Leaf → Data
  | leaf value => LeafData.toData value
  | sequence items => .node "sequence" (.list (toDataList items))
  | choice items => .node "choice" (.list (toDataList items))
  | optional child => .node "optional" child.toData
  | repeated child q =>
      .node "repeat" (.record [("child", child.toData), ("quantifier", q.toData)])
  | separated child separator q =>
      .node "separated_repeat"
        (.record [("child", child.toData), ("separator", separator.toData),
          ("quantifier", q.toData)])

def toDataList : List (Expr Leaf) → List Data
  | [] => []
  | item :: rest => item.toData :: toDataList rest

end

end Expr

def NumberKind.dataName : NumberKind → String
  | integer => "integer"
  | float => "float"
  | double => "double"

def Builtin.dataName : Builtin → String
  | eof => "eof"
  | whitespaces => "whitespaces"
  | spaces => "spaces"
  | newline => "newline"

def PatternLeaf.toData : PatternLeaf → Data
  | ref name => .node "ref" (.text name)
  | literal text => .node "literal" (.text text)
  | literalChoice texts => .node "literal_choice" (.list (texts.map .text))
  | keyword text => .node "keyword" (.text text)
  | keywordChoice texts => .node "keyword_choice" (.list (texts.map .text))
  | identifier => .kind "identifier"
  | number kind => .node "number" (.text kind.dataName)
  | regex body => .node "regex" (.text body)
  | builtin token => .node "builtin" (.text token.dataName)

instance : LeafData PatternLeaf where
  toData := PatternLeaf.toData

def RuleLeaf.toData : RuleLeaf → Data
  | ref name => .node "ref" (.text name)
  | token pattern => .node "token" pattern.toData

instance : LeafData RuleLeaf where
  toData := RuleLeaf.toData

def SkipStrategy.dataName : SkipStrategy → String
  | beforeGreedy => "skip-before-greedy"
  | beforeLazy => "skip-before-lazy"
  | before => "skip-before"
  | afterGreedy => "skip-after-greedy"
  | afterLazy => "skip-after-lazy"
  | after => "skip-after"

def Declaration.toData : Declaration → Data
  | token name pattern =>
      .record [("declaration", .text "token"), ("name", .text name),
        ("pattern", pattern.toData)]
  | rule name body =>
      .record [("declaration", .text "rule"), ("name", .text name), ("rule", body.toData)]
  | main name body =>
      .record [("declaration", .text "main"),
        ("name", match name with
          | none => .null
          | some name => .text name),
        ("rule", body.toData)]
  | skip strategy body =>
      .record [("declaration", .text "skip"), ("strategy", .text strategy.dataName),
        ("rule", body.toData)]

/-- Of a table only the declarations are data.  The rest follows from them. -/
def Table.toData (t : Table) : Data :=
  .record [("declarations", .list (t.declarations.map Declaration.toData))]

end GrammarText
