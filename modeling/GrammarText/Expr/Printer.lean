/-
Printing expressions with the fewest parentheses.  A node is put in parentheses where its parts
would otherwise bind to what stands around them.  The bar needs one case more: it also joins the
alternatives of a quoted literal, so an alternative that ends in a literal is put in parentheses
unless it is the last one.
-/
import GrammarText.Expr

namespace GrammarText

/-- How a leaf prints, and whether its text ends in a quoted literal. -/
class LeafText (Leaf : Type) where
  text : Leaf → String
  endsInLiteral : Leaf → Bool

/-- Binding strength, loosest first. -/
inductive Level where
  | choice
  | sequence
  | quantified
  | separated
  | term
  deriving Repr, DecidableEq

def Level.rank : Level → Nat
  | choice => 0
  | sequence => 1
  | quantified => 2
  | separated => 3
  | term => 4

namespace Expr

variable {Leaf : Type}

def level : Expr Leaf → Level
  | leaf _ => .term
  | sequence _ => .sequence
  | choice _ => .choice
  | optional _ => .quantified
  | repeated _ _ => .quantified
  | separated _ _ _ => .separated

variable [LeafText Leaf]

/--
Whether the printed text ends in a quoted literal, to which a bar behind it would add an
alternative.
-/
def endsInLiteral : Expr Leaf → Bool
  | leaf value => LeafText.endsInLiteral value
  | sequence items =>
      match items.getLast? with
      | some (leaf value) => LeafText.endsInLiteral value
      | _ => false
  | _ => false

/-- Puts a text in parentheses on a condition. -/
def parenthesized (needed : Bool) (text : String) : String :=
  if needed then "(" ++ text ++ ")" else text

/-- Whether a node is too loose for a place that wants a certain strength. -/
def looserThan (e : Expr Leaf) (wanted : Level) : Bool :=
  e.level.rank < wanted.rank

mutual

def print : Expr Leaf → String
  | leaf value => LeafText.text value
  | sequence items => printSequence items
  | choice items => printChoice items
  | optional child =>
      parenthesized (child.looserThan .separated) child.print ++ "?"
  | repeated child q =>
      parenthesized (child.looserThan .separated) child.print ++ q.text
  | separated child separator q =>
      parenthesized (child.looserThan .separated) child.print ++ " % "
        ++ parenthesized (separator.looserThan .term) separator.print ++ q.text

/-- Elements, with a space between two of them. -/
def printSequence : List (Expr Leaf) → String
  | [] => ""
  | [item] => parenthesized (item.looserThan .quantified) item.print
  | item :: rest =>
      parenthesized (item.looserThan .quantified) item.print ++ " " ++ printSequence rest

/-- Alternatives, with a bar between two of them. -/
def printChoice : List (Expr Leaf) → String
  | [] => ""
  | [item] => parenthesized (item.looserThan .sequence) item.print
  | item :: rest =>
      parenthesized (item.endsInLiteral || item.looserThan .sequence) item.print
        ++ " | " ++ printChoice rest

end

end Expr
end GrammarText
