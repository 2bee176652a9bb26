/-
Expressions over leaves of any kind.  Token patterns and rules compose in the same five ways and
differ in their leaves alone, so what holds of the composition is said here once for both.
-/
import GrammarText.Quantifier

namespace GrammarText

inductive Expr (Leaf : Type) where
  | leaf (value : Leaf)
  | sequence (items : List (Expr Leaf))
  | choice (items : List (Expr Leaf))
  | optional (child : Expr Leaf)
  | repeated (child : Expr Leaf) (quantifier : Quantifier)
  | separated (child : Expr Leaf) (separator : Expr Leaf) (quantifier : Quantifier)

namespace Expr

variable {Leaf : Type}

mutual

/-- Equality of expressions is decided node by node. -/
def decEq [DecidableEq Leaf] : (a b : Expr Leaf) → Decidable (a = b)
  | leaf a, leaf b => decidable_of_iff (a = b) (by simp)
  | sequence a, sequence b =>
      match decEqList a b with
      | isTrue h => isTrue (h ▸ rfl)
      | isFalse h => isFalse fun he => h (by injection he)
  | choice a, choice b =>
      match decEqList a b with
      | isTrue h => isTrue (h ▸ rfl)
      | isFalse h => isFalse fun he => h (by injection he)
  | optional a, optional b =>
      match decEq a b with
      | isTrue h => isTrue (h ▸ rfl)
      | isFalse h => isFalse fun he => h (by injection he)
  | repeated a q, repeated b r =>
      match decEq a b, (inferInstance : Decidable (q = r)) with
      | isTrue h, isTrue hq => isTrue (h ▸ hq ▸ rfl)
      | isFalse h, _ => isFalse fun he => h (by injection he)
      | _, isFalse h => isFalse fun he => h (by injection he)
  | separated a s q, separated b t r =>
      match decEq a b, decEq s t, (inferInstance : Decidable (q = r)) with
      | isTrue h, isTrue hs, isTrue hq => isTrue (h ▸ hs ▸ hq ▸ rfl)
      | isFalse h, _, _ => isFalse fun he => h (by injection he)
      | _, isFalse h, _ => isFalse fun he => h (by injection he)
      | _, _, isFalse h => isFalse fun he => h (by injection he)
  | leaf _, sequence _ | leaf _, choice _ | leaf _, optional _ | leaf _, repeated _ _
  | leaf _, separated _ _ _ | sequence _, leaf _ | sequence _, choice _ | sequence _, optional _
  | sequence _, repeated _ _ | sequence _, separated _ _ _ | choice _, leaf _
  | choice _, sequence _ | choice _, optional _ | choice _, repeated _ _
  | choice _, separated _ _ _ | optional _, leaf _ | optional _, sequence _
  | optional _, choice _ | optional _, repeated _ _ | optional _, separated _ _ _
  | repeated _ _, leaf _ | repeated _ _, sequence _ | repeated _ _, choice _
  | repeated _ _, optional _ | repeated _ _, separated _ _ _ | separated _ _ _, leaf _
  | separated _ _ _, sequence _ | separated _ _ _, choice _ | separated _ _ _, optional _
  | separated _ _ _, repeated _ _ => isFalse fun h => nomatch h

def decEqList [DecidableEq Leaf] : (a b : List (Expr Leaf)) → Decidable (a = b)
  | [], [] => isTrue rfl
  | [], _ :: _ | _ :: _, [] => isFalse fun h => nomatch h
  | a :: as, b :: bs =>
      match decEq a b, decEqList as bs with
      | isTrue h, isTrue hs => isTrue (h ▸ hs ▸ rfl)
      | isFalse h, _ => isFalse fun he => h (by injection he)
      | _, isFalse h => isFalse fun he => h (by injection he)

end

instance [DecidableEq Leaf] : DecidableEq (Expr Leaf) :=
  decEq

/-- A quantifier behind a child.  The optional one has a node of its own. -/
def quantified (child : Expr Leaf) (q : Quantifier) : Expr Leaf :=
  if q.isOptional then optional child else repeated child q

/-- Elements one after another.  A lone element stands for itself. -/
def sequenceOf : List (Expr Leaf) → Expr Leaf
  | [item] => item
  | items => sequence items

/-- Alternatives in order.  A lone alternative stands for itself. -/
def choiceOf : List (Expr Leaf) → Expr Leaf
  | [item] => item
  | items => choice items

/-- The parts of a node, in source order. -/
def children : Expr Leaf → List (Expr Leaf)
  | leaf _ => []
  | sequence items => items
  | choice items => items
  | optional child => [child]
  | repeated child _ => [child]
  | separated child separator _ => [child, separator]

mutual

/-- The number of nodes. -/
def size : Expr Leaf → Nat
  | leaf _ => 1
  | sequence items => 1 + sizeList items
  | choice items => 1 + sizeList items
  | optional child => 1 + child.size
  | repeated child _ => 1 + child.size
  | separated child separator _ => 1 + (child.size + separator.size)

def sizeList : List (Expr Leaf) → Nat
  | [] => 0
  | item :: rest => item.size + sizeList rest

end

theorem sizeList_append (a b : List (Expr Leaf)) : sizeList (a ++ b) = sizeList a + sizeList b := by
  induction a with
  | nil => simp [sizeList]
  | cons item rest ih => simp [sizeList, ih, Nat.add_assoc]

theorem size_eq (e : Expr Leaf) : e.size = 1 + sizeList e.children := by
  cases e <;> simp [size, children, sizeList]

/-- Visits the nodes on a stack, each before its parts, and puts the parts on the stack instead. -/
def visit (stack : List (Expr Leaf)) : List (Expr Leaf) :=
  match stack with
  | [] => []
  | e :: rest => e :: visit (e.children ++ rest)
  termination_by sizeList stack
  decreasing_by simp only [sizeList, sizeList_append, size_eq e]; omega

/-- Every node, the expression itself first, depth first and from left to right. -/
def walk (e : Expr Leaf) : List (Expr Leaf) :=
  visit [e]

/-- The leaves from left to right. -/
def leaves (e : Expr Leaf) : List Leaf :=
  e.walk.filterMap fun
    | leaf value => some value
    | _ => none

end Expr
end GrammarText
