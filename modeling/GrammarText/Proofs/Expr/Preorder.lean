/-
The nodes of an expression in source order.  `Expr.walk` runs on a stack.  Read as a recursion on
the expression, it lists a node before its parts and the parts from left to right.
-/
import GrammarText.Expr

namespace GrammarText
namespace Expr

variable {Leaf : Type}

mutual

/-- The nodes of an expression, each before its parts. -/
def preorder : Expr Leaf → List (Expr Leaf)
  | leaf value => [leaf value]
  | sequence items => sequence items :: preorderList items
  | choice items => choice items :: preorderList items
  | optional child => optional child :: child.preorder
  | repeated child quantifier => repeated child quantifier :: child.preorder
  | separated child separator quantifier =>
      separated child separator quantifier :: (child.preorder ++ separator.preorder)

def preorderList : List (Expr Leaf) → List (Expr Leaf)
  | [] => []
  | item :: rest => item.preorder ++ preorderList rest

end

theorem preorderList_eq (items : List (Expr Leaf)) :
    preorderList items = items.flatMap preorder := by
  induction items with
  | nil => rfl
  | cons item rest ih => rw [preorderList, ih, List.flatMap_cons]

theorem preorder_eq (e : Expr Leaf) : e.preorder = e :: e.children.flatMap preorder := by
  cases e <;> simp [preorder, preorderList_eq, children]

/-- A stack is visited from its top, each expression as a whole before the next. -/
theorem visit_eq (stack : List (Expr Leaf)) : visit stack = stack.flatMap preorder := by
  induction stack using visit.induct with
  | case1 => rw [visit, List.flatMap_nil]
  | case2 e rest ih =>
    rw [visit, ih, List.flatMap_append, List.flatMap_cons, preorder_eq, List.cons_append]

theorem walk_eq (e : Expr Leaf) : e.walk = e.preorder := by
  unfold walk
  rw [visit_eq, List.flatMap_singleton]

/-- What is collected from the leaves is collected from the nodes that are leaves. -/
theorem flatMap_leaves {α : Type} (e : Expr Leaf) (f : Leaf → List α) :
    e.leaves.flatMap f = e.preorder.flatMap fun
      | leaf value => f value
      | _ => [] := by
  unfold leaves
  rw [walk_eq]
  induction e.preorder with
  | nil => rfl
  | cons node rest ih => cases node <;> simp [ih]

end Expr
end GrammarText
