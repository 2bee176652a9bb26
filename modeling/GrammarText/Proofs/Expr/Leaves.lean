/-
The leaves of an expression.  They are those of its parts, from left to right, and an expression
with other leaves in their places has the same nodes above them.
-/
import GrammarText.Proofs.Expr.Preorder

namespace GrammarText
namespace Expr

variable {Leaf Leaf' : Type}

/- The leaves of a node are read off its parts. -/

theorem leaves_leaf (value : Leaf) : (leaf value).leaves = [value] := by
  rw [leaves, walk_eq]
  rfl

/-- Above the leaves no node has a leaf of its own. -/
theorem leaves_eq_flatMap {e : Expr Leaf} (h : ∀ value, e ≠ leaf value) :
    e.leaves = e.children.flatMap leaves := by
  rw [leaves, walk_eq, preorder_eq, List.filterMap_cons_none, List.filterMap_flatMap]
  · congr 1
    funext child
    rw [leaves, walk_eq]
  · cases e with
    | leaf value => exact absurd rfl (h value)
    | _ => rfl

theorem leaves_sequence (items : List (Expr Leaf)) :
    (sequence items).leaves = items.flatMap leaves :=
  leaves_eq_flatMap (by simp)

theorem leaves_choice (items : List (Expr Leaf)) :
    (choice items).leaves = items.flatMap leaves :=
  leaves_eq_flatMap (by simp)

theorem leaves_optional (child : Expr Leaf) : (optional child).leaves = child.leaves := by
  rw [leaves_eq_flatMap (by simp), children, List.flatMap_singleton]

theorem leaves_repeated (child : Expr Leaf) (q : Quantifier) :
    (repeated child q).leaves = child.leaves := by
  rw [leaves_eq_flatMap (by simp), children, List.flatMap_singleton]

theorem leaves_separated (child separator : Expr Leaf) (q : Quantifier) :
    (separated child separator q).leaves = child.leaves ++ separator.leaves := by
  rw [leaves_eq_flatMap (by simp), children, List.flatMap_cons, List.flatMap_singleton]

theorem leaves_quantified (child : Expr Leaf) (q : Quantifier) :
    (quantified child q).leaves = child.leaves := by
  unfold quantified
  split
  · exact leaves_optional child
  · exact leaves_repeated child q

theorem leaves_sequenceOf (items : List (Expr Leaf)) :
    (sequenceOf items).leaves = items.flatMap leaves := by
  unfold sequenceOf
  split
  · exact (List.flatMap_singleton _ _).symm
  · exact leaves_sequence items

theorem leaves_choiceOf (items : List (Expr Leaf)) :
    (choiceOf items).leaves = items.flatMap leaves := by
  unfold choiceOf
  split
  · exact (List.flatMap_singleton _ _).symm
  · exact leaves_choice items

mutual

/-- The same composition over the images of the leaves. -/
def mapLeaves (f : Leaf → Leaf') : Expr Leaf → Expr Leaf'
  | leaf value => leaf (f value)
  | sequence items => sequence (mapLeavesList f items)
  | choice items => choice (mapLeavesList f items)
  | optional child => optional (child.mapLeaves f)
  | repeated child quantifier => repeated (child.mapLeaves f) quantifier
  | separated child separator quantifier =>
      separated (child.mapLeaves f) (separator.mapLeaves f) quantifier

def mapLeavesList (f : Leaf → Leaf') : List (Expr Leaf) → List (Expr Leaf')
  | [] => []
  | item :: rest => item.mapLeaves f :: mapLeavesList f rest

end

variable (f : Leaf → Leaf')

theorem mapLeavesList_eq (items : List (Expr Leaf)) :
    mapLeavesList f items = items.map (mapLeaves f) := by
  induction items with
  | nil => rfl
  | cons item rest ih => rw [mapLeavesList, ih, List.map_cons]

theorem mapLeaves_quantified (child : Expr Leaf) (q : Quantifier) :
    (quantified child q).mapLeaves f = quantified (child.mapLeaves f) q := by
  unfold quantified
  split <;> rfl

theorem mapLeaves_sequenceOf (items : List (Expr Leaf)) :
    (sequenceOf items).mapLeaves f = sequenceOf (items.map (mapLeaves f)) := by
  match items with
  | [] => rfl
  | [_] => rfl
  | _ :: _ :: _ => exact congrArg sequence (mapLeavesList_eq f _)

theorem mapLeaves_choiceOf (items : List (Expr Leaf)) :
    (choiceOf items).mapLeaves f = choiceOf (items.map (mapLeaves f)) := by
  match items with
  | [] => rfl
  | [_] => rfl
  | _ :: _ :: _ => exact congrArg choice (mapLeavesList_eq f _)

mutual

theorem leaves_mapLeaves : ∀ e : Expr Leaf, (e.mapLeaves f).leaves = e.leaves.map f
  | leaf value => by
      rw [mapLeaves, leaves_leaf, leaves_leaf, List.map_singleton]
  | sequence items => by
      rw [mapLeaves, leaves_sequence, leaves_sequence, flatMap_leaves_mapLeavesList items]
  | choice items => by
      rw [mapLeaves, leaves_choice, leaves_choice, flatMap_leaves_mapLeavesList items]
  | optional child => by
      rw [mapLeaves, leaves_optional, leaves_optional, leaves_mapLeaves child]
  | repeated child q => by
      rw [mapLeaves, leaves_repeated, leaves_repeated, leaves_mapLeaves child]
  | separated child separator q => by
      rw [mapLeaves, leaves_separated, leaves_separated, leaves_mapLeaves child,
        leaves_mapLeaves separator, List.map_append]

theorem flatMap_leaves_mapLeavesList : ∀ items : List (Expr Leaf),
    (mapLeavesList f items).flatMap leaves = (items.flatMap leaves).map f
  | [] => rfl
  | item :: rest => by
      rw [mapLeavesList, List.flatMap_cons, List.flatMap_cons, leaves_mapLeaves item,
        flatMap_leaves_mapLeavesList rest, List.map_append]

end

end Expr
end GrammarText
