/-
Places in an expression.  The way to a node tells at each node on it the index of the part to go on
with, so a node that occurs twice has two places.  In the order of places, which is that of the
dictionary, a node comes before all that is below it and a part before the parts behind it.  The
walk on a stack follows this order and passes every place once.
-/
import GrammarText.Proofs.Expr.Preorder
import Mathlib.Data.List.Sort

namespace GrammarText
namespace Expr

variable {Leaf : Type}

/-- The node at a place, if the way leads to one. -/
def at? : Expr Leaf → List Nat → Option (Expr Leaf)
  | e, [] => some e
  | e, i :: place => e.children[i]?.bind fun child => child.at? place

mutual

/-- The places of an expression in their order. -/
def places : Expr Leaf → List (List Nat)
  | leaf _ => [[]]
  | sequence items => [] :: placesBelow 0 items
  | choice items => [] :: placesBelow 0 items
  | optional child => [] :: child.places.map (0 :: ·)
  | repeated child _ => [] :: child.places.map (0 :: ·)
  | separated child separator _ =>
      [] :: (child.places.map (0 :: ·) ++ separator.places.map (1 :: ·))

/-- The places below a node, from the part of an index on. -/
def placesBelow : Nat → List (Expr Leaf) → List (List Nat)
  | _, [] => []
  | i, item :: rest => item.places.map (i :: ·) ++ placesBelow (i + 1) rest

end

theorem places_eq (e : Expr Leaf) : e.places = [] :: placesBelow 0 e.children := by
  cases e <;> simp [places, placesBelow, children]

theorem size_le_sizeList {item : Expr Leaf} {items : List (Expr Leaf)} (h : item ∈ items) :
    item.size ≤ sizeList items := by
  induction items with
  | nil => cases h
  | cons first rest ih =>
    rw [sizeList]
    rcases List.mem_cons.mp h with rfl | h
    · omega
    · have := ih h
      omega

/-- What holds of a node if it holds of its parts holds of every expression. -/
theorem children_induction {P : Expr Leaf → Prop}
    (node : ∀ e : Expr Leaf, (∀ child ∈ e.children, P child) → P e) (e : Expr Leaf) : P e := by
  induction hsize : e.size using Nat.strong_induction_on generalizing e with
  | _ n ih =>
    refine node e fun child hchild => ih child.size ?_ child rfl
    have hle := size_le_sizeList hchild
    have heq := e.size_eq
    omega

theorem length_preorder (e : Expr Leaf) : e.preorder.length = e.size := by
  induction e using children_induction with
  | node e ih =>
    rw [preorder_eq, List.length_cons, e.size_eq, Nat.add_comm]
    congr 1
    generalize e.children = items at ih
    induction items with
    | nil => rfl
    | cons first rest ihRest =>
      rw [List.flatMap_cons, List.length_append, sizeList, ih first (List.mem_cons_self ..),
        ihRest fun child h => ih child (List.mem_cons_of_mem _ h)]

/-! The nodes at the places. -/

theorem map_at?_placesBelow {e : Expr Leaf} {before items : List (Expr Leaf)}
    (hparts : e.children = before ++ items)
    (ih : ∀ child ∈ items, child.places.map child.at? = child.preorder.map some) :
    (placesBelow before.length items).map e.at? = (items.flatMap preorder).map some := by
  induction items generalizing before with
  | nil => rfl
  | cons item rest ihRest =>
    have hitem : e.children[before.length]? = some item := by
      rw [hparts, List.getElem?_append_right (Nat.le_refl _), Nat.sub_self]
      rfl
    have hat : e.at? ∘ (before.length :: ·) = item.at? := by
      funext place
      show e.children[before.length]?.bind _ = _
      rw [hitem, Option.bind_some]
    have hrest := @ihRest (before ++ [item]) (by rw [hparts, List.append_assoc]; rfl)
      fun child h => ih child (List.mem_cons_of_mem _ h)
    rw [List.length_append, List.length_singleton] at hrest
    rw [placesBelow, List.map_append, hrest, List.map_map, hat, ih item (List.mem_cons_self ..),
      List.flatMap_cons, List.map_append]

/-- The nodes at the places, in their order, are those of the walk. -/
theorem map_at?_places (e : Expr Leaf) : e.places.map e.at? = e.preorder.map some := by
  induction e using children_induction with
  | node e ih =>
    rw [places_eq, preorder_eq, List.map_cons, List.map_cons]
    exact congrArg (some e :: ·) (@map_at?_placesBelow Leaf e [] e.children rfl ih)

/-! All places. -/

theorem cons_mem_placesBelow {items : List (Expr Leaf)} {child : Expr Leaf} {i k : Nat}
    {place : List Nat} (hchild : items[i]? = some child) (h : place ∈ child.places) :
    (k + i) :: place ∈ placesBelow k items := by
  induction items generalizing i k with
  | nil => cases hchild
  | cons item rest ih =>
    rw [placesBelow, List.mem_append]
    cases i with
    | zero =>
      cases hchild
      exact .inl (List.mem_map_of_mem h)
    | succ i =>
      refine .inr ?_
      have hmem := ih (k := k + 1) hchild
      rwa [Nat.add_right_comm] at hmem

theorem mem_places {e : Expr Leaf} {place : List Nat} :
    place ∈ e.places ↔ (e.at? place).isSome = true := by
  constructor
  · intro h
    have hmem := List.mem_map_of_mem (f := e.at?) h
    rw [map_at?_places] at hmem
    obtain ⟨node, -, hnode⟩ := List.mem_map.mp hmem
    rw [← hnode]
    rfl
  · induction place generalizing e with
    | nil =>
      intro
      rw [places_eq]
      exact List.mem_cons_self ..
    | cons i place ih =>
      intro h
      rw [at?, Option.isSome_bind, Option.any_eq_true] at h
      obtain ⟨child, hchild, hplace⟩ := h
      rw [places_eq, ← Nat.zero_add i]
      exact List.mem_cons_of_mem _ (cons_mem_placesBelow hchild (ih hplace))

/-! The order of the places. -/

theorem exists_of_mem_placesBelow {items : List (Expr Leaf)} {i : Nat} {place : List Nat}
    (h : place ∈ placesBelow i items) : ∃ j below, i ≤ j ∧ place = j :: below := by
  induction items generalizing i with
  | nil => cases h
  | cons item rest ih =>
    rw [placesBelow, List.mem_append] at h
    rcases h with h | h
    · obtain ⟨below, -, rfl⟩ := List.mem_map.mp h
      exact ⟨i, below, Nat.le_refl i, rfl⟩
    · obtain ⟨j, below, hle, rfl⟩ := ih h
      exact ⟨j, below, Nat.le_of_succ_le hle, rfl⟩

theorem pairwise_placesBelow {items : List (Expr Leaf)}
    (h : ∀ item ∈ items, item.places.Pairwise (· < ·)) (i : Nat) :
    (placesBelow i items).Pairwise (· < ·) := by
  induction items generalizing i with
  | nil => exact .nil
  | cons item rest ih =>
    obtain ⟨hitem, hrest⟩ := List.forall_mem_cons.mp h
    refine List.pairwise_append.mpr ⟨List.pairwise_map.mpr (hitem.imp fun hlt => ?_),
      ih hrest (i + 1), fun a ha b hb => ?_⟩
    · exact List.cons_lt_cons_iff.mpr (.inr ⟨rfl, hlt⟩)
    · obtain ⟨below, -, rfl⟩ := List.mem_map.mp ha
      obtain ⟨j, later, hle, rfl⟩ := exists_of_mem_placesBelow hb
      exact List.cons_lt_cons_iff.mpr (.inl hle)

theorem pairwise_places (e : Expr Leaf) : e.places.Pairwise (· < ·) := by
  induction e using children_induction with
  | node e ih =>
    rw [places_eq]
    refine List.pairwise_cons.mpr ⟨fun place h => ?_, pairwise_placesBelow ih 0⟩
    obtain ⟨j, below, -, rfl⟩ := exists_of_mem_placesBelow h
    exact List.nil_lt_cons j below

/-! Leaves at places. -/

/-- The leaf that a node is, if it is one. -/
def leaf? : Expr Leaf → Option Leaf
  | leaf value => some value
  | _ => none

/-- The leaf at a place, if the node there is one. -/
def leafAt? (e : Expr Leaf) (place : List Nat) : Option Leaf :=
  (e.at? place).bind leaf?

theorem mem_places_of_leafAt? {e : Expr Leaf} {place : List Nat} {value : Leaf}
    (h : e.leafAt? place = some value) : place ∈ e.places := by
  obtain ⟨node, hnode, -⟩ := Option.bind_eq_some_iff.mp h
  exact mem_places.mpr (Option.isSome_of_eq_some hnode)

/-- The leaves at the places, in their order, are all leaves. -/
theorem filterMap_leafAt? (e : Expr Leaf) : e.places.filterMap e.leafAt? = e.leaves := by
  have hcomp : e.leafAt? = (Option.bind · leaf?) ∘ e.at? := rfl
  rw [hcomp, ← List.filterMap_map, map_at?_places, List.filterMap_map, leaves, walk_eq]
  rfl

/-! Lists of nodes. -/

/-- The list has the node of every place where the property holds, and each place once, in the order
of the places. -/
def Lists (e : Expr Leaf) (P : Expr Leaf → Prop) (nodes : List (Expr Leaf)) : Prop :=
  ∃ places : List (List Nat), places.Pairwise (· < ·) ∧
    (∀ place, place ∈ places ↔ ∃ node, e.at? place = some node ∧ P node) ∧
    places.map e.at? = nodes.map some

theorem walk_lists (e : Expr Leaf) : e.Lists (fun _ => True) e.walk := by
  refine ⟨e.places, pairwise_places e, fun place => ?_, ?_⟩
  · rw [mem_places, Option.isSome_iff_exists]
    exact exists_congr fun node => (and_iff_left trivial).symm
  · rw [map_at?_places, walk_eq]

/-- Of all nodes those are left at whose places a further property holds. -/
theorem Lists.filter {e : Expr Leaf} {nodes : List (Expr Leaf)} {P : Expr Leaf → Prop}
    {p : Expr Leaf → Bool} (h : e.Lists (fun _ => True) nodes)
    (hp : ∀ node, p node = true ↔ P node) : e.Lists P (nodes.filter p) := by
  obtain ⟨places, hsorted, hall, hnodes⟩ := h
  refine ⟨places.filter fun place => (e.at? place).any p, hsorted.filter _, fun place => ?_, ?_⟩
  · rw [List.mem_filter, hall, Option.any_eq_true]
    constructor
    · exact fun ⟨_, node, hat, hnode⟩ => ⟨node, hat, (hp node).mp hnode⟩
    · exact fun ⟨node, hat, hnode⟩ => ⟨⟨node, hat, trivial⟩, node, hat, (hp node).mpr hnode⟩
  · have hcomp : (fun place => (e.at? place).any p) = Option.any p ∘ e.at? := rfl
    rw [hcomp, ← List.filter_map, hnodes, List.filter_map]
    rfl

/-- The walk of a node is the node and then the walks of its parts. -/
theorem walk_cons (e : Expr Leaf) : e.walk = e :: e.children.flatMap walk := by
  rw [walk_eq, preorder_eq]
  exact congrArg (e :: ·) (List.flatMap_congr fun child _ => (walk_eq child).symm)

end Expr
end GrammarText
