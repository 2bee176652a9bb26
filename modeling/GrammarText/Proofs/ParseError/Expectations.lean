/-
Lists of expectations.  An error keeps what it expected in the order of the texts and none twice, so
that its list stands for a set of texts.  Every text is that of one expectation, so it stands for a
set of expectations too.  Such lists are joined into one that holds what either holds, and it does not
matter in which grouping several of them are joined, nor, for the texts, in which order.
-/
import Mathlib.Data.List.Perm.Basic
import Mathlib.Data.List.Nodup
import Mathlib.Data.String.Basic
import GrammarText.ParseError

namespace GrammarText
namespace Expectation

variable {e x y other : Expectation} {a b c all rest : List Expectation}

/-- All that may be wanted besides words. -/
def others : List Expectation :=
  [endOfInput, tokenName, ruleName, literal, regex, integer, tokenExpression, ruleExpression,
    quantifier] ++ Mark.all.map mark

theorem map_text_others : others.map text = Word.taken :=
  rfl

theorem mem_others (e : Expectation) : e ∈ others ∨ ∃ w, e = word w := by
  cases e with
  | word w => exact .inr ⟨w, rfl⟩
  | mark m => cases m <;> exact .inl (by decide)
  | _ => exact .inl (by decide)

/-- Every text is that of one expectation. -/
theorem text_bijective : Function.Bijective text := by
  have hnodup : (others.map text).Nodup := by decide +kernel
  have happart : ∀ e ∈ others, ∀ w : Word, e.text ≠ w.text := by
    intro e he w h
    exact w.apart (map_text_others ▸ h ▸ List.mem_map_of_mem he)
  refine ⟨fun e other h => ?_, fun t => ?_⟩
  · rcases mem_others e with he | ⟨w, rfl⟩ <;> rcases mem_others other with ho | ⟨v, rfl⟩
    · exact List.inj_on_of_nodup_map hnodup he ho h
    · exact absurd h (happart e he v)
    · exact absurd h.symm (happart other ho w)
    · obtain ⟨text, hapart⟩ := w
      obtain rfl : text = v.text := h
      rfl
  · by_cases ht : t ∈ Word.taken
    · rw [← map_text_others] at ht
      obtain ⟨e, -, he⟩ := List.mem_map.mp ht
      exact ⟨e, he⟩
    · exact ⟨word ⟨t, ht⟩, rfl⟩

theorem text_injective : Function.Injective text :=
  text_bijective.injective

theorem insert_self (rest : List Expectation) : insert e (e :: rest) = e :: rest := by
  rw [insert, if_pos rfl]

theorem insert_of_lt (h : e.text < other.text) : insert e (other :: rest) = e :: other :: rest := by
  rw [insert, if_neg (ne_of_lt h), if_pos h]

theorem insert_of_gt (h : other.text < e.text) :
    insert e (other :: rest) = other :: insert e rest := by
  rw [insert, if_neg (ne_of_gt h), if_neg (lt_asymm h)]

/-- An expectation is the head of the list already, or goes in front of it, or goes behind it. -/
theorem insert_cases (e other : Expectation) :
    e = other ∨ e.text < other.text ∨ other.text < e.text := by
  rcases lt_trichotomy e.text other.text with hlt | heq | hgt
  · exact .inr (.inl hlt)
  · exact .inl (text_injective heq)
  · exact .inr (.inr hgt)

theorem mem_insert_iff : x ∈ insert e all ↔ x = e ∨ x ∈ all := by
  induction all with
  | nil => exact List.mem_singleton.trans (or_iff_left List.not_mem_nil).symm
  | cons other rest ih =>
    rcases insert_cases e other with rfl | hlt | hgt
    · rw [insert_self]
      exact (or_iff_right_of_imp fun h => h ▸ List.mem_cons_self ..).symm
    · rw [insert_of_lt hlt, List.mem_cons]
    · rw [insert_of_gt hgt, List.mem_cons, List.mem_cons, ih]
      exact or_left_comm

theorem mem_union_iff : x ∈ union a b ↔ x ∈ a ∨ x ∈ b := by
  unfold union
  induction b generalizing a with
  | nil => exact (or_iff_left List.not_mem_nil).symm
  | cons e rest ih =>
    rw [List.foldl_cons, ih, mem_insert_iff, List.mem_cons, or_comm (a := x = e), or_assoc]

/-- In the order of their texts, and none of them twice. -/
def InOrder (all : List Expectation) : Prop :=
  all.Pairwise fun x y => x.text < y.text

theorem inOrder_nil : InOrder [] :=
  .nil

theorem inOrder_singleton (e : Expectation) : InOrder [e] :=
  List.pairwise_singleton ..

theorem InOrder.tail (h : InOrder (other :: rest)) : InOrder rest :=
  List.Pairwise.of_cons h

theorem InOrder.nodup (h : InOrder all) : all.Nodup :=
  List.Pairwise.imp (fun hlt heq => ne_of_lt hlt (congrArg text heq)) h

theorem InOrder.head_lt (h : InOrder (other :: rest)) (hx : x ∈ rest) : other.text < x.text :=
  List.rel_of_pairwise_cons h hx

/-- What goes in front of the head goes in front of all. -/
theorem InOrder.lt_of_lt (h : InOrder (other :: rest)) (hlt : e.text < other.text) :
    ∀ x ∈ other :: rest, e.text < x.text := by
  intro x hx
  rcases List.mem_cons.mp hx with rfl | hx
  · exact hlt
  · exact lt_trans hlt (h.head_lt hx)

theorem InOrder.insert (h : InOrder all) : InOrder (insert e all) := by
  induction all with
  | nil => exact inOrder_singleton e
  | cons other rest ih =>
    rcases insert_cases e other with rfl | hlt | hgt
    · rwa [insert_self]
    · rw [insert_of_lt hlt]
      exact List.Pairwise.cons (h.lt_of_lt hlt) h
    · rw [insert_of_gt hgt]
      refine List.Pairwise.cons (fun x hx => ?_) (ih h.tail)
      rcases mem_insert_iff.mp hx with rfl | hx
      · exact hgt
      · exact h.head_lt hx

theorem InOrder.union (h : InOrder a) : InOrder (union a b) := by
  unfold Expectation.union
  induction b generalizing a with
  | nil => exact h
  | cons e rest ih => exact ih h.insert

theorem insert_of_mem (h : InOrder all) (he : e ∈ all) : insert e all = all := by
  induction all with
  | nil => cases he
  | cons other rest ih =>
    rcases List.mem_cons.mp he with rfl | hrest
    · exact insert_self rest
    · rw [insert_of_gt (h.head_lt hrest), ih h.tail hrest]

theorem insert_comm_of_lt (h : x.text < y.text) :
    insert x (insert y all) = insert y (insert x all) := by
  induction all with
  | nil =>
    show insert x [y] = insert y [x]
    rw [insert_of_lt h, insert_of_gt h]
    rfl
  | cons other rest ih =>
    rcases insert_cases x other with rfl | hlt | hgt
    · rw [insert_self, insert_of_gt h, insert_self]
    · -- Whatever becomes of the other one, the smaller one goes in front of it.
      rw [insert_of_lt hlt, insert_of_gt h]
      rcases insert_cases y other with rfl | hlt' | hgt'
      · rw [insert_self, insert_of_lt h]
      · rw [insert_of_lt hlt', insert_of_lt h]
      · rw [insert_of_gt hgt', insert_of_lt hlt]
    · rw [insert_of_gt hgt, insert_of_gt (lt_trans hgt h), insert_of_gt hgt,
        insert_of_gt (lt_trans hgt h), ih]

theorem insert_comm (x y : Expectation) :
    insert x (insert y all) = insert y (insert x all) := by
  rcases insert_cases x y with rfl | hlt | hgt
  · rfl
  · exact insert_comm_of_lt hlt
  · exact (insert_comm_of_lt hgt).symm

/-- What is added first may as well be added last. -/
theorem union_insert_left : union (insert e a) b = insert e (union a b) := by
  unfold union
  induction b generalizing a with
  | nil => rfl
  | cons y rest ih => rw [List.foldl_cons, List.foldl_cons, insert_comm y e, ih]

theorem union_insert (ha : InOrder a) (hb : InOrder b) :
    union a (insert e b) = insert e (union a b) := by
  induction b generalizing a with
  | nil => rfl
  | cons y rest ih =>
    rcases insert_cases e y with rfl | hlt | hgt
    · have hmem : e ∈ union a (e :: rest) := mem_union_iff.mpr (.inr (List.mem_cons_self ..))
      rw [insert_self, insert_of_mem ha.union hmem]
    · rw [insert_of_lt hlt]
      exact union_insert_left
    · rw [insert_of_gt hgt]
      exact ih ha.insert hb.tail

theorem union_assoc (ha : InOrder a) (hb : InOrder b) :
    union (union a b) c = union a (union b c) := by
  induction c generalizing b with
  | nil => rfl
  | cons e rest ih =>
    calc union (union a b) (e :: rest)
        = union (insert e (union a b)) rest := rfl
      _ = union (union a (insert e b)) rest := by rw [union_insert ha hb]
      _ = union a (union (insert e b) rest) := ih hb.insert
      _ = union a (union b (e :: rest)) := rfl

theorem union_of_subset (ha : InOrder a) (h : ∀ x ∈ b, x ∈ a) : union a b = a := by
  unfold union
  induction b with
  | nil => rfl
  | cons e rest ih =>
    rw [List.foldl_cons, insert_of_mem ha (h e (List.mem_cons_self ..))]
    exact ih fun x hx => h x (List.mem_cons_of_mem _ hx)

/-- Lists in order that hold the same are the same. -/
theorem InOrder.eq_of_mem_iff (ha : InOrder a) (hb : InOrder b) (h : ∀ x, x ∈ a ↔ x ∈ b) :
    a = b := by
  have hperm : a.Perm b := (List.perm_ext_iff_of_nodup ha.nodup hb.nodup).mpr h
  exact hperm.eq_of_pairwise (fun _ _ _ _ hlt hgt => absurd hgt (lt_asymm hlt)) ha hb

end Expectation
end GrammarText
