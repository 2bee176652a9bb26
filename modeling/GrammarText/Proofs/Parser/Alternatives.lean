/-
Alternatives that are tried in turn.  The errors of a parser keep in order what they list, and those
of alternatives that fail at one place are about the same token there.  So what is reported when all
alternatives fail does not depend on the order in which they were tried.
-/
import GrammarText.Proofs.Parser.Blame
import GrammarText.Proofs.ParseError.Merging

namespace GrammarText

open Expectation ParseError

namespace Parser

variable {α : Type} {n stop left : Nat} {tokens : List Lexeme} {p q : Parser α}
  {ps qs alternatives : List (Parser α)}

theorem AtHead.inOrder {wanted : Expectation} {s : Setback} (h : AtHead wanted stop tokens s) :
    InOrder s.error.expected := by
  rcases h.expected with heq | heq <;> rw [heq]
  · exact inOrder_nil
  · exact inOrder_singleton wanted

/-- A parser put together from combinators lists in order what it expected. -/
theorem Composed.inOrder (h : Composed n p) (stop : Nat) ⦃tokens : List Lexeme⦄
    (hlen : tokens.length < n) : ∀ s ∈ (p stop tokens).setback, InOrder s.error.expected := by
  have hfurthest : ∀ a b : Setback, InOrder a.error.expected → InOrder b.error.expected →
      InOrder (a.furthest b).error.expected := by
    intro a b ha hb
    rcases a.furthest_cases b with heq | heq | ⟨-, -, -, heq⟩ <;> rw [heq]
    · exact ha
    · exact hb
    · exact inOrder_merge ha hb
  induction h generalizing tokens with
  | zero => exact absurd hlen (Nat.not_lt_zero _)
  | token => exact fun s hs => (setback_token s hs).inOrder
  | exactly => exact fun s hs => (setback_exactly s hs).inOrder
  | map f _ ih => exact setback_map f (ih hlen)
  | both hp _ ihp ihq =>
    refine setback_both hfurthest (ihp hlen) fun value mid hs => ?_
    exact ihq (Nat.lt_of_le_of_lt (hp.suffix hlen hs).length_le hlen)
  | behind wanted expected _ ih =>
    refine setback_both hfurthest (fun s hs => (setback_exactly s hs).inOrder)
      fun value mid hs => ?_
    obtain ⟨t, rfl, -⟩ := succeeds_exactly.mp hs
    exact ih (Nat.lt_of_succ_lt_succ hlen)
  | choose _ _ ihp iho => exact setback_firstOf hfurthest (ihp hlen) (iho hlen)
  | optional _ ih => exact setback_optional (ih hlen)
  | many h ih =>
    refine setback_many hfurthest (· <:+ tokens) List.suffix_rfl fun mid hmid => ?_
    have hshort := Nat.lt_of_le_of_lt hmid.length_le hlen
    exact ⟨ih hshort, fun value rest hs => (h.suffix hshort hs).trans hmid⟩
  | labelled name _ ih => exact setback_labelled (fun s => inOrder_withLabel name) (ih hlen)
  | checked hcheck _ ih =>
    refine setback_checked (fun value rest span e _ he => ?_) (ih hlen)
    rcases hcheck value with ⟨result, hok⟩ | ⟨fault, -, herror⟩
    · rw [hok] at he
      cases he
    · rw [herror] at he
      cases he
      exact inOrder_nil

/-- Ordinary errors that leave as many tokens are about the same one of them, or about the end. -/
theorem Blames.same_place {a b : Setback} (ha : Blames stop tokens a) (hb : Blames stop tokens b)
    (hleft : a.left = b.left) (hfault : a.error.fault = .unexpected)
    (hfault' : b.error.fault = .unexpected) :
    a.error.span = b.error.span ∧ a.error.found = b.error.found := by
  obtain ⟨left, -, -, haccuses, haccuses'⟩ := ha.exists_left hb hleft
  cases left with
  | nil | cons =>
    obtain ⟨hspan, hfound⟩ := haccuses hfault
    obtain ⟨hspan', hfound'⟩ := haccuses' hfault'
    exact ⟨hspan.trans hspan'.symm, hfound.trans hfound'.symm⟩

theorem failed_iff {s : Setback} {e : ParseError} :
    (Outcome.failed s : Outcome α) = .failed ⟨left, e⟩ ↔ s.left = left ∧ s.error = e := by
  rw [Outcome.failed.injEq, Setback.mk.injEq]

/-- The grouping holds the errors of the alternatives that got furthest. -/
structure Gathers (stop : Nat) (tokens : List Lexeme) (alternatives : List (Parser α)) (left : Nat)
    (g : Grouping) : Prop where
  least : ∀ o ∈ alternatives, ∀ s, o stop tokens = .failed s → left ≤ s.left
  mem_iff : ∀ e, e ∈ g.errors ↔ ∃ o ∈ alternatives, o stop tokens = .failed ⟨left, e⟩

namespace Gathers

variable {g h : Grouping} {s : Setback}

/-- Only what the alternatives are counts, and not the order in which they are listed. -/
theorem unique {alternatives' : List (Parser α)} {left' : Nat}
    (hsame : ∀ o, o ∈ alternatives' ↔ o ∈ alternatives)
    (hg : Gathers stop tokens alternatives left g)
    (hh : Gathers stop tokens alternatives' left' h) :
    left = left' ∧ ∀ e, e ∈ h.errors ↔ e ∈ g.errors := by
  obtain ⟨first, hfirst⟩ := g.exists_error
  obtain ⟨o, ho, hfailed⟩ := (hg.mem_iff first).mp hfirst
  obtain ⟨first', hfirst'⟩ := h.exists_error
  obtain ⟨o', ho', hfailed'⟩ := (hh.mem_iff first').mp hfirst'
  obtain rfl : left = left' :=
    Nat.le_antisymm (hg.least o' ((hsame o').mp ho') _ hfailed')
      (hh.least o ((hsame o).mpr ho) _ hfailed)
  refine ⟨rfl, fun e => ?_⟩
  rw [hg.mem_iff, hh.mem_iff]
  exact exists_congr fun o => and_congr_left' (hsame o)

/-- The errors of alternatives that got as far are about one place. -/
theorem arisesAt (hg : Gathers stop tokens alternatives left g)
    (hcomposed : ∀ o ∈ alternatives, Composed n o) (hlen : tokens.length < n)
    (hordinary : ∀ o ∈ alternatives, ∀ s, o stop tokens = .failed s → s.error.fault = .unexpected) :
    ∃ place token, ∀ e ∈ g.errors, e.ArisesAt place token := by
  obtain ⟨first, hfirst⟩ := g.exists_error
  refine ⟨first.span, first.found, fun e he => ?_⟩
  obtain ⟨o, ho, hfailed⟩ := (hg.mem_iff first).mp hfirst
  obtain ⟨o', ho', hfailed'⟩ := (hg.mem_iff e).mp he
  have hsetback : ⟨left, first⟩ ∈ (o stop tokens).setback := by
    rw [hfailed]
    rfl
  have hsetback' : ⟨left, e⟩ ∈ (o' stop tokens).setback := by
    rw [hfailed']
    rfl
  have hblames := (hcomposed o ho).blames stop hlen _ hsetback
  have hblames' := (hcomposed o' ho').blames stop hlen _ hsetback'
  have hfault' := hordinary o' ho' _ hfailed'
  obtain ⟨hspan, hfound⟩ := hblames'.same_place hblames rfl hfault' (hordinary o ho _ hfailed)
  exact ⟨hfault', hspan, hfound, (hcomposed o' ho').inOrder stop hlen _ hsetback'⟩

theorem only (hs : p stop tokens = .failed s) :
    Gathers stop tokens [p] s.left (.single s.error) where
  least o ho s' hs' := by
    rw [List.mem_singleton.mp ho, hs] at hs'
    cases hs'
    exact Nat.le_refl _
  mem_iff e := by
    simp only [Grouping.errors, List.mem_singleton, exists_eq_left, hs, failed_iff, true_and]
    exact eq_comm

variable (hg : Gathers stop tokens alternatives left g) (hs : p stop tokens = .failed s)
include hg hs

/-- An alternative that did not get so far adds nothing. -/
theorem cons_behind (hleft : left < s.left) : Gathers stop tokens (p :: alternatives) left g where
  least o ho s' hs' := by
    rcases List.mem_cons.mp ho with rfl | ho
    · rw [hs] at hs'
      cases hs'
      exact Nat.le_of_lt hleft
    · exact hg.least o ho s' hs'
  mem_iff e := by
    have hnot : ¬ p stop tokens = .failed ⟨left, e⟩ := by
      rw [hs, failed_iff]
      exact fun h => Nat.ne_of_gt hleft h.1
    rw [hg.mem_iff, List.exists_mem_cons_iff, or_iff_right hnot]

/-- An alternative that got further stands alone. -/
theorem cons_further (hleft : s.left < left) :
    Gathers stop tokens (p :: alternatives) s.left (.single s.error) where
  least o ho s' hs' := by
    rcases List.mem_cons.mp ho with rfl | ho
    · rw [hs] at hs'
      cases hs'
      exact Nat.le_refl _
    · exact Nat.le_trans (Nat.le_of_lt hleft) (hg.least o ho s' hs')
  mem_iff e := by
    have hnot : ¬ ∃ o ∈ alternatives, o stop tokens = .failed ⟨s.left, e⟩ := by
      rintro ⟨o, ho, hfailed⟩
      exact Nat.not_le.mpr hleft (hg.least o ho ⟨s.left, e⟩ hfailed)
    rw [List.exists_mem_cons_iff, or_iff_left hnot, hs, failed_iff, Grouping.errors,
      List.mem_singleton, and_iff_right rfl]
    exact eq_comm

/-- An alternative that got as far is merged with the others. -/
theorem cons_level (hleft : s.left = left) :
    Gathers stop tokens (p :: alternatives) left (.merge g (.single s.error)) where
  least o ho s' hs' := by
    rcases List.mem_cons.mp ho with rfl | ho
    · rw [hs] at hs'
      cases hs'
      exact Nat.le_of_eq hleft.symm
    · exact hg.least o ho s' hs'
  mem_iff e := by
    rw [Grouping.errors, List.mem_append, hg.mem_iff, List.exists_mem_cons_iff, hs, failed_iff,
      Grouping.errors, List.mem_singleton, and_iff_right hleft, or_comm, eq_comm]

end Gathers

/-- Where all alternatives fail, the errors of those that got furthest are merged. -/
theorem firstOf_gathers (hfails : ∀ o ∈ p :: ps, Fails o stop tokens) :
    ∃ left g, firstOf p ps stop tokens = .failed ⟨left, g.merged⟩ ∧
      Gathers stop tokens (p :: ps) left g := by
  obtain ⟨s, hs⟩ := hfails p (List.mem_cons_self ..)
  induction ps generalizing p s with
  | nil => exact ⟨s.left, .single s.error, hs, .only hs⟩
  | cons q rest ih =>
    obtain ⟨s', hs'⟩ := hfails q (List.mem_cons_of_mem _ (List.mem_cons_self ..))
    obtain ⟨left, g, hfailed, hg⟩ := ih (fun o ho => hfails o (List.mem_cons_of_mem _ ho)) s' hs'
    have hchoice : firstOf p (q :: rest) stop tokens =
        .failed ((⟨left, g.merged⟩ : Setback).furthest s) := by
      rw [firstOf, hs]
      simp only [hfailed]
    rw [hchoice]
    rcases Nat.lt_trichotomy left s.left with hlt | heq | hlt
    · rw [Setback.furthest_of_lt hlt]
      exact ⟨left, g, rfl, hg.cons_behind hs hlt⟩
    · rw [Setback.furthest_of_eq heq]
      exact ⟨left, .merge g (.single s.error), rfl, hg.cons_level hs heq.symm⟩
    · rw [Setback.furthest_of_gt hlt]
      exact ⟨s.left, .single s.error, rfl, hg.cons_further hs hlt⟩

/-- What is reported where all alternatives fail, and none of them over a value, is the same in
whichever order they are tried. -/
theorem firstOf_order {p q : Parser α} {ps qs : List (Parser α)}
    (hsame : ∀ o, o ∈ q :: qs ↔ o ∈ p :: ps) (hcomposed : ∀ o ∈ p :: ps, Composed n o)
    (hlen : tokens.length < n) (hfails : ∀ o ∈ p :: ps, Fails o stop tokens)
    (hordinary : ∀ o ∈ p :: ps, ∀ s, o stop tokens = .failed s → s.error.fault = .unexpected) :
    ∃ s t, firstOf p ps stop tokens = .failed s ∧ firstOf q qs stop tokens = .failed t ∧
      s.left = t.left ∧ s.error.Alike t.error ∧
      s.error.label.isSome = t.error.label.isSome ∧
      Diagnostic.ofParseError s.error = Diagnostic.ofParseError t.error := by
  obtain ⟨left, g, hp, hg⟩ := firstOf_gathers hfails
  obtain ⟨left', h, hq, hh⟩ :=
    firstOf_gathers fun o ho => hfails o ((hsame o).mp ho)
  obtain ⟨rfl, herrors⟩ := hg.unique hsame hh
  obtain ⟨place, token, hall⟩ := hg.arisesAt hcomposed hlen hordinary
  have halike := Grouping.alike hall herrors
  have hnamed := Grouping.isNamed_eq (fun e he => (hall e he).fault) herrors
  exact ⟨_, _, hp, hq, rfl, halike, hnamed, halike.diagnostic⟩

end Parser

open GrammarText.Parser

/-- What the error on a declaration lists is in order. -/
theorem Declaration.run_error_inOrder {stop : Nat} {tokens : List Lexeme} {e : ParseError}
    (h : run Declaration.parser stop tokens = .error e) : InOrder e.expected := by
  have hbodies := (bodies_composed (tokens.length + 1)).inOrder stop (Nat.lt_succ_self _)
  unfold run Declaration.parser spanned at h
  cases hb : firstOf tokenParser [ruleParser] stop tokens with
  | done value rest s =>
    rw [hb] at h
    cases h
  | failed s =>
    rw [hb] at h hbodies
    cases h
    exact hbodies s rfl

end GrammarText
