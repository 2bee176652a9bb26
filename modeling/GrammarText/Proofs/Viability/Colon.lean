/-
The colon of a declaration.  Every declaration has one colon, and no literal stands before it.  So
what is left of a declaration behind a literal is none.
-/
import GrammarText.Proofs.Viability.Declaration

namespace GrammarText
namespace Grammar

open Computability

/-- A language that holds the words put together from its own. -/
structure Closed (L : Language Token) : Prop where
  one_le : 1 ≤ L
  join : L * L ≤ L

namespace Closed

variable {A B L : Language Token}

theorem mul_le (h : Closed L) (hA : A ≤ L) (hB : B ≤ L) : A * B ≤ L :=
  (mul_le_mul' hA hB).trans h.join

theorem kstar_le (h : Closed L) (hA : A ≤ L) : A∗ ≤ L :=
  kstar_le_of_mul_le_left h.one_le (h.mul_le le_rfl hA)

/-- Expressions are in the language if their atoms are and what holds atoms together is. -/
theorem expression_le (h : Closed L) {atom : Language Token} (hatom : atom ≤ L)
    (hopen : Shape.mark .openParen ≤ L) (hclose : Shape.mark .closeParen ≤ L)
    (hbar : Shape.mark .bar ≤ L) (hquantifier : Shape.quantifier ≤ L)
    (hseparator : Shape.term atom L ≤ L →
      Shape.mark .percent * Shape.term atom L * Shape.quantifier ≤ L) :
    Shape.expression atom ≤ L := by
  -- The language of expressions is the least one, so it is enough that parentheses lead no further.
  refine OrderHom.lfp_le _ ?_
  have hterm : Shape.term atom L ≤ L :=
    sup_le (h.mul_le hopen (h.mul_le le_rfl hclose)) hatom
  have helement : Shape.element (Shape.term atom L) ≤ L :=
    h.mul_le (h.mul_le hterm (h.kstar_le (hseparator hterm))) (sup_le h.one_le hquantifier)
  have hsequence : Shape.sequence (Shape.term atom L) ≤ L :=
    h.mul_le helement (h.kstar_le helement)
  exact h.mul_le hsequence (h.kstar_le (h.mul_le hbar hsequence))

end Closed

/-- The words all of whose tokens are in `P`. -/
def Over (P : Token → Prop) : Language Token :=
  {w : List Token | ∀ t ∈ w, P t}

namespace Over

variable {P S : Token → Prop} {A B : Language Token}

theorem closed (P : Token → Prop) : Closed (Over P) := by
  refine ⟨?_, ?_⟩
  · rintro w rfl t ht
    cases ht
  · rintro w ⟨a, ha, b, hb, rfl⟩ t ht
    rcases List.mem_append.mp ht with ht | ht
    · exact ha t ht
    · exact hb t ht

theorem one_le : 1 ≤ Over P :=
  (closed P).one_le

theorem mul_le (hA : A ≤ Over P) (hB : B ≤ Over P) : A * B ≤ Over P :=
  (closed P).mul_le hA hB

theorem add_le (hA : A ≤ Over P) (hB : B ≤ Over P) : A + B ≤ Over P :=
  sup_le hA hB

theorem kstar_le (hA : A ≤ Over P) : A∗ ≤ Over P :=
  (closed P).kstar_le hA

theorem token_le (h : ∀ t, S t → P t) : Shape.one S ≤ Over P := by
  rintro w ⟨t, ht, rfl⟩ u hu
  rw [List.mem_singleton.mp hu]
  exact h t ht

/-- Between the braces of bounds there are integers and a range mark. -/
theorem limits_le (hinteger : ∀ value, P (.integer value)) (hrange : P (.mark .range)) :
    Shape.integer * (1 + Shape.mark .range * (1 + Shape.integer)) ≤ Over P := by
  have integer : Shape.integer ≤ Over P := token_le fun t ⟨value, ht⟩ => ht ▸ hinteger value
  exact mul_le integer
    (add_le one_le (mul_le (token_le fun t ht => ht ▸ hrange) (add_le one_le integer)))

theorem quantifier_le (hinteger : ∀ value, P (.integer value))
    (hmark : ∀ m ∈ [Mark.question, .star, .plus, .openBrace, .range, .closeBrace], P (.mark m)) :
    Shape.quantifier ≤ Over P := by
  have mark : ∀ {m : Mark}, m ∈ [Mark.question, .star, .plus, .openBrace, .range, .closeBrace] →
      Shape.mark m ≤ Over P := fun hm => token_le fun t ht => ht ▸ hmark _ hm
  have hbounds : Shape.bounds ≤ Over P :=
    mul_le (mark (by decide))
      (mul_le (limits_le hinteger (hmark _ (by decide))) (mark (by decide)))
  exact add_le (mark (by decide)) (add_le (mark (by decide)) (add_le (mark (by decide)) hbounds))

/-- Expressions have the tokens of their atoms and those that hold atoms together. -/
theorem expression_le {atom : Language Token} (hatom : atom ≤ Over P)
    (hinteger : ∀ value, P (.integer value))
    (hmark : ∀ m : Mark, m ≠ .colon → m ≠ .semicolon → P (.mark m)) :
    Shape.expression atom ≤ Over P := by
  have mark : ∀ {m : Mark}, m ≠ .colon → m ≠ .semicolon → Shape.mark m ≤ Over P :=
    fun hcolon hsemicolon => token_le fun t ht => ht ▸ hmark _ hcolon hsemicolon
  have hquantifier : Shape.quantifier ≤ Over P :=
    quantifier_le hinteger fun m hm =>
      hmark m (by rintro rfl; revert hm; decide) (by rintro rfl; revert hm; decide)
  exact (closed P).expression_le hatom (mark nofun nofun) (mark nofun nofun) (mark nofun nofun)
    hquantifier fun hterm => mul_le (mul_le (mark nofun nofun) hterm) hquantifier

/-- The marks of atoms are bars and dollar signs. -/
theorem ruleAtom_le {m : Mark} (hbar : m ≠ .bar) (hdollar : m ≠ .dollar) :
    Shape.ruleAtom ≤ Over (· ≠ .mark m) := by
  have token : ∀ {α : Type} {make : α → Token}, (∀ a, make a ≠ .mark m) →
      Shape.one (fun t => ∃ a, t = make a) ≤ Over (· ≠ .mark m) := fun hmake =>
    token_le fun t ⟨a, ht⟩ => ht ▸ hmake a
  have word : ∀ text, Shape.word text ≤ Over (· ≠ .mark m) := fun text =>
    token_le fun t ht => ht ▸ Token.noConfusion
  have mark : ∀ {m' : Mark}, m ≠ m' → Shape.mark m' ≤ Over (· ≠ .mark m) := fun hm =>
    token_le fun t ht => ht ▸ fun h => hm (Token.mark.inj h).symm
  have hliteral : Shape.literal ≤ Over (· ≠ .mark m) := token nofun
  have hrun : Shape.run ≤ Over (· ≠ .mark m) :=
    mul_le hliteral (kstar_le (mul_le (mark hbar) hliteral))
  have hdirective : Shape.directive ≤ Over (· ≠ .mark m) :=
    mul_le (mark hdollar) (add_le (word _) (add_le
      (mul_le (word _) (add_le (mul_le (word _) hrun) hliteral))
      (mul_le (word _) (add_le (word _) (add_le (word _) (word _))))))
  exact add_le (token nofun) (add_le (token nofun) (add_le hdirective (add_le (token nofun) hrun)))

/-- A header has names and dollar signs. -/
theorem header_le (hname : ∀ name, P (.ruleName name)) (hdollar : P (.mark .dollar)) :
    Shape.header ≤ Over P := by
  have word : ∀ text, Shape.word text ≤ Over P := fun text => token_le fun t ht => ht ▸ hname text
  have name : Shape.ruleName ≤ Over P := token_le fun t ⟨name, ht⟩ => ht ▸ hname name
  have hstrategy : Shape.strategy ≤ Over P :=
    add_le one_le (mul_le (add_le (word _) (word _)) (add_le one_le (add_le (word _) (word _))))
  exact add_le (mul_le (token_le fun t ht => ht ▸ hdollar)
    (add_le (mul_le (word _) (add_le one_le name)) (mul_le (word _) hstrategy))) name

end Over

/-- No literal stands before the colon of a declaration, and no other colon behind it. -/
theorem Declares.exists_colon {tokens : List Token} {d : Declaration} (h : Declares tokens d []) :
    ∃ head body, tokens = head ++ .mark .colon :: body ∧ (∀ t ∈ head, ∀ text, t ≠ .literal text) ∧
      .mark .colon ∉ body := by
  have hparts : ∀ {A B : Language Token}, A ≤ Over (fun t => ∀ text, t ≠ .literal text) →
      B ≤ Over (· ≠ .mark .colon) → tokens ∈ A * Shape.mark .colon * B * Shape.mark .semicolon →
      ∃ head body, tokens = head ++ .mark .colon :: body ∧
        (∀ t ∈ head, ∀ text, t ≠ .literal text) ∧ .mark .colon ∉ body := by
    rintro A B hA hB ⟨_, ⟨_, ⟨head, hhead, _, ⟨_, rfl, rfl⟩, rfl⟩, body, hbody, rfl⟩, _,
      ⟨_, rfl, rfl⟩, rfl⟩
    refine ⟨head, body ++ [.mark .semicolon], by simp, hA hhead, fun hcolon => ?_⟩
    rcases List.mem_append.mp hcolon with hcolon | hcolon
    · exact hB hbody _ hcolon rfl
    · cases List.mem_singleton.mp hcolon
  have hrule : Shape.expression Shape.ruleAtom ≤ Over (· ≠ .mark .colon) :=
    Over.expression_le (Over.ruleAtom_le nofun nofun) nofun fun m hm _ h => hm (Token.mark.inj h)
  rcases h.mem_declaration with hmem | hmem
  · exact hparts (Over.token_le fun t ⟨name, ht⟩ => ht ▸ fun _ => Token.noConfusion)
      (Shape.pattern_le_rule.trans hrule) hmem
  · exact hparts (Over.header_le (fun _ _ => nofun) fun _ => nofun) hrule hmem

end Grammar
end GrammarText
