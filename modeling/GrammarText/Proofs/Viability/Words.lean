/-
What the parsers read are words of the languages of the notation.
-/
import GrammarText.Proofs.Parser.Recursion
import GrammarText.Proofs.Parser.Nodes
import GrammarText.Proofs.Viability.Shape

namespace GrammarText

open Computability GrammarText.Parser

namespace Grammar

/-- The tokens make a word of the language. -/
def Spells (D : Language Token) (read : List Lexeme) : Prop :=
  nodes read ∈ D

variable {α β : Type} {A B : Language Token} {S : Token → Prop} {p : Parser α} {q : Parser β}

theorem spells_exactly (wanted : Expectation) (expected : Token) :
    Takes (Spells (Shape.one (· = expected))) (exactly wanted expected) := by
  intro stop tokens value rest hs
  obtain ⟨t, rfl, ht⟩ := succeeds_exactly.mp hs
  exact ⟨[t], rfl, t.node, ht, rfl⟩

theorem spells_mark (m : Mark) : Takes (Spells (Shape.mark m)) (mark m) :=
  spells_exactly _ _

theorem spells_word (w : Word) : Takes (Spells (Shape.word w.text)) (Pattern.word w) :=
  (spells_exactly _ _).labelled

theorem spells_token (wanted : Expectation) {read : Token → Option α}
    (hread : ∀ t value, read t = some value → S t) :
    Takes (Spells (Shape.one S)) (token wanted read) := by
  intro stop tokens value rest hs
  obtain ⟨t, rfl, ht⟩ := succeeds_token.mp hs
  exact ⟨[t], rfl, t.node, hread _ _ ht, rfl⟩

theorem spells_both (hp : Takes (Spells A) p) (hq : Takes (Spells B) q) :
    Takes (Spells (A * B)) (both p q) :=
  hp.join hq fun a b ha hb => by
    show nodes (a ++ b) ∈ A * B
    rw [nodes_append]
    exact Language.append_mem_mul ha hb

theorem spells_before (hp : Takes (Spells A) p) (hq : Takes (Spells B) q) :
    Takes (Spells (A * B)) (before p q) :=
  (spells_both hp hq).map

theorem spells_after (hp : Takes (Spells A) p) (hq : Takes (Spells B) q) :
    Takes (Spells (A * B)) (after p q) :=
  (spells_both hp hq).map

theorem spells_firstOf {o : Parser α} {others : List (Parser α)} (hp : Takes (Spells A) p)
    (ho : Takes (Spells B) (firstOf o others)) :
    Takes (Spells (A + B)) (firstOf p (o :: others)) := by
  intro stop tokens value rest hs
  rcases succeeds_firstOf_cons.mp hs with hs | ⟨-, hs⟩
  · obtain ⟨read, hread, hmem⟩ := hp hs
    exact ⟨read, hread, .inl hmem⟩
  · obtain ⟨read, hread, hmem⟩ := ho hs
    exact ⟨read, hread, .inr hmem⟩

theorem spells_optional (hp : Takes (Spells A) p) : Takes (Spells (1 + A)) (optional p) := by
  intro stop tokens value rest hs
  rcases succeeds_optional.mp hs with ⟨a, -, ha⟩ | ⟨-, rfl, -⟩
  · obtain ⟨read, hread, hmem⟩ := hp ha
    exact ⟨read, hread, .inr hmem⟩
  · exact ⟨[], rfl, .inl rfl⟩

theorem spells_collect (hp : Takes (Spells A) p) (stop limit : Nat) (tokens : List Lexeme) :
    ∃ read, tokens = read ++ (collect p stop limit tokens).2.1 ∧ Spells A∗ read := by
  induction limit generalizing tokens with
  | zero => exact ⟨[], rfl, Language.nil_mem_kstar A⟩
  | succ limit ih =>
    rcases succeeds_or_fails p stop tokens with ⟨first, mid, hv⟩ | hf
    · obtain ⟨read, rfl, hread⟩ := hp hv
      obtain ⟨more, hmore, hmem⟩ := ih mid
      refine ⟨read ++ more, ?_, ?_⟩
      · rw [(collect_of_succeeds limit hv).2, List.append_assoc, ← hmore]
      · show nodes (read ++ more) ∈ A∗
        rw [nodes_append, ← Language.one_add_self_mul_kstar_eq_kstar]
        exact .inr (Language.append_mem_mul hread hmem)
    · exact ⟨[], (collect_of_fails limit hf).2.symm, Language.nil_mem_kstar A⟩

theorem spells_many (hp : Takes (Spells A) p) : Takes (Spells A∗) (many p) := by
  intro stop tokens value rest hs
  obtain ⟨-, rfl⟩ := succeeds_many.mp hs
  exact spells_collect hp stop _ tokens

end Grammar

open Grammar

namespace Quantifier

theorem integer_spells : Takes (Spells Shape.integer) integer :=
  spells_token _ fun t value h => by cases t <;> cases h; exact ⟨value, rfl⟩

theorem bounds_spells : Takes (Spells Shape.bounds) bounds :=
  spells_after (spells_mark _)
    (spells_before
      (spells_both integer_spells
        (spells_optional (spells_after (spells_mark _) (spells_optional integer_spells))))
      (spells_mark _))

theorem parser_spells : Takes (Spells Shape.quantifier) parser :=
  (spells_firstOf (spells_mark _).map
    (spells_firstOf (spells_mark _).map
      (spells_firstOf (spells_mark _).map bounds_spells.checked))).labelled

end Quantifier

namespace Expr

variable {Leaf : Type} {term inner : Parser (Expr Leaf)} {T E : Language Token}

theorem layers_spells (h : Takes (Spells T) term) :
    Takes (Spells (Shape.alternatives T)) (layers term) := by
  have hseparated : Takes (Spells (Shape.separated T)) (separatedParser term) :=
    (spells_both h
      (spells_many (spells_both (spells_after (spells_mark _) h) Quantifier.parser_spells))).map
  have helement : Takes (Spells (Shape.element T)) (quantifiedParser term) :=
    (spells_both hseparated (spells_optional Quantifier.parser_spells)).map
  have hsequence : Takes (Spells (Shape.sequence T)) (sequenceParser term) :=
    (spells_both helement (spells_many helement)).map.map
  exact (spells_both hsequence (spells_many (spells_after (spells_mark _) hsequence))).map

theorem group_spells (h : Takes (Spells E) inner) :
    Takes (Spells (Shape.group E)) (group inner) :=
  spells_after (spells_mark _) (spells_before h (spells_mark _))

end Expr

namespace Pattern

theorem tokenName_spells : Takes (Spells Shape.tokenName) tokenName :=
  spells_token _ fun t value h => by cases t <;> cases h; exact ⟨value, rfl⟩

theorem literal_spells : Takes (Spells Shape.literal) literal :=
  spells_token _ fun t value h => by cases t <;> cases h; exact ⟨value, rfl⟩

theorem regex_spells : Takes (Spells Shape.regex) regex :=
  spells_token _ fun t value h => by cases t <;> cases h; exact ⟨value, rfl⟩

theorem literalRun_spells : Takes (Spells Shape.run) literalRun :=
  (spells_both literal_spells (spells_many (spells_after (spells_mark _) literal_spells))).map

theorem keyword_spells : Takes (Spells Shape.keyword) keyword :=
  spells_firstOf (spells_after (spells_word _) literalRun_spells).map literal_spells.map

theorem numberKind_spells : Takes (Spells Shape.numberKind) numberKind :=
  spells_firstOf (spells_word _).map (spells_firstOf (spells_word _).map (spells_word _).map)

theorem directive_spells : Takes (Spells Shape.directive) directive :=
  spells_after (spells_mark _)
    (spells_firstOf (spells_word _).map
      (spells_firstOf (spells_after (spells_word _) keyword_spells)
        (spells_after (spells_word _) numberKind_spells.map)))

theorem termForms_spells {inner : Parser Pattern} {E : Language Token}
    (h : Takes (Spells E) inner) :
    Takes (Spells (Shape.term Shape.patternAtom E)) (termForms inner) :=
  spells_firstOf (Expr.group_spells h)
    (spells_firstOf tokenName_spells.map
      (spells_firstOf directive_spells.map
        (spells_firstOf regex_spells.map literalRun_spells.checked.map)))

theorem parser_spells : Takes (Spells (Shape.expression Shape.patternAtom)) parser := by
  have hnested : ∀ depth, Takes (Spells (Shape.expression Shape.patternAtom)) (nested depth) := by
    intro depth
    induction depth with
    | zero => exact Expr.tooDeep_takes
    | succ depth ih =>
      rw [Shape.expression_eq]
      exact Expr.layers_spells (termForms_spells ih).labelled
  intro stop tokens value rest hs
  obtain ⟨setback, h⟩ := hs
  exact hnested (tokens.length + 1) ⟨setback, h⟩

end Pattern

namespace Rule

theorem ruleName_spells : Takes (Spells Shape.ruleName) ruleName :=
  spells_token _ fun t value h => by cases t <;> cases h; exact ⟨value, rfl⟩

theorem term_spells {inner : Parser Rule}
    (h : Takes (Spells (Shape.expression Shape.ruleAtom)) inner) :
    Takes (Spells (Shape.term Shape.ruleAtom (Shape.expression Shape.ruleAtom))) (term inner) := by
  refine ((spells_firstOf (Expr.group_spells h) (spells_firstOf ruleName_spells.map
    (Pattern.termForms_spells Pattern.parser_spells).map)).labelled).imp fun read hread => ?_
  rcases hread with hgroup | hname | hgroup | hatom
  · exact .inl hgroup
  · exact .inr (.inl hname)
  · exact .inl (Shape.group_mono Shape.pattern_le_rule hgroup)
  · exact .inr (.inr hatom)

theorem parser_spells : Takes (Spells (Shape.expression Shape.ruleAtom)) parser := by
  have hnested : ∀ depth, Takes (Spells (Shape.expression Shape.ruleAtom)) (nested depth) := by
    intro depth
    induction depth with
    | zero => exact Expr.tooDeep_takes
    | succ depth ih =>
      rw [Shape.expression_eq]
      exact Expr.layers_spells (term_spells ih)
  intro stop tokens value rest hs
  obtain ⟨setback, h⟩ := hs
  exact hnested (tokens.length + 1) ⟨setback, h⟩

end Rule

namespace Declaration

theorem skipStrategy_spells : Takes (Spells Shape.strategy) skipStrategy :=
  (spells_optional
    (spells_both (spells_firstOf (spells_word _).map (spells_word _).map)
      (spells_optional (spells_firstOf (spells_word _).map (spells_word _).map)))).map

theorem header_spells : Takes (Spells Shape.header) header :=
  spells_firstOf
    (spells_after (spells_mark _)
      (spells_firstOf (spells_after (spells_word _) (spells_optional Rule.ruleName_spells).map)
        (spells_after (spells_word _) skipStrategy_spells.map)))
    Rule.ruleName_spells.map

/-- What is read as a declaration is a word of the language of declarations. -/
theorem parser_spells : Takes (Spells Shape.declaration) parser :=
  (spells_firstOf
    (spells_before
      (spells_both (spells_before Pattern.tokenName_spells (spells_mark _)) Pattern.parser_spells)
      (spells_mark _)).map
    (spells_before
      (spells_both (spells_before header_spells (spells_mark _)) Rule.parser_spells)
      (spells_mark _)).map).spanned

end Declaration
end GrammarText
