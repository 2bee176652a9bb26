/-
The grammar of rules extends the grammar of patterns and adds nothing to it but references.  Every
list of tokens that is a pattern is the rule with the same composition, and a rule that refers to no
rule is a pattern.
-/
import GrammarText.Proofs.Grammar.Soundness

namespace GrammarText

open GrammarText.Parser

/-- The leaf of a pattern that stands in the place of a rule.  Where none does, as in a reference,
any leaf will do. -/
def RuleLeaf.patternLeaf : RuleLeaf → PatternLeaf
  | token (.leaf leaf) => leaf
  | _ => .identifier

namespace Grammar

/-- The atoms of rules that are no references are the atoms of patterns. -/
theorem ruleAtoms_patternLeaf : MapsAtoms RuleAtom PatternAtom
    (fun leaf => ∀ name, leaf ≠ .ref name) RuleLeaf.patternLeaf := by
  intro tokens leaf rest read hleaf
  cases read with
  | ref => exact absurd rfl (hleaf _)
  | token atom => exact atom

/-- No leaf of a pattern becomes a reference to a rule. -/
theorem ref_not_mem_leaves_toRule (t : Pattern) (name : String) : .ref name ∉ t.toRule.leaves := by
  intro h
  rw [Pattern.toRule, Expr.leaves_mapLeaves] at h
  obtain ⟨leaf, -, hleaf⟩ := List.mem_map.mp h
  cases hleaf

/-- A parser of expressions, with nothing behind the expression, reads what the grammar derives. -/
theorem run_iff_expression {Leaf : Type} {Atom : List Token → Leaf → List Token → Prop}
    {expr term : Parser (Expr Leaf)} (hreads : ReadsTerms Atom expr term)
    (hsound : ∀ n, Sound n (Expression Atom) expr) {stop : Nat} {tokens : List Lexeme}
    {e : Expr Leaf} :
    run (before expr endOfInput) stop tokens = .ok e ↔ Expression Atom (nodes tokens) e [] :=
  ⟨fun h => hsound _ (Nat.lt_succ_self _) (run_before_endOfInput.mp h),
    fun h => h.run_eq_ok hreads stop⟩

/-- On every list of tokens the rules without references that the parser of rules reads to the end
are those of the patterns that the parser of patterns reads to the end.  So the first accepts
whatever the second does, with the same composition over the same leaves, and what else it accepts
refers to a rule. -/
theorem rule_parser_reads_patterns (stop : Nat) (tokens : List Lexeme) (r : Rule) :
    (run (before Rule.parser endOfInput) stop tokens = .ok r ∧ ∀ name, .ref name ∉ r.leaves) ↔
      ∃ t : Pattern, run (before Pattern.parser endOfInput) stop tokens = .ok t ∧
        t.toRule = r := by
  have hpattern := @run_iff_expression _ _ _ _ pattern_readsTerms pattern_sound stop tokens
  have hrule := @run_iff_expression _ _ _ _ rule_readsTerms rule_sound stop tokens
  constructor
  · intro ⟨hrun, hrefs⟩
    have hleaves : ∀ leaf ∈ r.leaves, ∀ name, leaf ≠ .ref name :=
      fun leaf hleaf name hname => hrefs name (hname ▸ hleaf)
    have hderived := (hrule.mp hrun).mapLeaves ruleAtoms_patternLeaf hleaves
    refine ⟨_, hpattern.mpr hderived, ?_⟩
    -- The pattern is a rule for the same tokens, and the parser of rules has one value for them.
    exact Except.ok.inj ((hrule.mpr hderived.toRule).symm.trans hrun)
  · rintro ⟨t, hrun, rfl⟩
    exact ⟨hrule.mpr (hpattern.mp hrun).toRule, ref_not_mem_leaves_toRule t⟩

end Grammar
end GrammarText
