/-
The canonical trees are those that survive printing.  The parsers return no others, and what is
printed of a canonical tree is lexed without an error and parsed back.
-/
import GrammarText.Proofs.Printer.Derivation

namespace GrammarText

open GrammarText.Parser

namespace Grammar

open GrammarText.Expr (Canonical)

/-- Literals with bars between them are a run if no bar follows. -/
theorem run_runTokens {texts : List String} (hne : texts ≠ []) {rest : List Token}
    (hrest : ∀ more, rest ≠ .mark .bar :: more) :
    Run (PatternLeaf.runTokens texts ++ rest) texts rest := by
  induction texts with
  | nil => exact absurd rfl hne
  | cons text others ih =>
    cases others with
    | nil => exact .last fun next more => hrest _
    | cons next more =>
      rw [PatternLeaf.runTokens]
      · exact .more (ih (by simp))
      · simp

theorem patternAtom_of_canonical {leaf : PatternLeaf} {rest : List Token}
    (h : leaf.IsCanonical)
    (hrest : leaf.endsInLiteral = true → ∀ more, rest ≠ .mark .bar :: more) :
    PatternAtom (leaf.tokens ++ rest) leaf rest := by
  cases leaf with
  | ref name => exact .ref
  | literal text =>
    have hrun : Run (PatternLeaf.runTokens [text] ++ rest) [text] rest :=
      run_runTokens (by simp) (hrest rfl)
    exact .plain hrun fun t ht => by rwa [List.mem_singleton.mp ht]
  | literalChoice texts =>
    obtain ⟨two, hends⟩ := h
    obtain ⟨first, second, others, rfl⟩ := exists_cons_cons_of_two two
    exact .plain (run_runTokens (by simp) (hrest rfl)) hends
  | keyword text =>
    rw [PatternLeaf.tokens]
    split
    · rename_i hends
      have hrun : Run (PatternLeaf.runTokens [text] ++ rest) [text] rest :=
        run_runTokens (by simp) (hrest rfl)
      exact .keywords hrun fun t ht => by rwa [List.mem_singleton.mp ht]
    · exact .keyword
  | keywordChoice texts =>
    have hne : texts ≠ [] := List.length_pos_iff.mp h
    have hrun := run_runTokens hne (hrest rfl)
    rw [PatternLeaf.tokens]
    split
    · rename_i hall
      obtain ⟨two, hends⟩ : 1 < texts.length ∧ ∀ t ∈ texts, Text.endsInWord t = true := by
        simpa using hall
      obtain ⟨first, second, others, rfl⟩ := exists_cons_cons_of_two two
      exact .keywords hrun hends
    · exact .keywordChoice hrun
  | identifier => exact .identifier
  | number kind => exact .number
  | regex body => exact .regex
  | builtin token => exact h.elim

theorem PatternAtom.head_ne_bar {tokens rest : List Token} {leaf : PatternLeaf}
    (h : PatternAtom tokens leaf rest) : ∀ more, tokens ≠ .mark .bar :: more := by
  intro more heq
  have hreads : Reads (Pattern.termForms Pattern.parser) tokens _ rest := h.reads
  obtain ⟨t, later, ht, hopens⟩ :=
    hreads.opens (Pattern.termForms_takes Pattern.parser_takes.plain)
  rw [heq] at ht
  obtain ⟨rfl, -⟩ := List.cons.inj ht
  cases hopens

theorem pattern_spelledAtoms :
    SpelledAtoms PatternAtom PatternLeaf.tokens PatternLeaf.IsCanonical where
  derives := fun h hclear => patternAtom_of_canonical h fun hends => hclear (.inl hends)
  head_ne_bar := fun h => h.head_ne_bar

theorem ruleAtom_of_canonical {leaf : RuleLeaf} {rest : List Token} (h : leaf.IsCanonical)
    (hclear : Clear (.leaf leaf) rest) : RuleAtom (leaf.tokens ++ rest) leaf rest := by
  match leaf, h with
  | .ref name, _ => exact .ref
  | .token (.leaf value), h =>
    exact .token (patternAtom_of_canonical h fun hends => hclear (.inl hends))

theorem rule_spelledAtoms : SpelledAtoms RuleAtom RuleLeaf.tokens RuleLeaf.IsCanonical where
  derives := ruleAtom_of_canonical
  head_ne_bar := fun h => by
    cases h with
    | ref => simp
    | token atom => exact atom.head_ne_bar

section

variable {Leaf : Type} {Atom : List Token → Leaf → List Token → Prop} {P : Leaf → Prop}
  {expr : Parser (Expr Leaf)}

theorem allLexed_tokenize (source : String) : AllLexed (nodes (tokenize source).tokens) :=
  fun _ ht => Lexed.isLexed_of_mem_tokens ht

/-- What is read off the front of the tokens of a text is canonical. -/
theorem canonical_of_succeeds (hsound : ∀ n, Sound n (Expression Atom) expr)
    (hlexed : LexedAtoms Atom P) {source : String} {stop : Nat} {e : Expr Leaf}
    {rest : List Lexeme} (h : Succeeds expr stop (tokenize source).tokens e rest) :
    e.Canonical P :=
  (hsound _ (Nat.lt_succ_self _) h).canonical hlexed (allLexed_tokenize source)

theorem canonical_of_run (hsound : ∀ n, Sound n (Expression Atom) expr)
    (hlexed : LexedAtoms Atom P) {source : String} {stop : Nat} {e : Expr Leaf}
    (h : run (before expr endOfInput) stop (tokenize source).tokens = .ok e) :
    e.Canonical P := by
  obtain ⟨rest, hs⟩ := run_eq_ok.mp h
  obtain ⟨mid, _, hexpr, -⟩ := succeeds_before.mp hs
  exact canonical_of_succeeds hsound hlexed hexpr

end

section

variable {Leaf : Type} [LeafText Leaf] {Atom : List Token → Leaf → List Token → Prop}
  {spell : Leaf → List Token} {P : Leaf → Prop} {expr term : Parser (Expr Leaf)}

/-- Before something that closes, the tokens of a canonical tree derive it as an expression. -/
theorem expression_of_canonical (hatoms : SpelledAtoms Atom spell P) {e : Expr Leaf}
    (h : e.Canonical P) {rest : List Token} (hrest : ∀ more, rest ≠ .mark .bar :: more) :
    Expression Atom (e.tokens spell ++ rest) e rest := by
  have hderives := derives_of_canonical hatoms h rest (.of_head hrest)
  have hexpression : At Atom .choice (e.tokens spell ++ rest) e rest :=
    hderives.loosen (Nat.zero_le _)
  exact hexpression

/-- The text of a canonical tree has no lexical error, and its tokens are those of the tree. -/
theorem tokenize_print
    (hspells : ∀ value, P value → Lexed.Spells (LeafText.text value).toList (spell value))
    {e : Expr Leaf} (h : e.Canonical P) :
    (tokenize e.print).errors = [] ∧ nodes (tokenize e.print).tokens = e.tokens spell :=
  (Lexed.tokenize_eq_iff e.print _).mpr (Lexed.spells_print hspells h).reading_eq

/-- The tokens of a canonical tree are parsed back. -/
theorem run_of_nodes_eq (hreads : ReadsTerms Atom expr term) (hatoms : SpelledAtoms Atom spell P)
    {e : Expr Leaf} (h : e.Canonical P) (stop : Nat) {tokens : List Lexeme}
    (htokens : nodes tokens = e.tokens spell) :
    run (before expr endOfInput) stop tokens = .ok e := by
  have hend : ∀ more, [] ≠ Token.mark .bar :: more := fun _ => nofun
  have hderived := expression_of_canonical hatoms h hend
  rw [List.append_nil, ← htokens] at hderived
  exact hderived.run_eq_ok hreads stop

/-- Printed text is read back to the tree if and only if the tree is canonical. -/
theorem survives_printing_iff (hreads : ReadsTerms Atom expr term)
    (hsound : ∀ n, Sound n (Expression Atom) expr) (hlexed : LexedAtoms Atom P)
    (hatoms : SpelledAtoms Atom spell P)
    (hspells : ∀ value, P value → Lexed.Spells (LeafText.text value).toList (spell value))
    (e : Expr Leaf) (stop : Nat) :
    ((tokenize e.print).errors = [] ∧
        run (before expr endOfInput) stop (tokenize e.print).tokens = .ok e ↔ e.Canonical P) ∧
      (run (before expr endOfInput) stop (tokenize e.print).tokens = .ok e ↔ e.Canonical P) := by
  have honly : run (before expr endOfInput) stop (tokenize e.print).tokens = .ok e →
      e.Canonical P := canonical_of_run hsound hlexed
  have hback : e.Canonical P →
      run (before expr endOfInput) stop (tokenize e.print).tokens = .ok e :=
    fun h => run_of_nodes_eq hreads hatoms h stop (tokenize_print hspells h).2
  exact ⟨⟨fun h => honly h.2, fun h => ⟨(tokenize_print hspells h).1, hback h⟩⟩, honly, hback⟩

end

theorem pattern_lexedAtoms : LexedAtoms PatternAtom PatternLeaf.IsCanonical :=
  fun _ _ _ h => h.canonical

theorem rule_lexedAtoms : LexedAtoms RuleAtom RuleLeaf.IsCanonical :=
  fun _ _ _ h => h.canonical

/-- The parsers of patterns and of rules return canonical trees alone, whatever the text.  A tree
is canonical if and only if its printed text is lexed without an error and parsed, to its end, back
to the tree.  That the text is parsed back to the tree is enough. -/
theorem canonical_iff_survives_printing :
    (∀ source stop, {e | run Pattern.parser stop (tokenize source).tokens = .ok e} ⊆
        {e | Pattern.IsCanonical e}) ∧
      (∀ source stop, {e | run Rule.parser stop (tokenize source).tokens = .ok e} ⊆
        {e | Rule.IsCanonical e}) ∧
      (∀ (e : Pattern) (stop : Nat),
        ((tokenize e.print).errors = [] ∧
            run (before Pattern.parser endOfInput) stop (tokenize e.print).tokens = .ok e ↔
          e.IsCanonical) ∧
        (run (before Pattern.parser endOfInput) stop (tokenize e.print).tokens = .ok e ↔
          e.IsCanonical)) ∧
      (∀ (e : Rule) (stop : Nat),
        ((tokenize e.print).errors = [] ∧
            run (before Rule.parser endOfInput) stop (tokenize e.print).tokens = .ok e ↔
          e.IsCanonical) ∧
        (run (before Rule.parser endOfInput) stop (tokenize e.print).tokens = .ok e ↔
          e.IsCanonical)) := by
  refine ⟨fun source stop e h => ?_, fun source stop e h => ?_, fun e stop => ?_,
    fun e stop => ?_⟩
  · obtain ⟨rest, hs⟩ := run_eq_ok.mp h
    exact canonical_of_succeeds pattern_sound pattern_lexedAtoms hs
  · obtain ⟨rest, hs⟩ := run_eq_ok.mp h
    exact canonical_of_succeeds rule_sound rule_lexedAtoms hs
  · exact survives_printing_iff pattern_readsTerms pattern_sound pattern_lexedAtoms
      pattern_spelledAtoms Lexed.spells_patternLeaf e stop
  · exact survives_printing_iff rule_readsTerms rule_sound rule_lexedAtoms rule_spelledAtoms
      Lexed.spells_ruleLeaf e stop

end Grammar
end GrammarText
