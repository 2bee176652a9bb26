/-
What the parsers read the grammar derives.  Every success is taken apart into the successes of its
parts.  A group in a rule is tried as a rule and then as a token term, but the second comes to
nothing: what is a group of a pattern is a group of a rule too, so the first has read it.
-/
import GrammarText.Proofs.Grammar.Completeness

namespace GrammarText

open GrammarText.Parser

namespace Grammar

section

variable {stop : Nat} {tokens rest : List Lexeme}

/- Parsers of one token. -/

theorem nodes_of_exactly {wanted : Expectation} {expected : Token} {value : Unit}
    (h : Succeeds (exactly wanted expected) stop tokens value rest) :
    nodes tokens = expected :: nodes rest := by
  obtain ⟨t, rfl, rfl⟩ := succeeds_exactly.mp h
  rfl

theorem nodes_of_word {w : Word} {value : Unit}
    (h : Succeeds (Pattern.word w) stop tokens value rest) :
    nodes tokens = .ruleName w.text :: nodes rest :=
  nodes_of_exactly (succeeds_labelled.mp h)

/-- A parser of one token that reads back what `make` puts into it. -/
theorem nodes_of_token {α : Type} {wanted : Expectation} {read : Token → Option α}
    {make : α → Token} (hmake : ∀ t value, read t = some value → t = make value) {value : α}
    (h : Succeeds (token wanted read) stop tokens value rest) :
    nodes tokens = make value :: nodes rest := by
  obtain ⟨t, rfl, ht⟩ := succeeds_token.mp h
  rw [nodes_cons, hmake t.node value ht]

theorem nodes_of_tokenName {name : String}
    (h : Succeeds Pattern.tokenName stop tokens name rest) :
    nodes tokens = .tokenName name :: nodes rest :=
  nodes_of_token (by intro t value h; cases t <;> cases h; rfl) h

theorem nodes_of_ruleName {name : String} (h : Succeeds Rule.ruleName stop tokens name rest) :
    nodes tokens = .ruleName name :: nodes rest :=
  nodes_of_token (by intro t value h; cases t <;> cases h; rfl) h

theorem nodes_of_literal {text : String} (h : Succeeds Pattern.literal stop tokens text rest) :
    nodes tokens = .literal text :: nodes rest :=
  nodes_of_token (by intro t value h; cases t <;> cases h; rfl) h

theorem nodes_of_regex {body : String} (h : Succeeds Pattern.regex stop tokens body rest) :
    nodes tokens = .regex body :: nodes rest :=
  nodes_of_token (by intro t value h; cases t <;> cases h; rfl) h

theorem nodes_of_integer {value : UInt32}
    (h : Succeeds Quantifier.integer stop tokens value rest) :
    nodes tokens = .integer value :: nodes rest :=
  nodes_of_token (by intro t value h; cases t <;> cases h; rfl) h

/- Quantifiers. -/

/-- The tokens of bounds as they are written. -/
theorem nodes_of_bounds {written : UInt32 × Option (Option UInt32)}
    (h : Succeeds Quantifier.bounds stop tokens written rest) :
    (∃ count, written = (count, none) ∧ nodes tokens =
      .mark .openBrace :: .integer count :: .mark .closeBrace :: nodes rest) ∨
    (∃ min, written = (min, some none) ∧ nodes tokens =
      .mark .openBrace :: .integer min :: .mark .range :: .mark .closeBrace :: nodes rest) ∨
    ∃ min max, written = (min, some (some max)) ∧ nodes tokens =
      .mark .openBrace :: .integer min :: .mark .range :: .integer max :: .mark .closeBrace ::
        nodes rest := by
  obtain ⟨inside, _, hopen, hinside⟩ := succeeds_after.mp h
  obtain ⟨last, _, hbody, hclose⟩ := succeeds_before.mp hinside
  obtain ⟨mid, hmin, hupper⟩ := succeeds_both.mp hbody
  obtain ⟨min, upper⟩ := written
  rw [nodes_of_exactly hopen, nodes_of_integer hmin]
  rcases succeeds_optional.mp hupper with ⟨max, rfl, hrange⟩ | ⟨rfl, rfl, -⟩
  · obtain ⟨later, _, hdots, hlast⟩ := succeeds_after.mp hrange
    rw [nodes_of_exactly hdots]
    rcases succeeds_optional.mp hlast with ⟨max, rfl, hmax⟩ | ⟨rfl, rfl, -⟩
    · rw [nodes_of_integer hmax, nodes_of_exactly hclose]
      exact .inr (.inr ⟨min, max, rfl, rfl⟩)
    · rw [nodes_of_exactly hclose]
      exact .inr (.inl ⟨min, rfl, rfl⟩)
  · rw [nodes_of_exactly hclose]
    exact .inl ⟨min, rfl, rfl⟩

theorem bounds_sound {written : UInt32 × Option (Option UInt32)} {span : Span} {q : Quantifier}
    (h : Succeeds Quantifier.bounds stop tokens written rest)
    (hq : Quantifier.ofWritten written span = .ok q) : Bounds (nodes tokens) q (nodes rest) := by
  rcases nodes_of_bounds h with ⟨count, rfl, hnodes⟩ | ⟨min, rfl, hnodes⟩ | ⟨min, max, rfl, hnodes⟩
  · rw [hnodes]
    cases hq
    exact .exactly
  · rw [hnodes]
    cases hq
    exact .atLeast
  · rw [hnodes]
    simp only [Quantifier.ofWritten, Quantifier.between?] at hq
    by_cases hle : min ≤ max
    · rw [dif_pos hle] at hq
      cases hq
      exact .between hle
    · rw [dif_neg hle] at hq
      cases hq

theorem quantifier_sound {q : Quantifier} (h : Succeeds Quantifier.parser stop tokens q rest) :
    Bounds (nodes tokens) q (nodes rest) := by
  rcases succeeds_firstOf_cons.mp (succeeds_labelled.mp h) with h | ⟨-, h⟩
  · obtain ⟨u, hmark, rfl⟩ := succeeds_map.mp h
    rw [nodes_of_exactly hmark]
    exact .optional
  rcases succeeds_firstOf_cons.mp h with h | ⟨-, h⟩
  · obtain ⟨u, hmark, rfl⟩ := succeeds_map.mp h
    rw [nodes_of_exactly hmark]
    exact .zeroOrMore
  rcases succeeds_firstOf_cons.mp h with h | ⟨-, h⟩
  · obtain ⟨u, hmark, rfl⟩ := succeeds_map.mp h
    rw [nodes_of_exactly hmark]
    exact .oneOrMore
  · obtain ⟨written, hbounds, hq⟩ := succeeds_checked.mp h
    exact bounds_sound hbounds hq

/- The terms of patterns. -/

theorem joinedLiterals_sound {first : String} {others : List String}
    (h : Succeeds (many (after (mark .bar) Pattern.literal)) stop tokens others rest) :
    Run (.literal first :: nodes tokens) (first :: others) (nodes rest) := by
  induction others generalizing first tokens with
  | nil =>
    rcases joinedLiteral_takes.succeeds_many.mp h with ⟨-, rfl, hf⟩ | ⟨_, _, _, hnil, -, -⟩
    · refine .last fun next more hnext => ?_
      -- Were a literal joined, the repetition would have gone on.
      obtain ⟨remaining, -, hs⟩ := (Reads.mark.after literal_reads : Reads
        (after (mark .bar) Pattern.literal) (.mark .bar :: .literal next :: more) next more)
        stop hnext
      exact hs.not_fails hf
    · cases hnil
  | cons next others ih =>
    rcases joinedLiteral_takes.succeeds_many.mp h with ⟨hnil, -⟩ | ⟨_, _, mid, heq, hs, hlater⟩
    · cases hnil
    · obtain ⟨rfl, rfl⟩ := List.cons.inj heq
      obtain ⟨behind, _, hbar, hliteral⟩ := succeeds_after.mp hs
      rw [nodes_of_exactly hbar, nodes_of_literal hliteral]
      exact .more (ih hlater)

theorem literalRun_sound {texts : List String}
    (h : Succeeds Pattern.literalRun stop tokens texts rest) :
    Run (nodes tokens) texts (nodes rest) := by
  obtain ⟨⟨first, others⟩, hboth, rfl⟩ := succeeds_map.mp h
  obtain ⟨mid, hfirst, hothers⟩ := succeeds_both.mp hboth
  rw [nodes_of_literal hfirst]
  exact joinedLiterals_sound hothers

theorem literalChoice_sound {leaf : PatternLeaf}
    (h : Succeeds Pattern.literalChoice stop tokens leaf rest) :
    PatternAtom (nodes tokens) leaf (nodes rest) := by
  obtain ⟨texts, htexts, hleaf⟩ := succeeds_checked.mp h
  have hrun := literalRun_sound htexts
  cases hof : PatternLeaf.ofLiterals? texts with
  | none =>
    rw [hof] at hleaf
    cases hleaf
  | some found =>
    rw [hof] at hleaf
    cases hleaf
    rcases (ofLiterals?_eq_some hrun.ne_nil).mp hof with ⟨ends, rfl⟩ | ⟨ends, rfl⟩
    · exact .keywords hrun ends
    · exact .plain hrun ends

theorem keyword_sound {leaf : PatternLeaf} (h : Succeeds Pattern.keyword stop tokens leaf rest) :
    PatternAtom (.mark .dollar :: .ruleName "keyword" :: nodes tokens) leaf (nodes rest) := by
  rcases succeeds_firstOf_cons.mp h with h | ⟨-, h⟩
  · obtain ⟨texts, htexts, rfl⟩ := succeeds_map.mp h
    obtain ⟨mid, _, hword, hrun⟩ := succeeds_after.mp htexts
    rw [nodes_of_word hword]
    exact .keywordChoice (literalRun_sound hrun)
  · obtain ⟨text, htext, rfl⟩ := succeeds_map.mp h
    rw [nodes_of_literal htext]
    exact .keyword

theorem numberKind_sound {kind : NumberKind}
    (h : Succeeds Pattern.numberKind stop tokens kind rest) :
    nodes tokens = .ruleName kind.word :: nodes rest := by
  rcases succeeds_firstOf_cons.mp h with h | ⟨-, h⟩
  · obtain ⟨u, hword, rfl⟩ := succeeds_map.mp h
    exact nodes_of_word hword
  rcases succeeds_firstOf_cons.mp h with h | ⟨-, h⟩
  · obtain ⟨u, hword, rfl⟩ := succeeds_map.mp h
    exact nodes_of_word hword
  · obtain ⟨u, hword, rfl⟩ := succeeds_map.mp h
    exact nodes_of_word hword

theorem directive_sound {leaf : PatternLeaf}
    (h : Succeeds Pattern.directive stop tokens leaf rest) :
    PatternAtom (nodes tokens) leaf (nodes rest) := by
  obtain ⟨mid, _, hdollar, h⟩ := succeeds_after.mp h
  rw [nodes_of_exactly hdollar]
  rcases succeeds_firstOf_cons.mp h with h | ⟨-, h⟩
  · obtain ⟨u, hword, rfl⟩ := succeeds_map.mp h
    rw [nodes_of_word hword]
    exact .identifier
  rcases succeeds_firstOf_cons.mp h with h | ⟨-, h⟩
  · obtain ⟨later, _, hword, hkeyword⟩ := succeeds_after.mp h
    rw [nodes_of_word hword]
    exact keyword_sound hkeyword
  · obtain ⟨later, _, hword, hnumber⟩ := succeeds_after.mp h
    obtain ⟨kind, hkind, rfl⟩ := succeeds_map.mp hnumber
    rw [nodes_of_word hword, numberKind_sound hkind]
    exact .number

/-- A term of a pattern is a group or an atom. -/
theorem termForms_sound {inner : Parser Pattern} {e : Pattern}
    (h : Succeeds (Pattern.termForms inner) stop tokens e rest) :
    Succeeds (Expr.group inner) stop tokens e rest ∨
      ∃ leaf, e = .leaf leaf ∧ PatternAtom (nodes tokens) leaf (nodes rest) := by
  rcases succeeds_firstOf_cons.mp h with h | ⟨-, h⟩
  · exact .inl h
  right
  rcases succeeds_firstOf_cons.mp h with h | ⟨-, h⟩
  · obtain ⟨name, hname, rfl⟩ := succeeds_map.mp h
    rw [nodes_of_tokenName hname]
    exact ⟨_, rfl, .ref⟩
  rcases succeeds_firstOf_cons.mp h with h | ⟨-, h⟩
  · obtain ⟨leaf, hleaf, rfl⟩ := succeeds_map.mp h
    exact ⟨leaf, rfl, directive_sound hleaf⟩
  rcases succeeds_firstOf_cons.mp h with h | ⟨-, h⟩
  · obtain ⟨body, hbody, rfl⟩ := succeeds_map.mp h
    rw [nodes_of_regex hbody]
    exact ⟨_, rfl, .regex⟩
  · obtain ⟨leaf, hleaf, rfl⟩ := succeeds_map.mp h
    exact ⟨leaf, rfl, literalChoice_sound hleaf⟩

end

/- The layers.  A term may hold a whole expression in parentheses, on fewer tokens than its own, so
that soundness goes by induction on the number of tokens. -/

section

variable {Leaf : Type} {Atom : List Token → Leaf → List Token → Prop}
  {expr term inner : Parser (Expr Leaf)} {n stop : Nat} {tokens rest : List Lexeme}

/-- On fewer than `n` tokens the grammar derives what the parser reads. -/
def Sound (n : Nat) (Derived : List Token → Expr Leaf → List Token → Prop)
    (p : Parser (Expr Leaf)) : Prop :=
  ∀ ⦃stop tokens e rest⦄, tokens.length < n → Succeeds p stop tokens e rest →
    Derived (nodes tokens) e (nodes rest)

theorem separators_sound (h : ReadsTerms Atom expr term) (hterm : Sound n (Term Atom) term)
    (hlen : tokens.length < n) {pairs : List (Expr Leaf × Quantifier)} {child : Expr Leaf}
    (hs : Succeeds (many (both (after (mark .percent) term) Quantifier.parser)) stop tokens pairs
      rest) :
    Separators Atom child (nodes tokens)
      (pairs.foldl (fun e (s, q) => .separated e s q) child) (nodes rest) := by
  have htakes := Expr.separator_takes h.takes
  induction pairs generalizing child tokens with
  | nil =>
    rcases htakes.succeeds_many.mp hs with ⟨-, rfl, -⟩ | ⟨_, _, _, hnil, -, -⟩
    · exact .done
    · cases hnil
  | cons pair pairs ih =>
    rcases htakes.succeeds_many.mp hs with ⟨hnil, -⟩ | ⟨_, _, later, heq, hp, hmany⟩
    · cases hnil
    · obtain ⟨rfl, rfl⟩ := List.cons.inj heq
      have hlater := htakes.length_lt hp
      obtain ⟨mid, hboth, hq⟩ := succeeds_both.mp hp
      obtain ⟨behind, _, hpercent, hseparator⟩ := succeeds_after.mp hboth
      obtain ⟨t, rfl, ht⟩ := succeeds_exactly.mp hpercent
      rw [nodes_cons, ht]
      exact .more (hterm (Nat.lt_of_succ_lt hlen) hseparator) (quantifier_sound hq)
        (ih (by omega) hmany)

theorem element_sound (h : ReadsTerms Atom expr term) (hterm : Sound n (Term Atom) term) :
    Sound n (Element Atom) (Expr.quantifiedParser term) := by
  intro stop tokens e rest hlen hs
  obtain ⟨⟨inside, suffix⟩, hboth, rfl⟩ := succeeds_map.mp hs
  obtain ⟨mid, hseparated, hsuffix⟩ := succeeds_both.mp hboth
  obtain ⟨⟨first, pairs⟩, hterms, hfold⟩ := succeeds_map.mp hseparated
  obtain rfl : inside = _ := hfold
  obtain ⟨behind, hfirst, hpairs⟩ := succeeds_both.mp hterms
  have hbehind := Nat.lt_trans (h.takes.length_lt hfirst) hlen
  have hread := hterm hlen hfirst
  rcases succeeds_optional.mp hsuffix with ⟨q, rfl, hq⟩ | ⟨rfl, rfl, -⟩
  · exact .suffix hread (separators_sound h hterm hbehind hpairs) (quantifier_sound hq)
  · exact .bare hread (separators_sound h hterm hbehind hpairs)

theorem elements_sound (h : ReadsTerms Atom expr term) (hterm : Sound n (Term Atom) term)
    (hlen : tokens.length < n) {first : Expr Leaf} {others : List (Expr Leaf)}
    {mid : List Lexeme} (hfirst : Succeeds (Expr.quantifiedParser term) stop tokens first mid)
    (hothers : Succeeds (many (Expr.quantifiedParser term)) stop mid others rest) :
    Elements Atom (nodes tokens) (first :: others) (nodes rest) := by
  have htakes := Expr.quantifiedParser_takes h.takes
  induction others generalizing first tokens mid with
  | nil =>
    rcases htakes.succeeds_many.mp hothers with ⟨-, rfl, -⟩ | ⟨_, _, _, hnil, -, -⟩
    · exact .one (element_sound h hterm hlen hfirst)
    · cases hnil
  | cons next others ih =>
    rcases htakes.succeeds_many.mp hothers with ⟨hnil, -⟩ | ⟨_, _, later, heq, hnext, hlater⟩
    · cases hnil
    · obtain ⟨rfl, rfl⟩ := List.cons.inj heq
      have hmid := htakes.length_lt hfirst
      exact .more (element_sound h hterm hlen hfirst) (ih (by omega) hnext hlater)

theorem sequence_sound (h : ReadsTerms Atom expr term) (hterm : Sound n (Term Atom) term)
    (hlen : tokens.length < n) {e : Expr Leaf}
    (hs : Succeeds (Expr.sequenceParser term) stop tokens e rest) :
    ∃ items, e = .sequenceOf items ∧ Elements Atom (nodes tokens) items (nodes rest) := by
  obtain ⟨items, hitems, rfl⟩ := succeeds_map.mp hs
  obtain ⟨first, others, mid, rfl, hfirst, hothers⟩ := succeeds_many1.mp hitems
  exact ⟨_, rfl, elements_sound h hterm hlen hfirst hothers⟩

theorem alternatives_sound (h : ReadsTerms Atom expr term) (hterm : Sound n (Term Atom) term)
    (hlen : tokens.length < n) {first : Expr Leaf} {others : List (Expr Leaf)}
    {mid : List Lexeme} (hfirst : Succeeds (Expr.sequenceParser term) stop tokens first mid)
    (hothers : Succeeds (many (after (mark .bar) (Expr.sequenceParser term))) stop mid others
      rest) :
    Alternatives Atom (nodes tokens) (first :: others) (nodes rest) := by
  induction others generalizing first tokens mid with
  | nil =>
    rcases (Expr.alternative_takes h.takes).succeeds_many.mp hothers with
      ⟨-, rfl, -⟩ | ⟨_, _, _, hnil, -, -⟩
    · obtain ⟨items, rfl, hitems⟩ := sequence_sound h hterm hlen hfirst
      exact .one hitems
    · cases hnil
  | cons next others ih =>
    rcases (Expr.alternative_takes h.takes).succeeds_many.mp hothers with
      ⟨hnil, -⟩ | ⟨_, _, later, heq, hnext, hlater⟩
    · cases hnil
    · obtain ⟨rfl, rfl⟩ := List.cons.inj heq
      have hmid := (Expr.sequenceParser_takes h.takes).length_lt hfirst
      obtain ⟨items, rfl, hitems⟩ := sequence_sound h hterm hlen hfirst
      obtain ⟨behind, _, hbar, hsequence⟩ := succeeds_after.mp hnext
      obtain ⟨t, rfl, ht⟩ := succeeds_exactly.mp hbar
      rw [nodes_cons, ht] at hitems
      exact .more hitems (ih (Nat.lt_trans (Nat.lt_of_succ_lt hmid) hlen) hsequence hlater)

theorem layers_sound (h : ReadsTerms Atom expr term) (hterm : Sound n (Term Atom) term) :
    Sound n (Expression Atom) expr := by
  intro stop tokens e rest hlen hs
  rw [h.expr_eq] at hs
  obtain ⟨⟨first, others⟩, hboth, rfl⟩ := succeeds_map.mp hs
  obtain ⟨mid, hfirst, hothers⟩ := succeeds_both.mp hboth
  exact ⟨_, alternatives_sound h hterm hlen hfirst hothers, rfl⟩

theorem group_sound (hinner : Sound n (Expression Atom) inner) (hlen : tokens.length < n + 1)
    {e : Expr Leaf} (hs : Succeeds (Expr.group inner) stop tokens e rest) :
    ∃ inside, nodes tokens = .mark .openParen :: inside ∧
      Expression Atom inside e (.mark .closeParen :: nodes rest) := by
  obtain ⟨inside, _, hopen, hbody⟩ := succeeds_after.mp hs
  obtain ⟨last, _, hbody, hclose⟩ := succeeds_before.mp hbody
  obtain ⟨t, rfl, ht⟩ := succeeds_exactly.mp hopen
  refine ⟨nodes inside, by rw [nodes_cons, ht], ?_⟩
  rw [← nodes_of_exactly hclose]
  exact hinner (Nat.lt_of_succ_lt_succ hlen) hbody

/-- A group is a term. -/
theorem Expression.group {tokens rest : List Token} {e : Expr Leaf}
    (h : Expression Atom tokens e (.mark .closeParen :: rest)) :
    Term Atom (.mark .openParen :: tokens) e rest := by
  obtain ⟨items, hitems, rfl⟩ := h
  exact .group hitems

/-- If groups and atoms are all that the parser of terms reads, expressions are sound. -/
theorem expr_sound (h : ReadsTerms Atom expr term)
    (hterm : ∀ n, Sound n (Expression Atom) expr → Sound (n + 1) (Term Atom) term) (n : Nat) :
    Sound n (Expression Atom) expr := by
  induction n with
  | zero => exact fun _ _ _ _ hlen => absurd hlen (Nat.not_lt_zero _)
  | succ n ih => exact layers_sound h (hterm n ih)

end

theorem pattern_sound (n : Nat) : Sound n (Expression PatternAtom) Pattern.parser := by
  refine expr_sound pattern_readsTerms (fun n ih => ?_) n
  intro stop tokens e rest hlen hs
  rcases termForms_sound (succeeds_labelled.mp hs) with hgroup | ⟨leaf, rfl, hatom⟩
  · obtain ⟨inside, hinside, hderived⟩ := group_sound ih hlen hgroup
    rw [hinside]
    exact hderived.group
  · exact .atom hatom

/-- What is a group of a pattern is read as a group of a rule. -/
theorem ruleGroup_reads {stop : Nat} {tokens rest : List Lexeme} {e : Pattern}
    (h : Succeeds (Expr.group Pattern.parser) stop tokens e rest) :
    ¬ Fails (Expr.group Rule.parser) stop tokens := by
  obtain ⟨inside, hinside, hderived⟩ := group_sound (pattern_sound _) (Nat.lt_succ_self _) h
  have hreads := group_reads (hderived.toRule.reads rule_readsTerms (.cons rfl))
  obtain ⟨remaining, -, hs⟩ := hreads stop hinside
  exact hs.not_fails

theorem rule_sound (n : Nat) : Sound n (Expression RuleAtom) Rule.parser := by
  refine expr_sound rule_readsTerms (fun n ih => ?_) n
  intro stop tokens e rest hlen hs
  rcases succeeds_firstOf_cons.mp (succeeds_labelled.mp hs) with hs | ⟨hfails, hs⟩
  · obtain ⟨inside, hinside, hderived⟩ := group_sound ih hlen hs
    rw [hinside]
    exact hderived.group
  rcases succeeds_firstOf_cons.mp hs with hs | ⟨-, hs⟩
  · obtain ⟨name, hname, rfl⟩ := succeeds_map.mp hs
    rw [nodes_of_ruleName hname]
    exact .atom .ref
  · obtain ⟨pattern, hpattern, rfl⟩ := succeeds_map.mp hs
    rcases termForms_sound hpattern with hgroup | ⟨leaf, rfl, hatom⟩
    · exact absurd hfails (ruleGroup_reads hgroup)
    · exact .atom (.token hatom)

end Grammar
end GrammarText
