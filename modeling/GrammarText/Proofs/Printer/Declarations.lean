/-
Printing and reading declarations.  A declaration is its head, a colon, its body and a semicolon, in
text as in tokens.  One that the grammar derives from the tokens of a text is canonical, and the
tokens of a canonical one derive it.
-/
import GrammarText.Declaration.Printer
import GrammarText.Proofs.Printer.RoundTrip

namespace GrammarText

namespace Declaration

/-- The name is one, and the body is canonical. -/
def IsCanonical : Declaration → Prop
  | token name pattern => ReadsAs name (.tokenName name) ∧ pattern.IsCanonical
  | rule name body => ReadsAs name (.ruleName name) ∧ body.IsCanonical
  | main none body => body.IsCanonical
  | main (some name) body => ReadsAs name (.ruleName name) ∧ body.IsCanonical
  | skip _ body => body.IsCanonical

/-- What is printed before the colon. -/
def head : Declaration → String
  | token name _ => name
  | rule name _ => name
  | main none _ => "$main"
  | main (some name) _ => "$main " ++ name
  | skip strategy _ => "$skip" ++ String.join (strategy.words.map (" " ++ ·))

def printBody : Declaration → String
  | token _ pattern => pattern.print
  | rule _ body => body.print
  | main _ body => body.print
  | skip _ body => body.print

def headTokens : Declaration → List Token
  | token name _ => [.tokenName name]
  | rule name _ => [.ruleName name]
  | main none _ => [.mark .dollar, .ruleName "main"]
  | main (some name) _ => [.mark .dollar, .ruleName "main", .ruleName name]
  | skip strategy _ => .mark .dollar :: .ruleName "skip" :: strategy.words.map .ruleName

def bodyTokens : Declaration → List Token
  | token _ pattern => pattern.tokens PatternLeaf.tokens
  | rule _ body => body.tokens RuleLeaf.tokens
  | main _ body => body.tokens RuleLeaf.tokens
  | skip _ body => body.tokens RuleLeaf.tokens

/-- The tokens of a printed declaration. -/
def tokens (d : Declaration) : List Token :=
  d.headTokens ++ .mark .colon :: (d.bodyTokens ++ [.mark .semicolon])

theorem print_eq (d : Declaration) : d.print = d.head ++ " : " ++ (d.printBody ++ " ;") := by
  have hmain : "$main : " = "$main" ++ " : " := by decide
  match d with
  | token name pattern => exact String.append_assoc ..
  | rule name body => exact String.append_assoc ..
  | main none body =>
    rw [print, hmain]
    exact String.append_assoc ..
  | main (some name) body => exact String.append_assoc ..
  | skip strategy body => exact String.append_assoc ..

/-- A canonical declaration has a spelling. -/
theorem IsCanonical.not_builtin {d : Declaration} (h : d.IsCanonical) : d.isBuiltin = false := by
  unfold isBuiltin
  split
  · obtain ⟨-, hleaf⟩ := h
    cases hleaf with
    | leaf spelled => exact spelled.elim
  · rfl

end Declaration

namespace Lexed

theorem spells_skipWord {strategy : SkipStrategy} {word : String} (h : word ∈ strategy.words) :
    Spells word.toList [.ruleName word] := by
  have hbefore : Spells "before".toList [.ruleName "before"] :=
    spells_word (c := 'b') rfl (fun _ => rfl) (by decide)
  have hafter : Spells "after".toList [.ruleName "after"] :=
    spells_word (c := 'a') rfl (fun _ => rfl) (by decide)
  have hgreedy : Spells "greedy".toList [.ruleName "greedy"] :=
    spells_word (c := 'g') rfl (fun _ => rfl) (by decide)
  have hlazy : Spells "lazy".toList [.ruleName "lazy"] :=
    spells_word (c := 'l') rfl (fun _ => rfl) (by decide)
  have hwords : strategy.words ⊆ ["before", "after", "greedy", "lazy"] := by
    cases strategy <;> decide
  have hword := hwords h
  simp only [List.mem_cons, List.not_mem_nil, or_false] at hword
  rcases hword with rfl | rfl | rfl | rfl
  · exact hbefore
  · exact hafter
  · exact hgreedy
  · exact hlazy

/-- Words behind a text, with a blank before each. -/
theorem spells_words {head : String} {tokens : List Token} (h : Spells head.toList tokens)
    {words : List String} (hwords : ∀ word ∈ words, Spells word.toList [.ruleName word]) :
    Spells (head ++ String.join (words.map (" " ++ ·))).toList
      (tokens ++ words.map .ruleName) := by
  induction words generalizing head tokens with
  | nil =>
    rw [List.map_nil, List.map_nil, String.join_nil, String.append_empty, List.append_nil]
    exact h
  | cons word rest ih =>
    have hfirst := h.spaced (hwords word (List.mem_cons_self ..))
    have hrest := ih hfirst fun w hw => hwords w (List.mem_cons_of_mem _ hw)
    rw [List.map_cons, String.join_cons, ← String.append_assoc, ← String.append_assoc]
    rw [List.append_assoc] at hrest
    exact hrest

theorem spells_head {d : Declaration} (h : d.IsCanonical) : Spells d.head.toList d.headTokens := by
  have hmain : Spells "main".toList [.ruleName "main"] :=
    spells_word (c := 'm') rfl (fun _ => rfl) (by decide)
  match d, h with
  | .token name pattern, h =>
    exact spells_of_reading_eq names_tokenName ((tokenize_eq_iff _ _).mp h.1)
  | .rule name body, h =>
    exact spells_of_reading_eq names_ruleName ((tokenize_eq_iff _ _).mp h.1)
  | .main none body, _ =>
    have hdirective : Spells "$main".toList [.mark .dollar, .ruleName "main"] :=
      hmain.mark (c := '$') rfl
    exact hdirective
  | .main (some name) body, h =>
    have hname := spells_of_reading_eq names_ruleName ((tokenize_eq_iff _ _).mp h.1)
    have htext : ("$main " ++ name).toList = '$' :: ("main".toList ++ ' ' :: name.toList) := by simp
    exact spells_directive htext hmain hname
  | .skip strategy body, _ =>
    have hskip : Spells "skip".toList [.ruleName "skip"] :=
      spells_word (c := 's') rfl (fun _ => rfl) (by decide)
    have hdirective : Spells "$skip".toList [.mark .dollar, .ruleName "skip"] :=
      hskip.mark (c := '$') rfl
    exact spells_words hdirective fun word hword => spells_skipWord hword

theorem spells_printBody {d : Declaration} (h : d.IsCanonical) :
    Spells d.printBody.toList d.bodyTokens := by
  match d, h with
  | .token name pattern, h => exact spells_print spells_patternLeaf h.2
  | .rule name body, h => exact spells_print spells_ruleLeaf h.2
  | .main none body, h => exact spells_print spells_ruleLeaf h
  | .main (some name) body, h => exact spells_print spells_ruleLeaf h.2
  | .skip strategy body, h => exact spells_print spells_ruleLeaf h

theorem spells_declaration {d : Declaration} (h : d.IsCanonical) :
    Spells d.print.toList d.tokens := by
  have hend : Spells (d.printBody ++ " ;").toList (d.bodyTokens ++ [.mark .semicolon]) := by
    have htext : (d.printBody ++ " ;").toList = d.printBody.toList ++ ' ' :: [';'] := by simp
    rw [htext]
    exact (spells_printBody h).append_cons ((spells_mark (c := ';') rfl).blank rfl) (by decide)
  have htext : ∀ a b : String,
      (a ++ " : " ++ b).toList = a.toList ++ ' ' :: ':' :: ' ' :: b.toList := by simp
  rw [Declaration.print_eq, htext]
  exact (spells_head h).infixed hend rfl

/-- The text of canonical declarations spells their tokens. -/
theorem spells_printAll {declarations : List Declaration}
    (h : ∀ d ∈ declarations, d.IsCanonical) :
    Spells (Declaration.printAll declarations).toList
      (declarations.flatMap Declaration.tokens) := by
  have hfilter : declarations.filter (!·.isBuiltin) = declarations :=
    List.filter_eq_self.mpr fun d hd => by rw [(h d hd).not_builtin]; rfl
  unfold Declaration.printAll
  rw [hfilter]
  clear hfilter
  induction declarations with
  | nil => exact spells_nil
  | cons d rest ih =>
    have hrest := ih fun e he => h e (List.mem_cons_of_mem _ he)
    have htext : ∀ a b : String, ((a ++ "\n") ++ b).toList = a.toList ++ '\n' :: b.toList := by simp
    rw [List.map_cons, String.join_cons, htext, List.flatMap_cons]
    exact (spells_declaration (h d (List.mem_cons_self ..))).append_cons (hrest.blank rfl)
      (by decide)

end Lexed

namespace Grammar

theorem Strategy.lexed {tokens rest : List Token} {strategy : SkipStrategy}
    (h : Strategy tokens strategy rest) (hlexed : AllLexed tokens) : AllLexed rest := by
  cases h with
  | default => exact hlexed
  | before => exact hlexed.tail
  | beforeGreedy => exact hlexed.tail.tail
  | beforeLazy => exact hlexed.tail.tail
  | after => exact hlexed.tail
  | afterGreedy => exact hlexed.tail.tail
  | afterLazy => exact hlexed.tail.tail

/-- From the tokens of a text only canonical declarations are derived. -/
theorem Declares.canonical {tokens rest : List Token} {d : Declaration}
    (h : Declares tokens d rest) (hlexed : AllLexed tokens) : d.IsCanonical := by
  cases h with
  | token body => exact ⟨readsAs_of_isLexed hlexed.head, pattern_canonical body hlexed.tail.tail⟩
  | rule body => exact ⟨readsAs_of_isLexed hlexed.head, rule_canonical body hlexed.tail.tail⟩
  | main body =>
    have hbody := rule_canonical body hlexed.tail.tail.tail
    exact hbody
  | mainNamed body =>
    exact ⟨readsAs_of_isLexed hlexed.tail.tail.head, rule_canonical body hlexed.tail.tail.tail.tail⟩
  | skip chosen body =>
    have hbody := rule_canonical body (chosen.lexed hlexed.tail.tail).tail
    exact hbody

theorem strategy_words (strategy : SkipStrategy) (rest : List Token) :
    Strategy (strategy.words.map .ruleName ++ rest) strategy rest := by
  cases strategy with
  | beforeGreedy => exact .beforeGreedy
  | beforeLazy => exact .beforeLazy
  | before => exact .default
  | afterGreedy => exact .afterGreedy
  | afterLazy => exact .afterLazy
  | after => exact .after

/-- The tokens of a canonical declaration derive it. -/
theorem declares_tokens {d : Declaration} (h : d.IsCanonical) (rest : List Token) :
    Declares (d.tokens ++ rest) d rest := by
  have hpattern : ∀ {e : Pattern}, e.IsCanonical → Expression PatternAtom
      (e.tokens PatternLeaf.tokens ++ .mark .semicolon :: rest) e (.mark .semicolon :: rest) :=
    fun h => expression_of_canonical pattern_spelledAtoms h (by simp)
  have hrule : ∀ {e : Rule}, e.IsCanonical → Expression RuleAtom
      (e.tokens RuleLeaf.tokens ++ .mark .semicolon :: rest) e (.mark .semicolon :: rest) :=
    fun h => expression_of_canonical rule_spelledAtoms h (by simp)
  have htokens : d.tokens ++ rest =
      d.headTokens ++ .mark .colon :: (d.bodyTokens ++ .mark .semicolon :: rest) := by
    simp [Declaration.tokens]
  rw [htokens]
  match d, h with
  | .token name pattern, h => exact .token (hpattern h.2)
  | .rule name body, h => exact .rule (hrule h.2)
  | .main none body, h => exact .main (hrule h)
  | .main (some name) body, h => exact .mainNamed (hrule h.2)
  | .skip strategy body, h => exact .skip (strategy_words strategy _) (hrule h)

end Grammar
end GrammarText
