/-
What a printed tree reads as.  `Expr.tokens` is the printer again, with tokens in the place of
texts, and the printed text of a canonical tree spells these tokens.
-/
import GrammarText.Proofs.Canonical
import GrammarText.Declaration.Printer

namespace GrammarText

/-- Puts tokens in parentheses on a condition. -/
def parenthesizedTokens (needed : Bool) (tokens : List Token) : List Token :=
  if needed then .mark .openParen :: (tokens ++ [.mark .closeParen]) else tokens

namespace Expr

variable {Leaf : Type} [LeafText Leaf]

mutual

/-- The tokens of a printed expression, given those of its leaves. -/
def tokens (spell : Leaf → List Token) : Expr Leaf → List Token
  | leaf value => spell value
  | sequence items => sequenceTokens spell items
  | choice items => choiceTokens spell items
  | optional child =>
      parenthesizedTokens (child.looserThan .separated) (child.tokens spell) ++ [.mark .question]
  | repeated child q =>
      parenthesizedTokens (child.looserThan .separated) (child.tokens spell) ++ q.tokens
  | separated child separator q =>
      parenthesizedTokens (child.looserThan .separated) (child.tokens spell)
        ++ .mark .percent
          :: (parenthesizedTokens (separator.looserThan .term) (separator.tokens spell)
            ++ q.tokens)

def sequenceTokens (spell : Leaf → List Token) : List (Expr Leaf) → List Token
  | [] => []
  | item :: rest =>
      parenthesizedTokens (item.looserThan .quantified) (item.tokens spell)
        ++ sequenceTokens spell rest

def choiceTokens (spell : Leaf → List Token) : List (Expr Leaf) → List Token
  | [] => []
  | [item] => parenthesizedTokens (item.looserThan .sequence) (item.tokens spell)
  | item :: rest =>
      parenthesizedTokens (item.endsInLiteral || item.looserThan .sequence) (item.tokens spell)
        ++ .mark .bar :: choiceTokens spell rest

end

end Expr

namespace PatternLeaf

/-- The tokens of literals with bars between them. -/
def runTokens : List String → List Token
  | [] => []
  | [text] => [.literal text]
  | text :: rest => .literal text :: .mark .bar :: runTokens rest

def tokens : PatternLeaf → List Token
  | ref name => [.tokenName name]
  | literal text => [.literal text]
  | literalChoice texts => runTokens texts
  | keyword text =>
      if Text.endsInWord text then [.literal text]
      else [.mark .dollar, .ruleName "keyword", .literal text]
  | keywordChoice texts =>
      if texts.length > 1 && texts.all Text.endsInWord then runTokens texts
      else .mark .dollar :: .ruleName "keyword" :: .ruleName "choice" :: runTokens texts
  | identifier => [.mark .dollar, .ruleName "identifier"]
  | number kind => [.mark .dollar, .ruleName "number", .ruleName kind.word]
  | regex body => [.regex body]
  | builtin _ => []

end PatternLeaf

def RuleLeaf.tokens : RuleLeaf → List Token
  | ref name => [.ruleName name]
  | token pattern =>
      parenthesizedTokens (pattern.looserThan .term) (pattern.tokens PatternLeaf.tokens)

namespace Lexed

open GrammarText.Expr (parenthesized)

/-- A quantifier starts with no word character. -/
theorem breaks_quantifier (q : Quantifier) (later : List Char) :
    Breaks (q.text.toList ++ later) := by
  have hbrace : ∀ a : String, Breaks (("\x7b" ++ a).toList ++ later) := by
    intro a
    rw [String.toList_append]
    exact breaks_cons (by decide)
  obtain ⟨min, max, ordered⟩ := q
  unfold Quantifier.text
  cases max with
  | none =>
    simp only
    split
    · exact breaks_cons (c := '*') (by decide)
    split
    · exact breaks_cons (c := '+') (by decide)
    · rw [String.append_assoc]
      exact hbrace _
  | some max =>
    simp only
    split
    · exact breaks_cons (c := '?') (by decide)
    split
    · rw [String.append_assoc]
      exact hbrace _
    · rw [String.append_assoc, String.append_assoc, String.append_assoc]
      exact hbrace _

theorem Spells.quantifier {text : List Char} {tokens : List Token} (h : Spells text tokens)
    (q : Quantifier) : Spells (text ++ q.text.toList) (tokens ++ q.tokens) :=
  h.append (spells_quantifier q) fun later _ => breaks_quantifier q later

/-- A closing parenthesis breaks words, so that what is spelled alone is spelled in parentheses. -/
theorem Spells.parenthesized {text : String} {tokens : List Token} (h : Spells text.toList tokens)
    (needed : Bool) :
    Spells (parenthesized needed text).toList (parenthesizedTokens needed tokens) := by
  cases needed with
  | false => exact h
  | true =>
    have htext : ("(" ++ text ++ ")").toList = '(' :: (text.toList ++ [')']) := by simp
    show Spells ("(" ++ text ++ ")").toList _
    rw [htext]
    exact (h.append_cons (spells_mark (c := ')') rfl) (by decide)).mark rfl

/-- A blank between two texts is enough to keep them apart. -/
theorem Spells.spaced {a b : String} {tokens more : List Token} (ha : Spells a.toList tokens)
    (hb : Spells b.toList more) : Spells (a ++ " " ++ b).toList (tokens ++ more) := by
  have htext : (a ++ " " ++ b).toList = a.toList ++ ' ' :: b.toList := by simp
  rw [htext]
  exact ha.append_cons (hb.blank rfl) (by decide)

/-- A mark of one character with a blank on either side. -/
theorem Spells.infixed {a b : String} {c : Char} {m : Mark} {tokens more : List Token}
    (ha : Spells a.toList tokens) (hb : Spells b.toList more) (hm : Mark.ofChar? c = some m) :
    Spells (a.toList ++ ' ' :: c :: ' ' :: b.toList) (tokens ++ .mark m :: more) :=
  ha.append_cons (((hb.blank rfl).mark hm).blank rfl) (by decide)

section

variable {Leaf : Type} [LeafText Leaf] {spell : Leaf → List Token} {P : Leaf → Prop}

theorem spells_printSequence {items : List (Expr Leaf)}
    (h : ∀ item ∈ items, Spells item.print.toList (item.tokens spell)) :
    Spells (Expr.printSequence items).toList (Expr.sequenceTokens spell items) := by
  induction items with
  | nil => exact spells_nil
  | cons item rest ih =>
    have hitem := (h item (List.mem_cons_self ..)).parenthesized (item.looserThan .quantified)
    cases rest with
    | nil =>
      rw [Expr.printSequence, Expr.sequenceTokens, Expr.sequenceTokens, List.append_nil]
      exact hitem
    | cons next more =>
      rw [Expr.printSequence, Expr.sequenceTokens]
      · exact hitem.spaced (ih fun e he => h e (List.mem_cons_of_mem _ he))
      · simp

theorem spells_printChoice {items : List (Expr Leaf)}
    (h : ∀ item ∈ items, Spells item.print.toList (item.tokens spell)) :
    Spells (Expr.printChoice items).toList (Expr.choiceTokens spell items) := by
  induction items with
  | nil => exact spells_nil
  | cons item rest ih =>
    have hitem := fun needed => (h item (List.mem_cons_self ..)).parenthesized needed
    cases rest with
    | nil =>
      rw [Expr.printChoice, Expr.choiceTokens]
      exact hitem _
    | cons next more =>
      have hrest := ih fun e he => h e (List.mem_cons_of_mem _ he)
      have htext : ∀ a b : String,
          (a ++ " | " ++ b).toList = a.toList ++ ' ' :: '|' :: ' ' :: b.toList := by simp
      rw [Expr.printChoice, Expr.choiceTokens]
      · rw [htext]
        exact (hitem _).infixed hrest rfl
      · simp
      · simp

/-- The text of a canonical tree spells its tokens if the texts of its leaves do. -/
theorem spells_print (hleaf : ∀ value, P value → Spells (LeafText.text value).toList (spell value))
    {e : Expr Leaf} (h : e.Canonical P) : Spells e.print.toList (e.tokens spell) := by
  induction h with
  | @leaf value spelled =>
    rw [Expr.print, Expr.tokens]
    exact hleaf value spelled
  | sequence _ _ ih =>
    rw [Expr.print, Expr.tokens]
    exact spells_printSequence ih
  | choice _ _ ih =>
    rw [Expr.print, Expr.tokens]
    exact spells_printChoice ih
  | optional _ ih =>
    rw [Expr.print, Expr.tokens, String.toList_append]
    exact (ih.parenthesized _).append_cons (spells_mark (c := '?') rfl) (by decide)
  | repeated _ _ ih =>
    rw [Expr.print, Expr.tokens, String.toList_append]
    exact (ih.parenthesized _).quantifier _
  | @separated child separator q _ _ ihc ihs =>
    have htext : ∀ a b c : String,
        (a ++ " % " ++ b ++ c).toList = a.toList ++ ' ' :: '%' :: ' ' :: (b ++ c).toList := by simp
    have hbound := (ihs.parenthesized (separator.looserThan .term)).quantifier q
    rw [← String.toList_append] at hbound
    rw [Expr.print, Expr.tokens, htext]
    exact (ihc.parenthesized _).infixed hbound rfl

end

/- The leaves. -/

theorem quotedRun_cons (text next : String) (rest : List String) :
    (PatternLeaf.quotedRun (text :: next :: rest)).toList =
      (Text.Quoted.encode text).toList ++ ' ' :: '|' :: ' ' ::
        (PatternLeaf.quotedRun (next :: rest)).toList := by
  unfold PatternLeaf.quotedRun
  rw [List.map_cons, List.map_cons, String.intercalate_cons_cons]
  simp

theorem spells_quotedRun (texts : List String) :
    Spells (PatternLeaf.quotedRun texts).toList (PatternLeaf.runTokens texts) := by
  induction texts with
  | nil => exact spells_nil
  | cons text rest ih =>
    cases rest with
    | nil => exact spells_literal text
    | cons next more =>
      rw [quotedRun_cons, PatternLeaf.runTokens]
      · exact (spells_literal text).infixed ih rfl
      · simp

theorem spells_identifier : Spells "identifier".toList [.ruleName "identifier"] :=
  spells_word (c := 'i') rfl (fun _ => rfl) (by decide)

theorem spells_keyword : Spells "keyword".toList [.ruleName "keyword"] :=
  spells_word (c := 'k') rfl (fun _ => rfl) (by decide)

theorem spells_choice : Spells "choice".toList [.ruleName "choice"] :=
  spells_word (c := 'c') rfl (fun _ => rfl) (by decide)

theorem spells_number : Spells "number".toList [.ruleName "number"] :=
  spells_word (c := 'n') rfl (fun _ => rfl) (by decide)

theorem spells_numberKind (kind : NumberKind) : Spells kind.word.toList [.ruleName kind.word] := by
  cases kind with
  | integer => exact spells_word (c := 'i') rfl (fun _ => rfl) (by decide)
  | float => exact spells_word (c := 'f') rfl (fun _ => rfl) (by decide)
  | double => exact spells_word (c := 'd') rfl (fun _ => rfl) (by decide)

/-- A word behind the dollar sign and what it introduces. -/
theorem spells_directive {text a b : String} {tokens more : List Token}
    (h : text.toList = '$' :: (a.toList ++ ' ' :: b.toList)) (ha : Spells a.toList tokens)
    (hb : Spells b.toList more) : Spells text.toList (.mark .dollar :: (tokens ++ more)) := by
  rw [h]
  exact (ha.append_cons (hb.blank rfl) (by decide)).mark rfl

theorem spells_patternLeaf (leaf : PatternLeaf) (h : leaf.IsCanonical) :
    Spells leaf.text.toList leaf.tokens := by
  cases leaf with
  | ref name => exact spells_of_reading_eq names_tokenName ((tokenize_eq_iff _ _).mp h)
  | literal text => exact spells_literal text
  | literalChoice texts => exact spells_quotedRun texts
  | keyword text =>
    rw [PatternLeaf.text, PatternLeaf.tokens]
    split
    · exact spells_literal text
    · exact spells_directive (by simp) spells_keyword (spells_literal text)
  | keywordChoice texts =>
    rw [PatternLeaf.text, PatternLeaf.tokens]
    split
    · exact spells_quotedRun texts
    · have hchoice := spells_choice.spaced (spells_quotedRun texts)
      exact spells_directive (by simp) spells_keyword hchoice
  | identifier => exact spells_identifier.mark (c := '$') rfl
  | number kind =>
    have htext : ("$number " ++ kind.word).toList =
        '$' :: ("number".toList ++ ' ' :: kind.word.toList) := by simp
    exact spells_directive htext spells_number (spells_numberKind kind)
  | regex body => exact spells_regex h
  | builtin token => exact h.elim

theorem spells_ruleLeaf (leaf : RuleLeaf) (h : leaf.IsCanonical) :
    Spells (LeafText.text leaf).toList leaf.tokens := by
  match leaf, h with
  | .ref name, h => exact spells_of_reading_eq names_ruleName ((tokenize_eq_iff _ _).mp h)
  | .token (.leaf value), h =>
    exact (spells_print spells_patternLeaf (.leaf h)).parenthesized false

end Lexed
end GrammarText
