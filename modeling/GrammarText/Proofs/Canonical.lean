/-
Canonical trees, and that the grammar derives no others.  A tree is canonical when its leaves have a
spelling, no sequence or choice has fewer than two parts, and no repetition has the bounds for which
there is the optional node.
-/
import GrammarText.Proofs.Grammar.Soundness
import GrammarText.Proofs.Lexer.Literals

namespace GrammarText

theorem exists_cons_cons_of_two {α : Type} {items : List α} (two : 2 ≤ items.length) :
    ∃ first second rest, items = first :: second :: rest := by
  cases items with
  | nil => simp at two
  | cons first more =>
    cases more with
    | nil => simp at two
    | cons second rest => exact ⟨first, second, rest, rfl⟩

namespace Expr

variable {Leaf : Type}

/-- Leaves have the property, sequences and choices have two parts or more, and a repetition that is
optional is written as such. -/
inductive Canonical (P : Leaf → Prop) : Expr Leaf → Prop where
  | leaf {value : Leaf} (spelled : P value) : Canonical P (leaf value)
  | sequence {items : List (Expr Leaf)} (two : 2 ≤ items.length)
      (parts : ∀ item ∈ items, Canonical P item) : Canonical P (sequence items)
  | choice {items : List (Expr Leaf)} (two : 2 ≤ items.length)
      (parts : ∀ item ∈ items, Canonical P item) : Canonical P (choice items)
  | optional {child : Expr Leaf} (part : Canonical P child) : Canonical P (optional child)
  | repeated {child : Expr Leaf} {q : Quantifier} (bounds : q ≠ Quantifier.optional)
      (part : Canonical P child) : Canonical P (repeated child q)
  | separated {child separator : Expr Leaf} {q : Quantifier} (part : Canonical P child)
      (between : Canonical P separator) : Canonical P (separated child separator q)

theorem Canonical.quantified {P : Leaf → Prop} {e : Expr Leaf} (h : Canonical P e)
    (q : Quantifier) : Canonical P (quantified e q) := by
  unfold Expr.quantified Quantifier.isOptional
  split
  · exact .optional h
  · rename_i hq
    exact .repeated (by simpa using hq) h

/-- A list of parts, of which a lone one stands for itself. -/
theorem Canonical.sequenceOf {P : Leaf → Prop} {items : List (Expr Leaf)} (hne : items ≠ [])
    (h : ∀ item ∈ items, Canonical P item) : Canonical P (sequenceOf items) := by
  match items, hne with
  | [item], _ => exact h item (List.mem_singleton_self _)
  | _ :: _ :: _, _ => exact .sequence (by simp) h

theorem Canonical.choiceOf {P : Leaf → Prop} {items : List (Expr Leaf)} (hne : items ≠ [])
    (h : ∀ item ∈ items, Canonical P item) : Canonical P (choiceOf items) := by
  match items, hne with
  | [item], _ => exact h item (List.mem_singleton_self _)
  | _ :: _ :: _, _ => exact .choice (by simp) h

end Expr

/-- Whether a text reads, without an error, as the one token. -/
def ReadsAs (text : String) (t : Token) : Prop :=
  (tokenize text).errors = [] ∧ nodes (tokenize text).tokens = [t]

/-- A name has to be one, plain literals may not end as keywords do, choices must have their
alternatives, and a regex must be written on one line with its escapes in pairs. -/
def PatternLeaf.IsCanonical : PatternLeaf → Prop
  | ref name => ReadsAs name (.tokenName name)
  | literal text => Text.endsInWord text = false
  | literalChoice texts => 2 ≤ texts.length ∧ ∀ text ∈ texts, Text.endsInWord text = false
  | keyword _ => True
  | keywordChoice texts => 1 ≤ texts.length
  | identifier => True
  | number _ => True
  | regex body => Text.Slashed.IsBody body.toList
  | builtin _ => False

/-- A token pattern inside a rule is a single leaf. -/
def RuleLeaf.IsCanonical : RuleLeaf → Prop
  | ref name => ReadsAs name (.ruleName name)
  | token (.leaf leaf) => leaf.IsCanonical
  | token _ => False

/-- Canonical patterns. -/
abbrev Pattern.IsCanonical (pattern : Pattern) : Prop :=
  Expr.Canonical PatternLeaf.IsCanonical pattern

/-- Canonical rules. -/
abbrev Rule.IsCanonical (rule : Rule) : Prop :=
  Expr.Canonical RuleLeaf.IsCanonical rule

namespace Grammar

open GrammarText.Expr (Canonical)

/-- Every token is one that a text can have. -/
def AllLexed (tokens : List Token) : Prop :=
  ∀ t ∈ tokens, t.IsLexed

theorem AllLexed.head {t : Token} {rest : List Token} (h : AllLexed (t :: rest)) : t.IsLexed :=
  h t (List.mem_cons_self ..)

theorem AllLexed.tail {t : Token} {rest : List Token} (h : AllLexed (t :: rest)) : AllLexed rest :=
  fun u hu => h u (List.mem_cons_of_mem _ hu)

theorem Bounds.lexed {tokens rest : List Token} {q : Quantifier} (h : Bounds tokens q rest)
    (hlexed : AllLexed tokens) : AllLexed rest := by
  cases h with
  | optional => exact hlexed.tail
  | zeroOrMore => exact hlexed.tail
  | oneOrMore => exact hlexed.tail
  | exactly => exact hlexed.tail.tail.tail
  | atLeast => exact hlexed.tail.tail.tail.tail
  | between => exact hlexed.tail.tail.tail.tail.tail

theorem Run.lexed {tokens rest : List Token} {texts : List String} (h : Run tokens texts rest)
    (hlexed : AllLexed tokens) : AllLexed rest := by
  induction h with
  | last => exact hlexed.tail
  | more _ ih => exact ih hlexed.tail.tail

theorem readsAs_of_isLexed {name : String} {t : Token}
    (h : Lexed.reading name.toList = [.token t]) : ReadsAs name t :=
  (Lexed.tokenize_eq_iff name [t]).mpr h

theorem canonical_ofPlain {texts : List String} (hne : texts ≠ [])
    (h : ∀ text ∈ texts, Text.endsInWord text = false) :
    (PatternLeaf.ofPlain texts).IsCanonical := by
  match texts, hne with
  | [text], _ => exact h text (List.mem_singleton_self _)
  | _ :: _ :: _, _ => exact ⟨by simp, h⟩

theorem canonical_ofKeywords {texts : List String} (hne : texts ≠ []) :
    (PatternLeaf.ofKeywords texts).IsCanonical := by
  match texts, hne with
  | [_], _ => trivial
  | _ :: _ :: _, _ => simp [PatternLeaf.ofKeywords, PatternLeaf.IsCanonical]

theorem PatternAtom.canonical {tokens rest : List Token} {leaf : PatternLeaf}
    (h : PatternAtom tokens leaf rest) (hlexed : AllLexed tokens) :
    leaf.IsCanonical ∧ AllLexed rest := by
  cases h with
  | ref => exact ⟨readsAs_of_isLexed hlexed.head, hlexed.tail⟩
  | regex => exact ⟨hlexed.head, hlexed.tail⟩
  | identifier => exact ⟨trivial, hlexed.tail.tail⟩
  | number => exact ⟨trivial, hlexed.tail.tail.tail⟩
  | keyword => exact ⟨trivial, hlexed.tail.tail.tail⟩
  | keywordChoice run =>
    exact ⟨List.length_pos_iff.mpr run.ne_nil, run.lexed hlexed.tail.tail.tail⟩
  | plain run ends => exact ⟨canonical_ofPlain run.ne_nil ends, run.lexed hlexed⟩
  | keywords run _ => exact ⟨canonical_ofKeywords run.ne_nil, run.lexed hlexed⟩

theorem RuleAtom.canonical {tokens rest : List Token} {leaf : RuleLeaf}
    (h : RuleAtom tokens leaf rest) (hlexed : AllLexed tokens) :
    leaf.IsCanonical ∧ AllLexed rest := by
  cases h with
  | ref => exact ⟨readsAs_of_isLexed hlexed.head, hlexed.tail⟩
  | token atom => exact atom.canonical hlexed

section

variable {Leaf : Type} {Atom : List Token → Leaf → List Token → Prop} {P : Leaf → Prop}

/-- From the tokens of a text only leaves with the property are derived. -/
def LexedAtoms (Atom : List Token → Leaf → List Token → Prop) (P : Leaf → Prop) : Prop :=
  ∀ ⦃tokens leaf rest⦄, Atom tokens leaf rest → AllLexed tokens → P leaf ∧ AllLexed rest

mutual

theorem Term.canonical (hatom : LexedAtoms Atom P) :
    ∀ {tokens e rest}, Term Atom tokens e rest → AllLexed tokens → Canonical P e ∧ AllLexed rest
  | _, _, _, .atom read, hlexed => by
      have h := hatom read hlexed
      exact ⟨.leaf h.1, h.2⟩
  | _, _, _, .group inside, hlexed => by
      have h := inside.canonical hatom hlexed.tail
      exact ⟨.choiceOf h.1 h.2.1, h.2.2.tail⟩

theorem Separators.canonical (hatom : LexedAtoms Atom P) :
    ∀ {child tokens e rest}, Separators Atom child tokens e rest → Canonical P child →
      AllLexed tokens → Canonical P e ∧ AllLexed rest
  | _, _, _, _, .done, hchild, hlexed => ⟨hchild, hlexed⟩
  | _, _, _, _, .more read bounds others, hchild, hlexed => by
      have h := read.canonical hatom hlexed.tail
      exact others.canonical hatom (.separated hchild h.1) (bounds.lexed h.2)

theorem Element.canonical (hatom : LexedAtoms Atom P) :
    ∀ {tokens e rest}, Element Atom tokens e rest → AllLexed tokens → Canonical P e ∧ AllLexed rest
  | _, _, _, .bare read separators, hlexed => by
      have h := read.canonical hatom hlexed
      exact separators.canonical hatom h.1 h.2
  | _, _, _, .suffix read separators bounds, hlexed => by
      have h := read.canonical hatom hlexed
      have h' := separators.canonical hatom h.1 h.2
      exact ⟨h'.1.quantified _, bounds.lexed h'.2⟩

theorem Elements.canonical (hatom : LexedAtoms Atom P) :
    ∀ {tokens items rest}, Elements Atom tokens items rest → AllLexed tokens →
      items ≠ [] ∧ (∀ item ∈ items, Canonical P item) ∧ AllLexed rest
  | _, _, _, .one read, hlexed => by
      have h := read.canonical hatom hlexed
      exact ⟨by simp, by simpa using h.1, h.2⟩
  | _, _, _, .more read others, hlexed => by
      have h := read.canonical hatom hlexed
      have h' := others.canonical hatom h.2
      exact ⟨by simp, List.forall_mem_cons.mpr ⟨h.1, h'.2.1⟩, h'.2.2⟩

theorem Alternatives.canonical (hatom : LexedAtoms Atom P) :
    ∀ {tokens items rest}, Alternatives Atom tokens items rest → AllLexed tokens →
      items ≠ [] ∧ (∀ item ∈ items, Canonical P item) ∧ AllLexed rest
  | _, _, _, .one read, hlexed => by
      have h := read.canonical hatom hlexed
      exact ⟨by simp, by simpa using Canonical.sequenceOf h.1 h.2.1, h.2.2⟩
  | _, _, _, .more read others, hlexed => by
      have h := read.canonical hatom hlexed
      have h' := others.canonical hatom h.2.2.tail
      exact ⟨by simp, List.forall_mem_cons.mpr ⟨.sequenceOf h.1 h.2.1, h'.2.1⟩, h'.2.2⟩

end

theorem Expression.canonical (hatom : LexedAtoms Atom P) {tokens rest : List Token}
    {e : Expr Leaf} (h : Expression Atom tokens e rest) (hlexed : AllLexed tokens) :
    Canonical P e := by
  obtain ⟨items, hitems, rfl⟩ := h
  obtain ⟨hne, hall, -⟩ := hitems.canonical hatom hlexed
  exact .choiceOf hne hall

end

theorem pattern_canonical {tokens rest : List Token} {e : Pattern}
    (h : Expression PatternAtom tokens e rest) (hlexed : AllLexed tokens) : e.IsCanonical :=
  h.canonical (fun _ _ _ atom => atom.canonical) hlexed

theorem rule_canonical {tokens rest : List Token} {e : Rule}
    (h : Expression RuleAtom tokens e rest) (hlexed : AllLexed tokens) : e.IsCanonical :=
  h.canonical (fun _ _ _ atom => atom.canonical) hlexed

end Grammar
end GrammarText
