/-
The grammar of the notation, said without a parser.  A derivation takes a construct off the front
of a list of tokens and leaves the rest.  The rest is part of the statement since the grammar looks
ahead in one place: a run of literals takes every literal that a bar joins to it.
-/
import GrammarText.Declaration
import GrammarText.Proofs.Expr.Leaves
import GrammarText.Token

namespace GrammarText

theorem Quantifier.le_of_eq_some {min max : UInt32} (ordered : min ≤ max) (m : UInt32)
    (h : some max = some m) : min ≤ m :=
  Option.some.inj h ▸ ordered

/-- The quantifier between two bounds that are in order. -/
def Quantifier.between {min max : UInt32} (ordered : min ≤ max) : Quantifier :=
  ⟨min, some max, le_of_eq_some ordered⟩

namespace PatternLeaf

/-- What a run of literals is when none of them ends in a word character. -/
def ofPlain : List String → PatternLeaf
  | [text] => .literal text
  | texts => .literalChoice texts

/-- What a run of literals is when all of them end in a word character. -/
def ofKeywords : List String → PatternLeaf
  | [text] => .keyword text
  | texts => .keywordChoice texts

end PatternLeaf

/-- The rule that asks for a pattern: every leaf stands in the place of a rule. -/
def Pattern.toRule (pattern : Pattern) : Rule :=
  pattern.mapLeaves fun leaf => .token (.leaf leaf)

namespace Grammar

/-- Literals with bars between them.  No bar with a literal behind it follows the last one. -/
inductive Run : List Token → List String → List Token → Prop where
  | last {text : String} {rest : List Token}
      (maximal : ∀ next more, rest ≠ .mark .bar :: .literal next :: more) :
      Run (.literal text :: rest) [text] rest
  | more {text : String} {texts : List String} {tokens rest : List Token}
      (later : Run tokens texts rest) :
      Run (.literal text :: .mark .bar :: tokens) (text :: texts) rest

/-- The six spellings of a quantifier. -/
inductive Bounds : List Token → Quantifier → List Token → Prop where
  | optional {rest : List Token} : Bounds (.mark .question :: rest) .optional rest
  | zeroOrMore {rest : List Token} : Bounds (.mark .star :: rest) .zeroOrMore rest
  | oneOrMore {rest : List Token} : Bounds (.mark .plus :: rest) .oneOrMore rest
  | exactly {count : UInt32} {rest : List Token} :
      Bounds (.mark .openBrace :: .integer count :: .mark .closeBrace :: rest)
        (.exactly count) rest
  | atLeast {min : UInt32} {rest : List Token} :
      Bounds (.mark .openBrace :: .integer min :: .mark .range :: .mark .closeBrace :: rest)
        (.atLeast min) rest
  | between {min max : UInt32} {rest : List Token} (ordered : min ≤ max) :
      Bounds (.mark .openBrace :: .integer min :: .mark .range :: .integer max
        :: .mark .closeBrace :: rest) (.between ordered) rest

/-- The terms of patterns other than groups. -/
inductive PatternAtom : List Token → PatternLeaf → List Token → Prop where
  | ref {name : String} {rest : List Token} :
      PatternAtom (.tokenName name :: rest) (.ref name) rest
  | regex {body : String} {rest : List Token} :
      PatternAtom (.regex body :: rest) (.regex body) rest
  | identifier {rest : List Token} :
      PatternAtom (.mark .dollar :: .ruleName "identifier" :: rest) .identifier rest
  | number {kind : NumberKind} {rest : List Token} :
      PatternAtom (.mark .dollar :: .ruleName "number" :: .ruleName kind.word :: rest)
        (.number kind) rest
  | keyword {text : String} {rest : List Token} :
      PatternAtom (.mark .dollar :: .ruleName "keyword" :: .literal text :: rest)
        (.keyword text) rest
  | keywordChoice {tokens rest : List Token} {texts : List String} (run : Run tokens texts rest) :
      PatternAtom (.mark .dollar :: .ruleName "keyword" :: .ruleName "choice" :: tokens)
        (.keywordChoice texts) rest
  | plain {tokens rest : List Token} {texts : List String} (run : Run tokens texts rest)
      (ends : ∀ text ∈ texts, Text.endsInWord text = false) :
      PatternAtom tokens (.ofPlain texts) rest
  | keywords {tokens rest : List Token} {texts : List String} (run : Run tokens texts rest)
      (ends : ∀ text ∈ texts, Text.endsInWord text = true) :
      PatternAtom tokens (.ofKeywords texts) rest

/-- The terms of rules other than groups.  A token term that is no group is one of them. -/
inductive RuleAtom : List Token → RuleLeaf → List Token → Prop where
  | ref {name : String} {rest : List Token} : RuleAtom (.ruleName name :: rest) (.ref name) rest
  | token {tokens rest : List Token} {leaf : PatternLeaf} (atom : PatternAtom tokens leaf rest) :
      RuleAtom tokens (.token (.leaf leaf)) rest

section

variable {Leaf : Type} (Atom : List Token → Leaf → List Token → Prop)

/- The layers above the terms are the same for patterns and for rules. -/

mutual

inductive Term : List Token → Expr Leaf → List Token → Prop where
  | atom {tokens rest : List Token} {leaf : Leaf} (read : Atom tokens leaf rest) :
      Term tokens (.leaf leaf) rest
  | group {tokens rest : List Token} {items : List (Expr Leaf)}
      (inside : Alternatives tokens items (.mark .closeParen :: rest)) :
      Term (.mark .openParen :: tokens) (.choiceOf items) rest

/-- Separators with their quantifiers, which the expression before them takes in from the left. -/
inductive Separators : Expr Leaf → List Token → Expr Leaf → List Token → Prop where
  | done {e : Expr Leaf} {rest : List Token} : Separators e rest e rest
  | more {child separator e : Expr Leaf} {q : Quantifier} {tokens mid later rest : List Token}
      (read : Term tokens separator mid) (bounds : Bounds mid q later)
      (others : Separators (.separated child separator q) later e rest) :
      Separators child (.mark .percent :: tokens) e rest

/-- A term with its separators, and a quantifier behind them or none. -/
inductive Element : List Token → Expr Leaf → List Token → Prop where
  | bare {first e : Expr Leaf} {tokens mid rest : List Token}
      (read : Term tokens first mid) (separators : Separators first mid e rest) :
      Element tokens e rest
  | suffix {first e : Expr Leaf} {q : Quantifier} {tokens mid later rest : List Token}
      (read : Term tokens first mid) (separators : Separators first mid e later)
      (bounds : Bounds later q rest) : Element tokens (.quantified e q) rest

/-- One or more elements in sequence. -/
inductive Elements : List Token → List (Expr Leaf) → List Token → Prop where
  | one {e : Expr Leaf} {tokens rest : List Token} (read : Element tokens e rest) :
      Elements tokens [e] rest
  | more {e : Expr Leaf} {items : List (Expr Leaf)} {tokens mid rest : List Token}
      (read : Element tokens e mid) (others : Elements mid items rest) :
      Elements tokens (e :: items) rest

/-- One or more sequences with bars between them. -/
inductive Alternatives : List Token → List (Expr Leaf) → List Token → Prop where
  | one {elements : List (Expr Leaf)} {tokens rest : List Token}
      (read : Elements tokens elements rest) : Alternatives tokens [.sequenceOf elements] rest
  | more {elements items : List (Expr Leaf)} {tokens later rest : List Token}
      (read : Elements tokens elements (.mark .bar :: later))
      (others : Alternatives later items rest) :
      Alternatives tokens (.sequenceOf elements :: items) rest

end

/-- A whole expression.  What has one alternative alone is that alternative. -/
def Expression (tokens : List Token) (e : Expr Leaf) (rest : List Token) : Prop :=
  ∃ items, Alternatives Atom tokens items rest ∧ e = .choiceOf items

end

/-- The words between the directive for skipping and the colon. -/
inductive Strategy : List Token → SkipStrategy → List Token → Prop where
  | default {rest : List Token} : Strategy rest .before rest
  | before {rest : List Token} : Strategy (.ruleName "before" :: rest) .before rest
  | beforeGreedy {rest : List Token} :
      Strategy (.ruleName "before" :: .ruleName "greedy" :: rest) .beforeGreedy rest
  | beforeLazy {rest : List Token} :
      Strategy (.ruleName "before" :: .ruleName "lazy" :: rest) .beforeLazy rest
  | after {rest : List Token} : Strategy (.ruleName "after" :: rest) .after rest
  | afterGreedy {rest : List Token} :
      Strategy (.ruleName "after" :: .ruleName "greedy" :: rest) .afterGreedy rest
  | afterLazy {rest : List Token} :
      Strategy (.ruleName "after" :: .ruleName "lazy" :: rest) .afterLazy rest

/-- A declaration with its semicolon. -/
inductive Declares : List Token → Declaration → List Token → Prop where
  | token {name : String} {pattern : Pattern} {tokens rest : List Token}
      (body : Expression PatternAtom tokens pattern (.mark .semicolon :: rest)) :
      Declares (.tokenName name :: .mark .colon :: tokens) (.token name pattern) rest
  | rule {name : String} {rule : Rule} {tokens rest : List Token}
      (body : Expression RuleAtom tokens rule (.mark .semicolon :: rest)) :
      Declares (.ruleName name :: .mark .colon :: tokens) (.rule name rule) rest
  | main {rule : Rule} {tokens rest : List Token}
      (body : Expression RuleAtom tokens rule (.mark .semicolon :: rest)) :
      Declares (.mark .dollar :: .ruleName "main" :: .mark .colon :: tokens)
        (.main none rule) rest
  | mainNamed {name : String} {rule : Rule} {tokens rest : List Token}
      (body : Expression RuleAtom tokens rule (.mark .semicolon :: rest)) :
      Declares (.mark .dollar :: .ruleName "main" :: .ruleName name :: .mark .colon :: tokens)
        (.main (some name) rule) rest
  | skip {strategy : SkipStrategy} {rule : Rule} {words tokens rest : List Token}
      (chosen : Strategy words strategy (.mark .colon :: tokens))
      (body : Expression RuleAtom tokens rule (.mark .semicolon :: rest)) :
      Declares (.mark .dollar :: .ruleName "skip" :: words) (.skip strategy rule) rest

/- Where the atoms of one kind, those with a certain property at least, are atoms of another kind
with other leaves, so are the expressions over them.  The tree is the same above its leaves. -/

section

variable {Leaf Leaf' : Type} {A : List Token → Leaf → List Token → Prop}
  {B : List Token → Leaf' → List Token → Prop} {P : Leaf → Prop} {f : Leaf → Leaf'}

/-- The atoms whose leaves have the property are atoms of the other kind, with the leaves that the
map gives. -/
def MapsAtoms (A : List Token → Leaf → List Token → Prop)
    (B : List Token → Leaf' → List Token → Prop) (P : Leaf → Prop) (f : Leaf → Leaf') : Prop :=
  ∀ ⦃tokens leaf rest⦄, A tokens leaf rest → P leaf → B tokens (f leaf) rest

mutual

theorem Term.mapLeaves (hAB : MapsAtoms A B P f) :
    ∀ {tokens e rest}, Term A tokens e rest → (∀ leaf ∈ e.leaves, P leaf) →
      Term B tokens (e.mapLeaves f) rest
  | _, _, _, .atom read, hP => by
      rw [Expr.leaves_leaf, List.forall_mem_singleton] at hP
      exact .atom (hAB read hP)
  | _, _, _, .group inside, hP => by
      rw [Expr.leaves_choiceOf] at hP
      rw [Expr.mapLeaves_choiceOf]
      exact .group (inside.mapLeaves hAB hP)

/-- What the separators take in is part of what they make of it, so its leaves have the property
too. -/
theorem Separators.mapLeaves (hAB : MapsAtoms A B P f) :
    ∀ {child tokens e rest}, Separators A child tokens e rest → (∀ leaf ∈ e.leaves, P leaf) →
      Separators B (child.mapLeaves f) tokens (e.mapLeaves f) rest ∧ ∀ leaf ∈ child.leaves, P leaf
  | _, _, _, _, .done, hP => ⟨.done, hP⟩
  | _, _, _, _, .more read bounds others, hP => by
      obtain ⟨hothers, hchild⟩ := others.mapLeaves hAB hP
      rw [Expr.leaves_separated, List.forall_mem_append] at hchild
      exact ⟨.more (read.mapLeaves hAB hchild.2) bounds hothers, hchild.1⟩

theorem Element.mapLeaves (hAB : MapsAtoms A B P f) :
    ∀ {tokens e rest}, Element A tokens e rest → (∀ leaf ∈ e.leaves, P leaf) →
      Element B tokens (e.mapLeaves f) rest
  | _, _, _, .bare read separators, hP => by
      obtain ⟨hseparators, hfirst⟩ := separators.mapLeaves hAB hP
      exact .bare (read.mapLeaves hAB hfirst) hseparators
  | _, _, _, .suffix read separators bounds, hP => by
      rw [Expr.leaves_quantified] at hP
      obtain ⟨hseparators, hfirst⟩ := separators.mapLeaves hAB hP
      rw [Expr.mapLeaves_quantified]
      exact .suffix (read.mapLeaves hAB hfirst) hseparators bounds

theorem Elements.mapLeaves (hAB : MapsAtoms A B P f) :
    ∀ {tokens items rest}, Elements A tokens items rest →
      (∀ leaf ∈ items.flatMap Expr.leaves, P leaf) →
      Elements B tokens (items.map (Expr.mapLeaves f)) rest
  | _, _, _, .one read, hP => by
      rw [List.flatMap_singleton] at hP
      exact .one (read.mapLeaves hAB hP)
  | _, _, _, .more read others, hP => by
      rw [List.flatMap_cons, List.forall_mem_append] at hP
      exact .more (read.mapLeaves hAB hP.1) (others.mapLeaves hAB hP.2)

theorem Alternatives.mapLeaves (hAB : MapsAtoms A B P f) :
    ∀ {tokens items rest}, Alternatives A tokens items rest →
      (∀ leaf ∈ items.flatMap Expr.leaves, P leaf) →
      Alternatives B tokens (items.map (Expr.mapLeaves f)) rest
  | _, _, _, .one read, hP => by
      rw [List.flatMap_singleton, Expr.leaves_sequenceOf] at hP
      rw [List.map_singleton, Expr.mapLeaves_sequenceOf]
      exact .one (read.mapLeaves hAB hP)
  | _, _, _, .more read others, hP => by
      rw [List.flatMap_cons, Expr.leaves_sequenceOf, List.forall_mem_append] at hP
      rw [List.map_cons, Expr.mapLeaves_sequenceOf]
      exact .more (read.mapLeaves hAB hP.1) (others.mapLeaves hAB hP.2)

end

theorem Expression.mapLeaves (hAB : MapsAtoms A B P f) {tokens rest : List Token} {e : Expr Leaf}
    (h : Expression A tokens e rest) (hP : ∀ leaf ∈ e.leaves, P leaf) :
    Expression B tokens (e.mapLeaves f) rest := by
  obtain ⟨items, hitems, rfl⟩ := h
  rw [Expr.leaves_choiceOf] at hP
  exact ⟨_, hitems.mapLeaves hAB hP, Expr.mapLeaves_choiceOf f items⟩

end

/-- What is a pattern is a rule too, for the same tokens. -/
theorem Expression.toRule {tokens rest : List Token} {e : Pattern}
    (h : Expression PatternAtom tokens e rest) : Expression RuleAtom tokens e.toRule rest :=
  h.mapLeaves (P := fun _ => True) (fun _ _ _ read _ => .token read) fun _ _ => trivial

end Grammar
end GrammarText
