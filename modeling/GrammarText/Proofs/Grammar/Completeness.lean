/-
What the grammar derives the parsers read.  An ordered choice commits to its first success and a
repetition goes on while it can, so the rest of a derivation matters: nothing in it may continue
what was read.  `Follows`, `Stops` and `Closes` name the tokens with which a rest may start behind
an element, a sequence and an expression.
-/
import GrammarText.Proofs.Grammar.Derivation
import GrammarText.Proofs.Parser.Nodes
import GrammarText.Proofs.Parser.Recursion

namespace GrammarText

open GrammarText.Parser

/-- Tokens behind a whole expression. -/
def Token.closes : Token → Bool
  | mark .closeParen | mark .semicolon => true
  | _ => false

/-- Tokens behind a sequence. -/
def Token.stops : Token → Bool
  | mark .bar => true
  | t => t.closes

/-- Tokens behind an element of a sequence. -/
def Token.follows (t : Token) : Bool :=
  t.opensTerm || t.stops

namespace Grammar

/-- Every token at the head of the list is in `S`.  The end of the list will do too. -/
def Before (S : Token → Bool) (tokens : List Token) : Prop :=
  ∀ t more, tokens = t :: more → S t = true

theorem Before.cons {S : Token → Bool} {t : Token} {more : List Token} (h : S t = true) :
    Before S (t :: more) := by
  intro u later hu
  obtain ⟨rfl, -⟩ := List.cons.inj hu
  exact h

theorem Before.imp {S S' : Token → Bool} {tokens : List Token} (h : Before S tokens)
    (hS : ∀ t, S t = true → S' t = true) : Before S' tokens :=
  fun t more ht => hS t (h t more ht)

/-- A parser refuses what none of its openers may start. -/
theorem Before.refuses {α : Type} {S S' : Token → Bool} {p : Parser α} {tokens : List Token}
    (h : Before S tokens) (htakes : Takes (Opens S') p) (hS : ∀ t, S t = true → S' t = false) :
    Refuses p tokens :=
  htakes.refuses fun t more ht => hS t (h t more ht)

theorem integer_reads {value : UInt32} {rest : List Token} :
    Reads Quantifier.integer (.integer value :: rest) value rest := by
  unfold Quantifier.integer
  exact Reads.token rfl

/-- A mark that is a quantifier refuses every other mark. -/
theorem quantifier_refuses {m m' : Mark} {value : Quantifier} {rest : List Token} (h : m ≠ m') :
    Refuses (map (fun _ => value) (mark m)) (.mark m' :: rest) := by
  refine Refuses.map (Refuses.exactly fun more heq => h ?_)
  simpa using (List.cons.inj heq).1.symm

/-- Bounds in braces come behind the quantifiers of one mark. -/
theorem braces_read {q : Quantifier} {written : UInt32 × Option (Option UInt32)}
    {tokens rest : List Token}
    (hread : Reads (both Quantifier.integer
      (Parser.optional (after (mark .range) (Parser.optional Quantifier.integer)))) tokens written
      (.mark .closeBrace :: rest))
    (hq : ∀ span, Quantifier.ofWritten written span = .ok q) :
    Reads Quantifier.parser (.mark .openBrace :: tokens) q rest := by
  have hbounds : Reads Quantifier.bounds (.mark .openBrace :: tokens) written rest :=
    Reads.mark.after (hread.before Reads.mark)
  refine Reads.labelled (.tail (quantifier_refuses (by decide)) ?_)
  refine .tail (quantifier_refuses (by decide)) (.tail (quantifier_refuses (by decide)) ?_)
  exact (hbounds.checked hq).head

theorem Bounds.reads {tokens rest : List Token} {q : Quantifier} (h : Bounds tokens q rest) :
    Reads Quantifier.parser tokens q rest := by
  cases h with
  | optional => exact Reads.mark.map.head.labelled
  | zeroOrMore =>
    exact (Reads.tail (quantifier_refuses (by decide)) Reads.mark.map.head).labelled
  | oneOrMore =>
    refine Reads.labelled (.tail (quantifier_refuses (by decide)) ?_)
    exact .tail (quantifier_refuses (by decide)) Reads.mark.map.head
  | exactly =>
    have habsent : Refuses (after (mark .range) (Parser.optional Quantifier.integer))
        (.mark .closeBrace :: rest) := (Refuses.exactly (by simp)).both.map
    exact braces_read (integer_reads.both (.absent habsent)) fun _ => rfl
  | atLeast =>
    have habsent : Refuses Quantifier.integer (.mark .closeBrace :: rest) :=
      Refuses.token fun t more ht => by rw [← (List.cons.inj ht).1]
    exact braces_read (integer_reads.both (.optional (Reads.mark.after (.absent habsent))))
      fun _ => rfl
  | between ordered =>
    refine braces_read (integer_reads.both (.optional (Reads.mark.after (.optional integer_reads))))
      fun _ => ?_
    simp only [Quantifier.ofWritten, Quantifier.between?, ordered, dif_pos, Quantifier.between]

/- The tokens that may stand behind a construct are none that would continue it. -/

theorem stops_of_closes (t : Token) (h : t.closes = true) : t.stops = true := by
  unfold Token.stops
  split
  · rfl
  · exact h

theorem follows_of_stops (t : Token) (h : t.stops = true) : t.follows = true := by
  simp [Token.follows, h]

theorem not_bar_of_closes (t : Token) (h : t.closes = true) :
    decide (t = .mark .bar) = false := by
  have hne : t ≠ .mark .bar := by
    intro ht
    subst ht
    cases h
  simpa using hne

theorem not_opensTerm_of_stops (t : Token) (h : t.stops = true) : t.opensTerm = false := by
  cases t with
  | mark m => cases m <;> first | rfl | cases h
  | _ => cases h

theorem not_opensQuantifier_of_follows (t : Token) (h : t.follows = true) :
    t.opensQuantifier = false := by
  cases t with
  | mark m => cases m <;> first | rfl | cases h
  | _ => rfl

theorem not_percent_of_follows {tokens : List Token} (h : Before Token.follows tokens) :
    ∀ more, tokens ≠ .mark .percent :: more := by
  intro more heq
  cases h _ _ heq

theorem Bounds.opens {tokens rest : List Token} {q : Quantifier} (h : Bounds tokens q rest) :
    ∃ t more, tokens = t :: more ∧ t.opensQuantifier = true :=
  h.reads.opens Quantifier.parser_takes

theorem Bounds.not_percent {tokens rest : List Token} {q : Quantifier}
    (h : Bounds tokens q rest) : ∀ more, tokens ≠ .mark .percent :: more := by
  intro more heq
  obtain ⟨t, later, ht, hq⟩ := h.opens
  rw [heq] at ht
  obtain ⟨rfl, -⟩ := List.cons.inj ht
  cases hq

/- The layers, over a parser of terms that reads the atoms and the groups. -/

section

variable {Leaf : Type} {Atom : List Token → Leaf → List Token → Prop}
  {expr term : Parser (Expr Leaf)}

open GrammarText.Expr (separatedParser quantifiedParser sequenceParser layers)

/-- What a parser of terms has to do so that the layers over it read the grammar's expressions. -/
structure ReadsTerms (Atom : List Token → Leaf → List Token → Prop)
    (expr term : Parser (Expr Leaf)) : Prop where
  expr_eq : expr = layers term
  takes : Takes (Opens Token.opensTerm) term
  atom : ∀ {tokens leaf rest}, Atom tokens leaf rest → Reads term tokens (.leaf leaf) rest
  group : ∀ {tokens e rest}, Reads expr tokens e (.mark .closeParen :: rest) →
    Reads term (.mark .openParen :: tokens) e rest

mutual

theorem Term.reads (h : ReadsTerms Atom expr term) :
    ∀ {tokens e rest}, Term Atom tokens e rest → Reads term tokens e rest
  | _, _, _, .atom read => h.atom read
  | _, _, _, .group inside => by
      have hinside := inside.reads h
      obtain ⟨first, others, rfl, mid, hfirst, hothers⟩ := hinside (.cons rfl)
      refine h.group ?_
      rw [h.expr_eq]
      exact (hfirst.both hothers).map

theorem Separators.reads (h : ReadsTerms Atom expr term) :
    ∀ {child tokens e rest}, Separators Atom child tokens e rest →
      (∀ more, rest ≠ .mark .percent :: more) →
      ∃ pairs : List (Expr Leaf × Quantifier),
        e = pairs.foldl (fun e (s, q) => .separated e s q) child ∧
          Reads (many (both (after (mark .percent) term) Quantifier.parser)) tokens pairs rest
  | _, _, _, _, .done, hrest => by
      have htakes := Expr.separator_takes h.takes
      refine ⟨[], rfl, .many_nil htakes (htakes.refuses ?_)⟩
      intro t more ht
      have hne : t ≠ .mark .percent := fun hm => hrest more (hm ▸ ht)
      simpa using hne
  | _, _, _, _, .more read bounds others, hrest => by
      have hread := read.reads h
      obtain ⟨pairs, rfl, hpairs⟩ := others.reads h hrest
      refine ⟨(_, _) :: pairs, rfl, .many_cons (Expr.separator_takes h.takes) ?_ hpairs⟩
      exact (Reads.mark.after hread).both bounds.reads

theorem Element.reads (h : ReadsTerms Atom expr term) :
    ∀ {tokens e rest}, Element Atom tokens e rest → Before Token.follows rest →
      Reads (quantifiedParser term) tokens e rest
  | _, _, _, .bare read separators, hrest => by
      have hread := read.reads h
      obtain ⟨pairs, rfl, hpairs⟩ := separators.reads h (not_percent_of_follows hrest)
      have habsent := hrest.refuses Quantifier.parser_takes not_opensQuantifier_of_follows
      exact ((hread.both hpairs).map.both (.absent habsent)).map
  | _, _, _, .suffix read separators bounds, _ => by
      have hread := read.reads h
      obtain ⟨pairs, rfl, hpairs⟩ := separators.reads h bounds.not_percent
      exact ((hread.both hpairs).map.both (.optional bounds.reads)).map

theorem Elements.reads (h : ReadsTerms Atom expr term) :
    ∀ {tokens items rest}, Elements Atom tokens items rest → Before Token.stops rest →
      ∃ first others, items = first :: others ∧ ∃ mid,
        Reads (quantifiedParser term) tokens first mid ∧
          Reads (many (quantifiedParser term)) mid others rest
  | _, _, _, .one read, hrest => by
      have htakes := Expr.quantifiedParser_takes h.takes
      have hread := read.reads h (hrest.imp follows_of_stops)
      exact ⟨_, [], rfl, _, hread,
        .many_nil htakes (hrest.refuses htakes not_opensTerm_of_stops)⟩
  | _, _, _, .more read others, hrest => by
      have htakes := Expr.quantifiedParser_takes h.takes
      have hread := read.reads h
      obtain ⟨first, later, rfl, mid, hfirst, hlater⟩ := others.reads h hrest
      obtain ⟨t, more, rfl, ht⟩ := hfirst.opens htakes
      have hfollows : t.follows = true := by simp [Token.follows, ht]
      exact ⟨_, first :: later, rfl, _, hread (.cons hfollows), .many_cons htakes hfirst hlater⟩

theorem Alternatives.reads (h : ReadsTerms Atom expr term) :
    ∀ {tokens items rest}, Alternatives Atom tokens items rest → Before Token.closes rest →
      ∃ first others, items = first :: others ∧ ∃ mid,
        Reads (sequenceParser term) tokens first mid ∧
          Reads (many (after (mark .bar) (sequenceParser term))) mid others rest
  | _, _, _, .one read, hrest => by
      obtain ⟨first, others, rfl, mid, hfirst, hothers⟩ :=
        read.reads h (hrest.imp stops_of_closes)
      exact ⟨_, [], rfl, _, (hfirst.many1 hothers).map,
        .many_nil (Expr.alternative_takes h.takes)
          (hrest.refuses (Expr.alternative_takes h.takes) not_bar_of_closes)⟩
  | _, _, _, .more read others, hrest => by
      have hread := read.reads h (.cons rfl)
      obtain ⟨next, more, rfl, mid', hnext, hmore⟩ := others.reads h hrest
      obtain ⟨first, later, rfl, mid, hfirst, hlater⟩ := hread
      exact ⟨_, next :: more, rfl, _, (hfirst.many1 hlater).map,
        .many_cons (Expr.alternative_takes h.takes) (Reads.mark.after hnext) hmore⟩

end

theorem Expression.reads (h : ReadsTerms Atom expr term) {tokens rest : List Token}
    {e : Expr Leaf} (derived : Expression Atom tokens e rest) (hrest : Before Token.closes rest) :
    Reads expr tokens e rest := by
  obtain ⟨items, hitems, rfl⟩ := derived
  obtain ⟨first, others, rfl, mid, hfirst, hothers⟩ := hitems.reads h hrest
  rw [h.expr_eq]
  exact (hfirst.both hothers).map

/-- Tokens that are an expression to their end are read to their end. -/
theorem Expression.run_eq_ok (h : ReadsTerms Atom expr term) {tokens : List Lexeme} {e : Expr Leaf}
    (derived : Expression Atom (nodes tokens) e []) (stop : Nat) :
    run (before expr endOfInput) stop tokens = .ok e := by
  have hclosed : Before Token.closes [] := fun _ _ h => nomatch h
  obtain ⟨rest, hrest, hs⟩ := derived.reads h hclosed stop rfl
  obtain rfl : rest = [] := List.map_eq_nil_iff.mp hrest
  exact run_before_endOfInput.mpr hs

/-- Whatever parser the inside has, a group starts with its parenthesis. -/
theorem group_refuses {inner : Parser (Expr Leaf)} {tokens : List Token}
    (h : ∀ more, tokens ≠ .mark .openParen :: more) : Refuses (Expr.group inner) tokens :=
  (Refuses.exactly h).both.map

theorem group_reads {inner : Parser (Expr Leaf)} {tokens rest : List Token} {e : Expr Leaf}
    (h : Reads inner tokens e (.mark .closeParen :: rest)) :
    Reads (Expr.group inner) (.mark .openParen :: tokens) e rest :=
  Reads.mark.after (h.before Reads.mark)

end

/- The terms of patterns. -/

theorem word_reads {w : Word} {rest : List Token} :
    Reads (Pattern.word w) (.ruleName w.text :: rest) () rest :=
  Reads.exactly.labelled

theorem word_refuses {w : Word} {tokens : List Token}
    (h : ∀ more, tokens ≠ .ruleName w.text :: more) : Refuses (Pattern.word w) tokens :=
  (Refuses.exactly h).labelled

theorem word_refuses_other {w : Word} {text : String} {rest : List Token} (h : text ≠ w.text) :
    Refuses (Pattern.word w) (.ruleName text :: rest) :=
  word_refuses fun _ heq => h (Token.ruleName.inj (List.cons.inj heq).1)

theorem literal_reads {text : String} {rest : List Token} :
    Reads Pattern.literal (.literal text :: rest) text rest := by
  unfold Pattern.literal
  exact Reads.token rfl

theorem joinedLiteral_takes :
    Takes (Opens fun t => t = .mark .bar) (after (mark .bar) Pattern.literal) :=
  (Takes.opening (by simp) (by decide)).after Pattern.literal_takes.plain

/-- Behind a run no further literal is joined. -/
theorem joinedLiteral_refuses {rest : List Token}
    (h : ∀ next more, rest ≠ .mark .bar :: .literal next :: more) :
    Refuses (after (mark .bar) Pattern.literal) rest := by
  refine .of_not_succeeds fun stop lexemes value remaining hl hv => ?_
  obtain ⟨mid, u, hbar, hliteral⟩ := succeeds_after.mp hv
  obtain ⟨t, rfl, ht⟩ := succeeds_exactly.mp hbar
  obtain ⟨t', rfl, ht'⟩ := succeeds_token.mp hliteral
  cases hnode : t'.node <;> rw [hnode] at ht' <;> cases ht'
  refine h value (nodes remaining) ?_
  rw [← hl, nodes_cons, nodes_cons, ht, hnode]

theorem Run.reads_later {tokens rest : List Token} {texts : List String}
    (h : Run tokens texts rest) : ∃ first others mid, texts = first :: others ∧
      tokens = .literal first :: mid ∧
      Reads (many (after (mark .bar) Pattern.literal)) mid others rest := by
  induction h with
  | last maximal =>
    exact ⟨_, [], _, rfl, rfl, .many_nil joinedLiteral_takes (joinedLiteral_refuses maximal)⟩
  | more later ih =>
    obtain ⟨first, others, mid, rfl, rfl, hothers⟩ := ih
    exact ⟨_, first :: others, _, rfl, rfl,
      .many_cons joinedLiteral_takes (Reads.mark.after literal_reads) hothers⟩

theorem Run.reads {tokens rest : List Token} {texts : List String} (h : Run tokens texts rest) :
    Reads Pattern.literalRun tokens texts rest := by
  obtain ⟨first, others, mid, rfl, rfl, hothers⟩ := h.reads_later
  exact (literal_reads.both hothers).map

theorem Run.ne_nil {tokens rest : List Token} {texts : List String} (h : Run tokens texts rest) :
    texts ≠ [] := by
  cases h <;> simp

theorem Run.head {tokens rest : List Token} {texts : List String} (h : Run tokens texts rest) :
    ∃ text more, tokens = .literal text :: more := by
  cases h <;> exact ⟨_, _, rfl⟩

theorem ofLiterals?_eq (texts : List String) : PatternLeaf.ofLiterals? texts =
    if !texts.isEmpty && texts.all Text.endsInWord then some (.ofKeywords texts)
    else if texts.all (!Text.endsInWord ·) then some (.ofPlain texts) else none := by
  match texts with
  | [] => rfl
  | [_] => rfl
  | _ :: _ :: _ => rfl

/-- A run of literals has a leaf if all of them are keywords or none is. -/
theorem ofLiterals?_eq_some {texts : List String} (hne : texts ≠ []) {leaf : PatternLeaf} :
    PatternLeaf.ofLiterals? texts = some leaf ↔
      ((∀ text ∈ texts, Text.endsInWord text = true) ∧ leaf = .ofKeywords texts) ∨
        ((∀ text ∈ texts, Text.endsInWord text = false) ∧ leaf = .ofPlain texts) := by
  obtain ⟨first, others, rfl⟩ := List.exists_cons_of_ne_nil hne
  rw [ofLiterals?_eq]
  by_cases hall : ∀ text ∈ first :: others, Text.endsInWord text = true
  · have hnot : ¬ ∀ text ∈ first :: others, Text.endsInWord text = false := by
      intro h
      have hfirst := hall first (List.mem_cons_self ..)
      rw [h first (List.mem_cons_self ..)] at hfirst
      cases hfirst
    have hcond : (!(first :: others).isEmpty && (first :: others).all Text.endsInWord) = true := by
      simpa using hall
    rw [if_pos hcond]
    constructor
    · intro h
      exact .inl ⟨hall, (Option.some.inj h).symm⟩
    · intro h
      rcases h with ⟨-, rfl⟩ | ⟨hnone, -⟩
      · rfl
      · exact absurd hnone hnot
  · have hcond :
        ¬ (!(first :: others).isEmpty && (first :: others).all Text.endsInWord) = true := by
      simpa using hall
    rw [if_neg hcond]
    by_cases hnone : ∀ text ∈ first :: others, Text.endsInWord text = false
    · have hcond' : (first :: others).all (!Text.endsInWord ·) = true := by simpa using hnone
      rw [if_pos hcond']
      constructor
      · intro h
        exact .inr ⟨hnone, (Option.some.inj h).symm⟩
      · intro h
        rcases h with ⟨h, -⟩ | ⟨-, rfl⟩
        · exact absurd h hall
        · rfl
    · have hcond' : ¬ (first :: others).all (!Text.endsInWord ·) = true := by simpa using hnone
      rw [if_neg hcond']
      constructor
      · intro h
        cases h
      · intro h
        rcases h with ⟨h, -⟩ | ⟨h, -⟩
        · exact absurd h hall
        · exact absurd h hnone

theorem literalChoice_reads {tokens rest : List Token} {texts : List String} {leaf : PatternLeaf}
    (h : Run tokens texts rest) (hleaf : PatternLeaf.ofLiterals? texts = some leaf) :
    Reads Pattern.literalChoice tokens leaf rest :=
  h.reads.checked fun _ => by rw [hleaf]

/-- The directives of the leaves are told apart by the word behind the dollar sign. -/
theorem directive_reads {word : String} {tokens rest : List Token} {leaf : PatternLeaf}
    (h : Reads (firstOf (map (fun _ => PatternLeaf.identifier) (Pattern.word .identifier))
      [after (Pattern.word .keyword) Pattern.keyword,
       after (Pattern.word .number) (map PatternLeaf.number Pattern.numberKind)])
      (.ruleName word :: tokens) leaf rest) :
    Reads Pattern.directive (.mark .dollar :: .ruleName word :: tokens) leaf rest :=
  Reads.mark.after h

theorem numberKind_reads {kind : NumberKind} {rest : List Token} :
    Reads Pattern.numberKind (.ruleName kind.word :: rest) kind rest := by
  cases kind with
  | integer => exact word_reads.map.head
  | float =>
    exact .tail (word_refuses_other (by decide)).map word_reads.map.head
  | double =>
    refine .tail (word_refuses_other (by decide)).map ?_
    exact .tail (word_refuses_other (by decide)).map word_reads.map.head

theorem tokenName_reads {name : String} {rest : List Token} :
    Reads Pattern.tokenName (.tokenName name :: rest) name rest := by
  unfold Pattern.tokenName
  exact Reads.token rfl

theorem tokenName_refuses {t : Token} {more : List Token} (h : ∀ name, t ≠ .tokenName name) :
    Refuses Pattern.tokenName (t :: more) := by
  refine Refuses.token fun u later hu => ?_
  rw [← (List.cons.inj hu).1]
  cases t with
  | tokenName name => exact absurd rfl (h name)
  | _ => rfl

theorem regex_refuses {text : String} {more : List Token} :
    Refuses Pattern.regex (.literal text :: more) := by
  refine Refuses.token fun u later hu => ?_
  rw [← (List.cons.inj hu).1]

theorem directive_refuses {t : Token} {more : List Token} (h : t ≠ .mark .dollar) :
    Refuses Pattern.directive (t :: more) :=
  (Refuses.exactly fun _ hl => h (List.cons.inj hl).1).both.map

theorem ruleName_reads {name : String} {rest : List Token} :
    Reads Rule.ruleName (.ruleName name :: rest) name rest := by
  unfold Rule.ruleName
  exact Reads.token rfl

theorem ruleName_refuses {t : Token} {more : List Token} (h : ∀ name, t ≠ .ruleName name) :
    Refuses Rule.ruleName (t :: more) := by
  refine Refuses.token fun u later hu => ?_
  rw [← (List.cons.inj hu).1]
  cases t with
  | ruleName name => exact absurd rfl (h name)
  | _ => rfl

section

variable {inner : Parser Pattern}

theorem termForms_reads_directive {word : String} {tokens rest : List Token} {leaf : PatternLeaf}
    (h : Reads Pattern.directive (.mark .dollar :: .ruleName word :: tokens) leaf rest) :
    Reads (Pattern.termForms inner) (.mark .dollar :: .ruleName word :: tokens) (.leaf leaf)
      rest :=
  .tail (group_refuses (by simp)) (.tail (tokenName_refuses (by simp)).map h.map.head)

theorem termForms_reads_run {tokens rest : List Token} {texts : List String} {leaf : PatternLeaf}
    (h : Run tokens texts rest) (hleaf : PatternLeaf.ofLiterals? texts = some leaf) :
    Reads (Pattern.termForms inner) tokens (.leaf leaf) rest := by
  obtain ⟨text, more, rfl⟩ := h.head
  refine .tail (group_refuses (by simp)) (.tail (tokenName_refuses (by simp)).map ?_)
  refine .tail (directive_refuses (by simp)).map (.tail regex_refuses.map ?_)
  exact (literalChoice_reads h hleaf).map.head

/-- A term that starts with no parenthesis is read by one of the parsers behind the group's. -/
theorem PatternAtom.reads {tokens rest : List Token} {leaf : PatternLeaf}
    (h : PatternAtom tokens leaf rest) :
    Reads (Pattern.termForms inner) tokens (.leaf leaf) rest := by
  cases h with
  | ref => exact .tail (group_refuses (by simp)) tokenName_reads.map.head
  | regex =>
    refine .tail (group_refuses (by simp)) (.tail (tokenName_refuses (by simp)).map ?_)
    refine .tail (directive_refuses (by simp)).map (Reads.head (Reads.map ?_))
    unfold Pattern.regex
    exact Reads.token rfl
  | identifier => exact termForms_reads_directive (directive_reads word_reads.map.head)
  | number =>
    refine termForms_reads_directive (directive_reads ?_)
    refine .tail (word_refuses_other (by decide)).map ?_
    exact .tail (word_refuses_other (by decide)).both.map
      (word_reads.after numberKind_reads.map).head
  | @keyword text =>
    have hword : Refuses (map PatternLeaf.keywordChoice
        (after (Pattern.word .choice) Pattern.literalRun)) (.literal text :: rest) :=
      (word_refuses (by simp)).both.map.map
    refine termForms_reads_directive (directive_reads ?_)
    refine .tail (word_refuses_other (by decide)).map ?_
    exact (word_reads.after (.tail hword literal_reads.map.head)).head
  | keywordChoice run =>
    refine termForms_reads_directive (directive_reads ?_)
    refine .tail (word_refuses_other (by decide)).map ?_
    exact (word_reads.after (word_reads.after run.reads).map.head).head
  | plain run ends =>
    exact termForms_reads_run run ((ofLiterals?_eq_some run.ne_nil).mpr (.inr ⟨ends, rfl⟩))
  | keywords run ends =>
    exact termForms_reads_run run ((ofLiterals?_eq_some run.ne_nil).mpr (.inl ⟨ends, rfl⟩))

end

/-- No atom of a pattern starts with a parenthesis or with the name of a rule. -/
theorem PatternAtom.head {tokens rest : List Token} {leaf : PatternLeaf}
    (h : PatternAtom tokens leaf rest) :
    ∃ t more, tokens = t :: more ∧ t ≠ .mark .openParen ∧ ∀ name, t ≠ .ruleName name := by
  have hrun : ∀ {texts : List String}, Run tokens texts rest →
      ∃ t more, tokens = t :: more ∧ t ≠ .mark .openParen ∧ ∀ name, t ≠ .ruleName name := by
    intro texts run
    obtain ⟨text, more, rfl⟩ := run.head
    exact ⟨_, _, rfl, by simp, by simp⟩
  cases h with
  | plain run => exact hrun run
  | keywords run => exact hrun run
  | _ => exact ⟨_, _, rfl, by simp, by simp⟩

theorem pattern_readsTerms : ReadsTerms PatternAtom Pattern.parser
    (labelled .tokenExpression (Pattern.termForms Pattern.parser)) where
  expr_eq := Pattern.parser_eq
  takes := (Pattern.termForms_takes Pattern.parser_takes.plain).labelled
  atom := fun h => h.reads.labelled
  group := fun h => (group_reads h).head.labelled

theorem RuleAtom.reads {inner : Parser Rule} {tokens rest : List Token} {leaf : RuleLeaf}
    (h : RuleAtom tokens leaf rest) : Reads (Rule.term inner) tokens (.leaf leaf) rest := by
  cases h with
  | ref => exact Reads.labelled (.tail (group_refuses (by simp)) ruleName_reads.map.head)
  | token atom =>
    obtain ⟨t, more, rfl, hparen, hname⟩ := atom.head
    have hgroup : Refuses (Expr.group inner) (t :: more) :=
      group_refuses fun _ hl => hparen (List.cons.inj hl).1
    exact Reads.labelled (.tail hgroup (.tail (ruleName_refuses hname).map atom.reads.map.head))

theorem rule_readsTerms : ReadsTerms RuleAtom Rule.parser (Rule.term Rule.parser) where
  expr_eq := Rule.parser_eq
  takes := Rule.term_takes Rule.parser_takes.plain
  atom := RuleAtom.reads
  group := fun h => (group_reads h).head.labelled

/- Declarations. -/

/-- Of two words the second is read where the first is not. -/
theorem secondWord_reads {a b : Word} {v w : Bool} {rest : List Token} (h : a.text ≠ b.text) :
    Reads (firstOf (map (fun _ => v) (Pattern.word a)) [map (fun _ => w) (Pattern.word b)])
      (.ruleName b.text :: rest) w rest :=
  .tail (word_refuses_other h.symm).map word_reads.map.head

theorem twoWords_refuse {a b : Word} {v w : Bool} {tokens : List Token} :
    Refuses (firstOf (map (fun _ => v) (Pattern.word a)) [map (fun _ => w) (Pattern.word b)])
      (.mark .colon :: tokens) := by
  refine Refuses.firstOf (word_refuses (by simp)).map fun p hp => ?_
  rw [List.mem_singleton.mp hp]
  exact (word_refuses (by simp)).map

theorem Strategy.reads {words tokens : List Token} {strategy : SkipStrategy}
    (h : Strategy words strategy (.mark .colon :: tokens)) :
    Reads Declaration.skipStrategy words strategy (.mark .colon :: tokens) := by
  cases h with
  | default => exact (Reads.absent twoWords_refuse.both).map
  | before => exact (Reads.optional (word_reads.map.head.both (.absent twoWords_refuse))).map
  | beforeGreedy =>
    exact (Reads.optional (word_reads.map.head.both word_reads.map.head.optional)).map
  | beforeLazy =>
    exact (Reads.optional
      (word_reads.map.head.both (secondWord_reads (by decide)).optional)).map
  | after =>
    exact (Reads.optional ((secondWord_reads (by decide)).both (.absent twoWords_refuse))).map
  | afterGreedy =>
    exact (Reads.optional
      ((secondWord_reads (by decide)).both word_reads.map.head.optional)).map
  | afterLazy =>
    exact (Reads.optional
      ((secondWord_reads (by decide)).both (secondWord_reads (by decide)).optional)).map

/-- A rule is read where its header is, since no token declaration starts as a header does. -/
theorem ruleParser_reads {header : Declaration.Header} {rule : Rule} {t : Token}
    {more tokens rest : List Token} (ht : ∀ name, t ≠ .tokenName name)
    (hheader : Reads Declaration.header (t :: more) header (.mark .colon :: tokens))
    (hbody : Expression RuleAtom tokens rule (.mark .semicolon :: rest)) :
    Reads (firstOf Declaration.tokenParser [Declaration.ruleParser]) (t :: more)
      (header.declare rule) rest := by
  have hrule := hbody.reads rule_readsTerms (.cons rfl)
  refine .tail (tokenName_refuses ht).both.map.both.both.map.map (Reads.head ?_)
  exact (((hheader.before Reads.mark).both hrule).before Reads.mark).map

section

open Declaration (header Header)

variable {name : String} {strategy : SkipStrategy} {words tokens : List Token}

theorem header_reads_named :
    Reads header (.ruleName name :: .mark .colon :: tokens) (.named name)
      (.mark .colon :: tokens) :=
  .tail (Refuses.exactly (by simp)).both.map ruleName_reads.map.head

theorem header_reads_main :
    Reads header (.mark .dollar :: .ruleName "main" :: .mark .colon :: tokens) (.main none)
      (.mark .colon :: tokens) :=
  (Reads.mark.after
    (word_reads.after (Reads.absent (ruleName_refuses (by simp))).map).head).head

theorem header_reads_mainNamed :
    Reads header (.mark .dollar :: .ruleName "main" :: .ruleName name :: .mark .colon :: tokens)
      (.main (some name)) (.mark .colon :: tokens) :=
  (Reads.mark.after (word_reads.after ruleName_reads.optional.map).head).head

theorem header_reads_skip (h : Strategy words strategy (.mark .colon :: tokens)) :
    Reads header (.mark .dollar :: .ruleName "skip" :: words) (.skip strategy)
      (.mark .colon :: tokens) := by
  refine (Reads.mark.after (Reads.tail ?_ (word_reads.after h.reads.map).head)).head
  exact (word_refuses_other (by decide)).both.map

end

theorem Declares.reads {tokens rest : List Token} {d : Declaration} (h : Declares tokens d rest) :
    Reads (firstOf Declaration.tokenParser [Declaration.ruleParser]) tokens d rest := by
  cases h with
  | token body =>
    have hpattern := body.reads pattern_readsTerms (.cons rfl)
    exact (((tokenName_reads.before Reads.mark).both hpattern).before Reads.mark).map.head
  | rule body => exact ruleParser_reads (by simp) header_reads_named body
  | main body => exact ruleParser_reads (by simp) header_reads_main body
  | mainNamed body => exact ruleParser_reads (by simp) header_reads_mainNamed body
  | skip chosen body => exact ruleParser_reads (by simp) (header_reads_skip chosen) body

end Grammar
end GrammarText
