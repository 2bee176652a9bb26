/-
What errors at the end leave out.  A primitive that reads one token of a kind lists nothing where
the tokens end.  The label of a construct makes up for it, and so do words and marks, which are
listed at the end too.  That leaves three places: the start of a declaration, where names may stand,
the name of a main rule, and the literal of a keyword.
-/
import GrammarText.Proofs.Viability.Foresight

namespace GrammarText

open Computability GrammarText.Parser

namespace Grammar

/-- Behind the word for keywords the end leaves out the literal. -/
def keywordGap (read : List Token) : Set Expectation :=
  {x | x = .literal ∧ [.mark .dollar, .ruleName "keyword"] <:+ read}

theorem keywordGap_nil : keywordGap [] = ∅ := by
  ext x
  simp [keywordGap]

theorem keywordGap_cons {t : Token} {read : List Token}
    (h : t ≠ .mark .dollar ∨ read ≠ [.ruleName "keyword"]) :
    keywordGap (t :: read) = keywordGap read := by
  have hsuffix : [.mark .dollar, .ruleName "keyword"] <:+ t :: read ↔
      [.mark .dollar, .ruleName "keyword"] <:+ read := by
    rw [List.suffix_cons_iff]
    refine or_iff_right fun heq => ?_
    obtain ⟨rfl, rfl⟩ := List.cons.inj heq
    exact h.elim (fun h => h rfl) fun h => h rfl
  unfold keywordGap
  rw [hsuffix]

/-- The words in front of which the gap is as without them. -/
def shut : Language Token :=
  {w : List Token | ∀ read, keywordGap (w ++ read) = keywordGap read}

theorem shut_closed : Closed shut := by
  refine ⟨?_, ?_⟩
  · rintro w rfl read
    rfl
  · rintro w ⟨a, ha, b, hb, rfl⟩ read
    show keywordGap (a ++ b ++ read) = _
    rw [List.append_assoc, ha, hb]

theorem over_le_shut : Over (· ≠ .mark .dollar) ≤ shut := by
  intro w hw read
  induction w with
  | nil => rfl
  | cons t more ih =>
    rw [List.cons_append, keywordGap_cons (.inl (hw t (List.mem_cons_self ..)))]
    exact ih fun u hu => hw u (List.mem_cons_of_mem _ hu)

theorem token_le_shut {S : Token → Prop} (h : ¬ S (.mark .dollar)) : Shape.one S ≤ shut :=
  (Over.token_le fun t ht (heq : t = .mark .dollar) => h (heq ▸ ht)).trans over_le_shut

theorem keywordGap_of_mem_shut {w : List Token} (h : w ∈ shut) : keywordGap w = ∅ := by
  have hgap := h []
  rwa [List.append_nil, keywordGap_nil] at hgap

/-- Without dollar signs there is no gap. -/
theorem keywordGap_of_begun {D : Language Token} (hD : D ≤ Over (· ≠ .mark .dollar))
    {read : List Token} (h : Begun D read) : keywordGap read = ∅ := by
  obtain ⟨later, hw⟩ := h
  refine keywordGap_of_mem_shut (over_le_shut fun t ht => hD hw t ?_)
  exact List.mem_append_left later ht

/- What is said of the errors behind some tokens. -/

namespace Account

/-- No error has a label yet. -/
def unnamed : Account :=
  fun _ l _ => l = none

/-- Nothing is left out but for the gap, and where there is one the error has a label. -/
def settled : Account :=
  fun read l o => o = keywordGap read ∧ (l = none → keywordGap read = ∅)

theorem unnamed_joint : unnamed.Joint := by
  rintro read l l' o o' rfl rfl
  rfl

theorem settled_joint : settled.Joint := by
  rintro read l l' o o' ⟨rfl, hl⟩ ⟨rfl, -⟩
  refine ⟨Set.union_self _, fun hnone => hl ?_⟩
  cases l with
  | none => rfl
  | some name => cases hnone

theorem settled_nil (l : Option Expectation) : settled [] l ∅ :=
  ⟨keywordGap_nil.symm, fun _ => keywordGap_nil⟩

theorem settled_append {w read : List Token} {l : Option Expectation} {o : Set Expectation}
    (hw : w ∈ shut) (h : settled read l o) : settled (w ++ read) l o := by
  unfold settled
  rwa [hw read]

end Account

open Account

variable {α β : Type} {n m : Nat} {a : Account} {A B D T E : Language Token} {p : Parser α}
  {q : Parser β}

/-- The parser leaves nothing out but for the gap, and does not open one. -/
structure Settles (n : Nat) (D : Language Token) (p : Parser α) : Prop extends
    Foresees n settled D p where
  le_shut : D ≤ shut

namespace Settles

theorem mark (n : Nat) {m : Mark} (hm : m ≠ .dollar) : Settles n (Shape.mark m) (Parser.mark m) :=
  ⟨.mark n m (settled_nil none), token_le_shut fun h => hm (Token.mark.inj h).symm⟩

theorem map (h : Settles n D p) (f : α → β) : Settles n D (Parser.map f p) :=
  ⟨h.toForesees.map f, h.le_shut⟩

theorem both (hp : Settles n A p) (hq : Settles n B q) : Settles n (A * B) (Parser.both p q) :=
  ⟨.both settled_joint hp.toForesees hq.toForesees (fun _ _ => Nat.le_add_right ..)
    (fun _ _ _ => id) fun _ hw _ _ _ => settled_append (hp.le_shut hw),
    shut_closed.mul_le hp.le_shut hq.le_shut⟩

theorem before (hp : Settles n A p) (hq : Settles n B q) :
    Settles n (A * B) (Parser.before p q) :=
  (hp.both hq).map _

theorem after (hp : Settles n A p) (hq : Settles n B q) : Settles n (A * B) (Parser.after p q) :=
  (hp.both hq).map _

theorem firstOf {o : Parser α} {others : List (Parser α)} (hp : Settles n A p)
    (ho : Settles n B (Parser.firstOf o others)) :
    Settles n (A + B) (Parser.firstOf p (o :: others)) :=
  ⟨.firstOf settled_joint hp.toForesees ho.toForesees, sup_le hp.le_shut ho.le_shut⟩

theorem only (h : Settles n D p) : Settles n D (Parser.firstOf p []) :=
  h

theorem optional (h : Settles n D p) : Settles n (1 + D) (Parser.optional p) :=
  ⟨h.toForesees.optional, sup_le shut_closed.one_le h.le_shut⟩

theorem many {S : Token → Bool} (h : Settles n D p) (htakes : Takes (Opens S) p) :
    Settles n D∗ (Parser.many p) :=
  ⟨.many settled_joint htakes h.toForesees fun _ hw _ _ _ => settled_append (h.le_shut hw),
    shut_closed.kstar_le h.le_shut⟩

end Settles

/- Words, which are listed at the end too. -/

theorem word_foresees (n : Nat) (w : Word) (ha : a [] (some (.word w)) ∅) :
    Foresees n a (Shape.word w.text) (Pattern.word w) := by
  have hexactly : Foresees n (fun read l _ => read = [] ∧ l = none) (Shape.word w.text)
      (exactly (.word w) (.ruleName w.text)) := .exactly n rfl ⟨rfl, rfl⟩
  refine hexactly.labelled (rfl : (Expectation.word w).isKind = false)
    (fun read o _ h => ?_) fun _ _ _ _ h => nomatch h.2
  obtain ⟨rfl, -⟩ := h
  exact ha

theorem word_done {w : Word} {stop : Nat} {t : Lexeme} {rest next : List Lexeme}
    (h : t.node = .ruleName w.text) :
    Forecast.Of next (.done () rest none) (Pattern.word w stop (t :: (rest ++ next))) :=
  (Forecast.Of.exactly_done h).labelled_done _

theorem word_failed (w : Word) {stop : Nat} {next : List Lexeme}
    (h : Barred (Shape.word w.text) [] (nodes next)) :
    Forecast.Of next (.failed (.behind ⟨.unexpected, some (.word w), {.word w}, ∅⟩))
      (Pattern.word w stop next) := by
  have hexactly : Forecast.Of next (.failed (.behind ⟨.unexpected, none, {.word w}, ∅⟩))
      (exactly (.word w) (.ruleName w.text) stop next) := .exactly_failed h
  unfold Pattern.word
  simpa [Outlook.withLabel, Notice.withLabel] using hexactly.labelled_failed (.word w)

theorem word_le_over (text : String) : Shape.word text ≤ Over (· ≠ .mark .dollar) :=
  Over.token_le fun _ ht => ht ▸ nofun

theorem Settles.word (n : Nat) (w : Word) :
    Settles n (Shape.word w.text) (Pattern.word w) :=
  ⟨word_foresees n w (settled_nil _), (word_le_over w.text).trans over_le_shut⟩

/- Quantifiers and runs of literals, whose errors have no label of their own. -/

theorem unnamed_both (hp : Foresees n unnamed A p) (hq : Foresees n unnamed B q) :
    Foresees n unnamed (A * B) (both p q) :=
  .both unnamed_joint hp hq (fun _ _ => Nat.le_add_right ..) (fun _ _ _ => id)
    fun _ _ _ _ _ => id

theorem unnamed_mark (n : Nat) (m : Mark) : Foresees n unnamed (Shape.mark m) (mark m) :=
  .mark n m rfl

theorem quantifier_settles (n : Nat) : Settles n Shape.quantifier Quantifier.parser := by
  have hover : Shape.quantifier ≤ Over (· ≠ .mark .dollar) :=
    Over.quantifier_le (fun _ => Token.noConfusion) fun m hm h => by
      obtain rfl := Token.mark.inj h
      revert hm
      decide
  have hinteger : Foresees n unnamed Shape.integer Quantifier.integer :=
    .token n (fun t => by cases t <;> simp) ⟨0, rfl⟩ rfl
  have hupper := ((unnamed_both (unnamed_mark n .range) hinteger.optional).map Prod.snd).optional
  have hbounds : Foresees n unnamed Shape.bounds Quantifier.bounds :=
    (unnamed_both (unnamed_mark n .openBrace)
      ((unnamed_both (unnamed_both hinteger hupper) (unnamed_mark n .closeBrace)).map _)).map _
  have hall := Foresees.firstOf unnamed_joint
    ((unnamed_mark n .question).map fun _ => Quantifier.optional)
    (.firstOf unnamed_joint ((unnamed_mark n .star).map fun _ => Quantifier.zeroOrMore)
      (.firstOf unnamed_joint ((unnamed_mark n .plus).map fun _ => Quantifier.oneOrMore)
        (hbounds.checked Quantifier.ofWritten_checksValue).only))
  refine ⟨hall.labelled (rfl : Expectation.quantifier.isKind = false) (fun read o hbegun _ => ?_)
    fun _ _ _ _ h => (nomatch h), hover.trans over_le_shut⟩
  exact ⟨(keywordGap_of_begun hover hbegun).symm, nofun⟩

theorem literal_foresees (n : Nat) (ha : a [] none {.literal}) :
    Foresees n a Shape.literal Pattern.literal :=
  .token n (fun t => by cases t <;> simp) ⟨"", rfl⟩ ha

theorem joinedLiteral_opens : Takes (Opens fun t => t = .mark .bar)
    (after (mark .bar) Pattern.literal) :=
  (Takes.opening (by simp) (by decide)).after Pattern.literal_takes.plain

theorem run_foresees (n : Nat) : Foresees n unnamed Shape.run Pattern.literalRun :=
  (unnamed_both (literal_foresees n rfl)
    (.many unnamed_joint joinedLiteral_opens
      ((unnamed_both (unnamed_mark n .bar) (literal_foresees n rfl)).map _)
      fun _ _ _ _ _ => id)).map _

theorem literal_le_over : Shape.literal ≤ Over (· ≠ .mark .dollar) :=
  Over.token_le fun _ ⟨_, ht⟩ => ht ▸ nofun

theorem run_le_over : Shape.run ≤ Over (· ≠ .mark .dollar) :=
  Over.mul_le literal_le_over (Over.kstar_le (Over.mul_le (Over.token_le fun _ ht => ht ▸ nofun)
    literal_le_over))

/- Expressions, given their terms. -/

theorem Settles.layers {Leaf : Type} {term : Parser (Expr Leaf)} (h : Settles n T term)
    (htakes : Takes (Opens Token.opensTerm) term) :
    Settles n (Shape.alternatives T) (Expr.layers term) := by
  have hquantifier := quantifier_settles n
  have hpercent : Settles n (Shape.mark .percent) (Parser.mark .percent) := .mark n nofun
  have hbar : Settles n (Shape.mark .bar) (Parser.mark .bar) := .mark n nofun
  have hseparated : Settles n (Shape.separated T) (Expr.separatedParser term) :=
    (h.both (((hpercent.after h).both hquantifier).many (Expr.separator_takes htakes))).map _
  have helement : Settles n (Shape.element T) (Expr.quantifiedParser term) :=
    (hseparated.both hquantifier.optional).map _
  have hsequence : Settles n (Shape.sequence T) (Expr.sequenceParser term) :=
    ((helement.both (helement.many (Expr.quantifiedParser_takes htakes))).map _).map _
  exact (hsequence.both ((hbar.after hsequence).many (Expr.alternative_takes htakes))).map _

/- Terms. -/

/-- What was read of a term is nothing, or literals, or keywords. -/
def Bare (read : List Token) : Prop :=
  read = [] ∨ (∃ text more, read = .literal text :: more) ∨
    ∃ more, read = .mark .dollar :: .ruleName "keyword" :: .ruleName "choice" :: more

namespace Account

/-- Errors of a term before it gives them its label.  None has one where all that the end leaves out
is to be made up for. -/
def atTerm : Account :=
  fun read l o => (Bare read → l = none ∧ keywordGap read = ∅) ∧ (¬ Bare read → settled read l o)

theorem atTerm_joint : atTerm.Joint := by
  rintro read l l' o o' ⟨hbare, hother⟩ ⟨hbare', hother'⟩
  refine ⟨fun h => ⟨?_, (hbare h).2⟩, fun h => settled_joint _ _ _ _ _ (hother h) (hother' h)⟩
  rw [(hbare h).1, (hbare' h).1]
  rfl

theorem atTerm_nil (o : Set Expectation) : atTerm [] none o :=
  ⟨fun _ => ⟨rfl, keywordGap_nil⟩, fun h => absurd (.inl rfl) h⟩

theorem atTerm_of_settled {read : List Token} {l : Option Expectation} {o : Set Expectation}
    (hbare : ¬ Bare read) (h : settled read l o) : atTerm read l o :=
  ⟨fun h => absurd h hbare, fun _ => h⟩

theorem atTerm_of_unnamed {read : List Token} {l : Option Expectation} {o : Set Expectation}
    (hbare : Bare read) (hgap : keywordGap read = ∅) (h : unnamed read l o) : atTerm read l o :=
  ⟨fun _ => ⟨h, hgap⟩, fun h => absurd hbare h⟩

end Account

/-- The label of a term settles what is left out of its errors. -/
theorem Foresees.settles {name : Expectation} (hname : name.isKind = false)
    (h : Foresees n atTerm D p) (hD : D ≤ shut) : Settles n D (Parser.labelled name p) := by
  refine ⟨h.labelled hname (fun read o _ ho => ?_) fun read l o _ ho => ?_, hD⟩
  · have hgap : keywordGap read = ∅ := by
      by_cases hbare : Bare read
      · exact (ho.1 hbare).2
      · exact (ho.2 hbare).2 rfl
    exact ⟨hgap.symm, fun h => nomatch h⟩
  · exact ho.2 fun hbare => nomatch (ho.1 hbare).1

theorem group_foresees {Leaf : Type} {inner : Parser (Expr Leaf)} (h : Settles n E inner) :
    Foresees (n + 1) atTerm (Shape.group E) (Expr.group inner) := by
  have hinside : Settles n (E * Shape.mark .closeParen) (before inner (mark .closeParen)) :=
    h.before (.mark n nofun)
  refine (Foresees.behind atTerm_joint (.mark _ _ (atTerm_nil ∅))
    (hinside.toForesees.imp fun read l o _ hs => ?_) (Nat.le_refl _)).map _
  have hbare : ¬ Bare (.mark .openParen :: read) := by
    rintro (h | ⟨_, _, h⟩ | ⟨_, h⟩) <;> cases h
  have hshut : [.mark .openParen] ∈ shut := fun _ => keywordGap_cons (.inl nofun)
  exact atTerm_of_settled hbare (settled_append hshut hs)

theorem bare_of_run {read : List Token} (h : Begun Shape.run read) : Bare read := by
  cases read with
  | nil => exact .inl rfl
  | cons t more =>
    obtain ⟨text, rfl⟩ := ((starts_one.mul _).heads : Heads _ Shape.run) t (h.of_append (v := [t]))
    exact .inr (.inl ⟨text, more, rfl⟩)

theorem literalChoice_foresees (n : Nat) : Foresees n atTerm Shape.run Pattern.literalChoice :=
  ((run_foresees n).checked Pattern.ofLiterals_checksValue).imp fun _ _ _ hbegun h =>
    atTerm_of_unnamed (bare_of_run hbegun) (keywordGap_of_begun run_le_over hbegun) h

/- Directives.  Their accounts are those of terms behind what has been read of the directive. -/

theorem not_bare_dollar {more : List Token}
    (h : ∀ v, more ≠ .ruleName "keyword" :: .ruleName "choice" :: v) :
    ¬ Bare (.mark .dollar :: more) := by
  rintro (heq | ⟨_, _, heq⟩ | ⟨v, heq⟩)
  · cases heq
  · cases heq
  · exact h v (List.cons.inj heq).2

/-- Only the word for keywords opens a gap behind a dollar sign. -/
theorem dollar_mem_shut {v : List Token} (hover : ∀ t ∈ v, t ≠ .mark .dollar) (hnil : v ≠ [])
    (hkeyword : v ≠ [.ruleName "keyword"]) : .mark .dollar :: v ∈ shut := by
  intro read
  rw [List.cons_append, keywordGap_cons (.inr fun heq => ?_), over_le_shut hover]
  rcases List.append_eq_singleton_iff.mp heq with ⟨h, -⟩ | ⟨h, -⟩
  · exact hnil h
  · exact hkeyword h

theorem dollar_mul_le_shut (hover : D ≤ Over (· ≠ .mark .dollar)) (hnil : [] ∉ D)
    (hkeyword : [.ruleName "keyword"] ∉ D) : Shape.mark .dollar * D ≤ shut := by
  intro w hw
  obtain ⟨t, v, rfl, rfl, hv⟩ := mem_one_mul.mp hw
  exact dollar_mem_shut (hover hv) (fun h => hnil (h ▸ hv)) fun h => hkeyword (h ▸ hv)

theorem not_mem_word_mul {text : String} {v : List Token}
    (h : ∀ more, v ≠ .ruleName text :: more) : v ∉ Shape.word text * D := by
  intro hv
  obtain ⟨t, more, rfl, rfl, -⟩ := mem_one_mul.mp hv
  exact h more rfl

/-- At the word for keywords and behind it the one error lists the word for a choice, which labels
it, and the literal only if a token comes next. -/
theorem keyword_failed {stop : Nat} {next : List Lexeme}
    (h : Barred Shape.keyword [] (nodes next)) :
    Forecast.Of next
      (.failed (.behind ⟨.unexpected, some (.word .choice), {.word .choice}, {.literal}⟩))
      (Pattern.keyword stop next) := by
  have hchoice : Forecast.Of next
      (.failed (.behind ⟨.unexpected, some (.word .choice), {.word .choice}, ∅⟩))
      (map PatternLeaf.keywordChoice (after (Pattern.word .choice) Pattern.literalRun)
        stop next) := by
    have hword : Forecast.Of next
        (.failed (.behind ⟨.unexpected, some (.word .choice), {.word .choice}, ∅⟩))
        (Pattern.word .choice stop next) :=
      word_failed .choice ((h.mono le_sup_left).left (run_foresees 0).inhabited)
    exact (hword.both_failed.map_failed _).map_failed _
  have hliteral : Forecast.Of next (.failed (.behind ⟨.unexpected, none, ∅, {.literal}⟩))
      (firstOf (map PatternLeaf.keyword Pattern.literal) [] stop next) :=
    (Forecast.Of.token_failed (fun t => by cases t <;> simp) (h.mono le_sup_right)).map_failed _
  unfold Pattern.keyword
  simpa [Outlook.furthest, Notice.merge] using hchoice.firstOf_failed hliteral

theorem keyword_foresees (n : Nat) :
    Foresees n (atTerm.past [.mark .dollar, .ruleName "keyword"]) Shape.keyword
      Pattern.keyword := by
  have hjoint := (atTerm_joint.past [.mark .dollar, .ruleName "keyword"]).except []
  have hrun : Foresees n (fun read l _ => l = none ∧ keywordGap read = ∅) Shape.run
      Pattern.literalRun :=
    (run_foresees n).imp fun _ _ _ hbegun h => ⟨h, keywordGap_of_begun run_le_over hbegun⟩
  have hshut : [.mark .dollar, .ruleName "keyword", .ruleName "choice"] ∈ shut :=
    dollar_mem_shut (by simp) nofun nofun
  have hchoice := Foresees.behind hjoint (word_foresees n .choice (except_self _ _ _))
    (hrun.imp fun read l o _ ⟨hl, hgap⟩ _ =>
      atTerm_of_unnamed (.inr (.inr ⟨read, rfl⟩)) ((hshut read).trans hgap) hl) (Nat.le_succ n)
  -- Where both parts start, one leaves the literal out and the other gives the label, so neither
  -- is accounted for by itself.
  refine .elsewhere [] ⟨.unexpected, some (.word .choice), {.word .choice}, {.literal}⟩
    (.firstOf hjoint ((hchoice.map _).map _) ((literal_foresees n (except_self _ _ _)).map _).only)
    ⟨?_, fun _ => ⟨?_, ?_⟩⟩ ?_
  · exact ⟨[.literal ""], .inr ⟨_, ⟨"", rfl⟩, rfl⟩⟩
  · have hgap : {.literal} = keywordGap [.mark .dollar, .ruleName "keyword"] := by
      ext x
      simp [keywordGap]
    exact atTerm_of_settled (not_bare_dollar nofun) ⟨hgap, nofun⟩
  · exact fun x hx => Set.mem_singleton_iff.mp hx ▸ rfl
  · intro read hread stop next hbarred
    obtain rfl := List.map_eq_nil_iff.mp hread
    exact keyword_failed hbarred

theorem numberKind_settles (n : Nat) : Settles n Shape.numberKind Pattern.numberKind :=
  ((Settles.word n .int).map _).firstOf
    (((Settles.word n .float).map _).firstOf ((Settles.word n .double).map _).only)

theorem directive_foresees (n : Nat) : Foresees n atTerm Shape.directive Pattern.directive := by
  have hjoint := atTerm_joint.past [.mark .dollar]
  have hgap : keywordGap [.mark .dollar] = ∅ :=
    (keywordGap_cons (.inr (List.cons_ne_nil _ _).symm)).trans keywordGap_nil
  have hopened : ∀ w, atTerm.past [.mark .dollar] [] (some (.word w)) ∅ := fun _ =>
    atTerm_of_settled (not_bare_dollar nofun) ⟨hgap.symm, nofun⟩
  have hkeyword := Foresees.behind hjoint (word_foresees n .keyword (hopened _))
    (keyword_foresees n) (Nat.le_succ n)
  have hshut : [.mark .dollar, .ruleName "number"] ∈ shut :=
    dollar_mem_shut (by simp) nofun (by simp)
  have hnumber := Foresees.behind hjoint (word_foresees n .number (hopened _))
    (((numberKind_settles n).map PatternLeaf.number).toForesees.imp fun read l o _ h =>
      show atTerm ([.mark .dollar, .ruleName "number"] ++ read) l o from
        atTerm_of_settled (not_bare_dollar (by simp)) (settled_append hshut h)) (Nat.le_succ n)
  exact (Foresees.behind atTerm_joint (.mark n .dollar (atTerm_nil ∅))
    (.firstOf hjoint ((word_foresees n .identifier (hopened _)).map _)
      (.firstOf hjoint (hkeyword.map _) (hnumber.map _).only)) (Nat.le_succ n)).map _

/- Patterns and rules. -/

theorem directive_le_shut : Shape.directive ≤ shut := by
  have hnumber : Shape.numberKind ≤ Over (· ≠ .mark .dollar) :=
    sup_le (word_le_over _) (sup_le (word_le_over _) (word_le_over _))
  have hkeyword : Shape.keyword ≤ Over (· ≠ .mark .dollar) :=
    sup_le (Over.mul_le (word_le_over _) run_le_over) literal_le_over
  refine dollar_mul_le_shut (sup_le (word_le_over _)
    (sup_le (Over.mul_le (word_le_over _) hkeyword) (Over.mul_le (word_le_over _) hnumber))) ?_ ?_
  · rintro (⟨t, -, h⟩ | h | h)
    · cases h
    · exact not_mem_word_mul (by simp) h
    · exact not_mem_word_mul (by simp) h
  · rintro (⟨t, rfl, h⟩ | h | h)
    · simp at h
    · obtain ⟨t, v, heq, -, hv⟩ := mem_one_mul.mp h
      obtain ⟨-, rfl⟩ := List.cons.inj heq
      rcases hv with hv | ⟨t, -, heq⟩
      · exact not_mem_word_mul (by simp) hv
      · cases heq
    · exact not_mem_word_mul (by simp) h

theorem patternAtom_le_shut : Shape.patternAtom ≤ shut :=
  sup_le (token_le_shut nofun) (sup_le directive_le_shut
    (sup_le (token_le_shut nofun) (run_le_over.trans over_le_shut)))

theorem expression_le_shut {atom : Language Token} (h : atom ≤ shut) :
    Shape.expression atom ≤ shut :=
  shut_closed.expression_le h (token_le_shut nofun) (token_le_shut nofun) (token_le_shut nofun)
    (quantifier_settles 0).le_shut fun hterm =>
      shut_closed.mul_le (shut_closed.mul_le (token_le_shut nofun) hterm)
        (quantifier_settles 0).le_shut

theorem term_le_shut {atom : Language Token} (h : atom ≤ shut) :
    Shape.term atom (Shape.expression atom) ≤ shut := by
  refine (le_alternatives _).trans ?_
  rw [← Shape.expression_eq]
  exact expression_le_shut h

theorem termForms_foresees (h : Settles n (Shape.expression Shape.patternAtom) Pattern.parser) :
    Foresees (n + 1) atTerm (Shape.term Shape.patternAtom (Shape.expression Shape.patternAtom))
      (Pattern.termForms Pattern.parser) := by
  have hname : Foresees (n + 1) atTerm Shape.tokenName Pattern.tokenName :=
    .token _ (fun t => by cases t <;> simp) ⟨"", rfl⟩ (atTerm_nil _)
  have hregex : Foresees (n + 1) atTerm Shape.regex Pattern.regex :=
    .token _ (fun t => by cases t <;> simp) ⟨"", rfl⟩ (atTerm_nil _)
  exact .firstOf atTerm_joint (group_foresees h) (.firstOf atTerm_joint (hname.map _)
    (.firstOf atTerm_joint ((directive_foresees _).map _)
      (.firstOf atTerm_joint (hregex.map _) ((literalChoice_foresees _).map _).only)))

theorem pattern_settles (n : Nat) :
    Settles n (Shape.expression Shape.patternAtom) Pattern.parser := by
  induction n with
  | zero =>
    exact ⟨⟨Pattern.parser_spells, ⟨_, regex_mem_pattern ""⟩, fun _ h => absurd h
      (Nat.not_lt_zero _)⟩, expression_le_shut patternAtom_le_shut⟩
  | succ n ih =>
    rw [Pattern.parser_eq, Shape.expression_eq]
    exact ((termForms_foresees ih).settles rfl (term_le_shut patternAtom_le_shut)).layers
      (Pattern.termForms_takes Pattern.parser_takes.plain).labelled

theorem ruleName_foresees (n : Nat) (ha : a [] none {.ruleName}) :
    Foresees n a Shape.ruleName Rule.ruleName :=
  .token n (fun t => by cases t <;> simp) ⟨"", rfl⟩ ha

/-- Where a group of a rule stands a group of a pattern adds nothing. -/
theorem ruleTerm_eq : Shape.group (Shape.expression Shape.ruleAtom) + (Shape.ruleName +
      Shape.term Shape.patternAtom (Shape.expression Shape.patternAtom)) =
    Shape.term Shape.ruleAtom (Shape.expression Shape.ruleAtom) := by
  refine le_antisymm (sup_le le_sup_left (sup_le ?_ (sup_le ?_ ?_)))
    (sup_le_sup le_rfl (sup_le_sup le_rfl le_sup_right))
  · exact le_sup_left.trans le_sup_right
  · exact (Shape.group_mono Shape.pattern_le_rule).trans le_sup_left
  · exact le_sup_right.trans le_sup_right

theorem ruleTerm_settles (h : Settles n (Shape.expression Shape.ruleAtom) Rule.parser) :
    Settles (n + 1) (Shape.term Shape.ruleAtom (Shape.expression Shape.ruleAtom))
      (Rule.term Rule.parser) := by
  have hforms := Foresees.firstOf atTerm_joint (group_foresees h)
    (.firstOf atTerm_joint
      ((ruleName_foresees _ (atTerm_nil _)).map fun name => (.leaf (.ref name) : Rule))
      ((termForms_foresees (pattern_settles n)).map
        fun pattern => (.leaf (.token pattern) : Rule)).only)
  rw [ruleTerm_eq] at hforms
  exact hforms.settles rfl (term_le_shut (sup_le (token_le_shut nofun) patternAtom_le_shut))

theorem rule_settles (n : Nat) : Settles n (Shape.expression Shape.ruleAtom) Rule.parser := by
  induction n with
  | zero =>
    exact ⟨⟨Rule.parser_spells, ⟨_, Shape.pattern_le_rule (regex_mem_pattern "")⟩, fun _ h =>
      absurd h (Nat.not_lt_zero _)⟩,
      expression_le_shut (sup_le (token_le_shut nofun) patternAtom_le_shut)⟩
  | succ n ih =>
    have hlayers := (ruleTerm_settles ih).layers (Rule.term_takes Rule.parser_takes.plain)
    rwa [← Rule.parser_eq, ← Shape.expression_eq] at hlayers

end Grammar
end GrammarText
