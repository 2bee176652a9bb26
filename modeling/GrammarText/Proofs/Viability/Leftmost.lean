/-
The value that a declaration fails over.  Tokens that are a declaration but for the checks of values
are read as one if no part of them is faulty.  Otherwise the one error is that of the leftmost
faulty part, wherever in the declaration that stands.
-/
import GrammarText.Proofs.Viability.Colon
import GrammarText.Proofs.Viability.Faults
import GrammarText.Proofs.Recovery.Segments

namespace GrammarText

open Computability GrammarText.Parser

namespace Grammar

variable {n stop : Nat} {tokens rest more : List Lexeme} {t : Lexeme} {text : String}

/- Runs of literals. -/

/-- The run of a literal is that literal with all that bars join to it. -/
theorem run_joined (text : String) (more : List Token) :
    Run (.literal text :: more) (texts (.literal text :: more.take (joined more)))
      (more.drop (joined more)) := by
  fun_induction joined more generalizing text with
  | case1 next rest ih => exact .more (ih next)
  | case2 more hmore => exact .last fun next rest h => hmore next rest h

theorem literalRun_succeeds (ht : t.node = .literal text) {value : List String}
    (h : Succeeds Pattern.literalRun stop (t :: more) value rest) :
    value = texts (nodes (t :: more.take (joined (nodes more)))) ∧
      rest = more.drop (joined (nodes more)) := by
  have hrun := literalRun_sound h
  rw [nodes_cons, ht] at hrun
  obtain ⟨rfl, hrest⟩ := hrun.reads.unique (run_joined text (nodes more)).reads
  refine ⟨by rw [nodes_cons, ht, nodes_take], ?_⟩
  -- Both are tails of the tokens, and they are as long as each other.
  have hlen := congrArg List.length hrest
  rw [← nodes_drop, nodes_length, nodes_length] at hlen
  have hsuffix := (Pattern.literalRun_composed _).suffix (Nat.lt_succ_self _) h
  exact (List.suffix_of_suffix_length_le hsuffix
    ((List.drop_suffix _ _).trans (List.suffix_cons t more)) (by omega)).eq_of_length hlen

/-- Every error of a run is ordinary, and at most a bar stands between the run and it. -/
theorem literalRun_minds :
    ∀ s ∈ (Pattern.literalRun stop (t :: more)).setback,
      Minds (firstFault (more.drop (joined (nodes more)))) s := by
  generalize hbehind : more.drop (joined (nodes more)) = behind
  have hshort : ∀ {mid : List Lexeme}, mid.drop (joined (nodes mid)) = behind →
      ∀ f ∈ firstFault behind, f.left < mid.length := by
    rintro mid rfl f hf
    refine Nat.lt_of_lt_of_le (left_lt_of_firstFault hf) ?_
    rw [List.length_drop]
    exact Nat.sub_le _ _
  refine setback_map _ (setback_both (fun _ _ ha hb => ha.furthest hb) (fun s hs => ?_)
    fun value mid hfirst => ?_)
  · obtain ⟨hleft, hfault⟩ := ReadsIn.literal.fails _ _ s hs
    refine .ordinary (fun f hf => ?_) hfault
    rw [hleft]
    exact Nat.le_succ_of_le (Nat.le_of_lt (hshort hbehind f hf))
  obtain ⟨u, hu, -⟩ := succeeds_token.mp hfirst
  obtain ⟨rfl, rfl⟩ := List.cons.inj hu
  refine setback_many (fun _ _ ha hb => ha.furthest hb)
    (fun mid => mid.drop (joined (nodes mid)) = behind) hbehind fun mid hmid => ⟨?_, ?_⟩
  · refine setback_map _ (setback_both (fun _ _ ha hb => ha.furthest hb) (fun s hs => ?_)
      fun value later hbar s hs => ?_)
    · obtain ⟨hleft, hfault⟩ := (ReadsIn.exactly _ _).fails _ _ s hs
      exact .ordinary (fun f hf => hleft ▸ Nat.le_of_lt (hshort hmid f hf)) hfault
    · obtain ⟨bar, rfl, -⟩ := succeeds_exactly.mp hbar
      obtain ⟨hleft, hfault⟩ := ReadsIn.literal.fails _ _ s hs
      exact .ordinary (fun f hf => hleft ▸ Nat.le_of_lt_succ (hshort hmid f hf)) hfault
  · intro value rest h
    obtain ⟨later, _, hbar, hliteral⟩ := succeeds_after.mp h
    obtain ⟨bar, rfl, hmark⟩ := succeeds_exactly.mp hbar
    obtain ⟨last, rfl, hlast⟩ := ReadsIn.literal.reads hliteral
    obtain ⟨next, hlast⟩ := hlast
    rwa [nodes_cons, nodes_cons, hmark, hlast, joined, List.drop_succ_cons,
      List.drop_succ_cons] at hmid

/-- Without a literal at the front there is no run. -/
theorem literalRun_absent (stop : Nat)
    (h : ∀ t more text, tokens = t :: more → t.node ≠ .literal text) :
    (∀ value rest, ¬ Succeeds Pattern.literalRun stop tokens value rest) ∧
      ∀ s ∈ (Pattern.literalRun stop tokens).setback,
        s.left = tokens.length ∧ s.error.fault = .unexpected := by
  have hnone : ∀ value mid, ¬ Succeeds Pattern.literal stop tokens value mid := by
    intro value mid hs
    obtain ⟨t, htokens, text, ht⟩ := ReadsIn.literal.reads hs
    exact h t mid text htokens ht
  constructor
  · intro value rest hs
    obtain ⟨_, hboth, -⟩ := succeeds_map.mp hs
    obtain ⟨mid, hfirst, -⟩ := succeeds_both.mp hboth
    exact hnone _ mid hfirst
  · have hfails : Fails Pattern.literal stop tokens :=
      (succeeds_or_fails _ _ _).resolve_left fun ⟨value, mid, hs⟩ => hnone value mid hs
    obtain ⟨s, hs⟩ := hfails
    have hsame : Pattern.literalRun stop tokens = .failed s := by
      simp only [Pattern.literalRun, Parser.map, Parser.both, hs]
    rw [hsame]
    have hleft := ReadsIn.literal.fails stop tokens
    rw [hs] at hleft
    exact hleft

/-- A run has no leaf if and only if it is mixed. -/
theorem ofLiterals?_eq_none {texts : List String} (hne : texts ≠ []) :
    PatternLeaf.ofLiterals? texts = none ↔ Mixed texts := by
  constructor
  · intro hnone
    by_contra hmixed
    rcases not_and_or.mp hmixed with h | h
    · have hplain := (ofLiterals?_eq_some hne).mpr
        (.inr ⟨fun text ht => Bool.eq_false_iff.mpr fun hword => h ⟨text, ht, hword⟩, rfl⟩)
      rw [hnone] at hplain
      cases hplain
    · have hkeywords := (ofLiterals?_eq_some hne).mpr
        (.inl ⟨fun text ht => Bool.not_eq_false _ ▸ fun hplain => h ⟨text, ht, hplain⟩, rfl⟩)
      rw [hnone] at hkeywords
      cases hkeywords
  · rintro ⟨⟨a, ha, hword⟩, b, hb, hplain⟩
    cases hof : PatternLeaf.ofLiterals? texts with
    | none => rfl
    | some leaf =>
      rcases (ofLiterals?_eq_some hne).mp hof with ⟨h, -⟩ | ⟨h, -⟩
      · rw [h b hb] at hplain
        cases hplain
      · rw [h a ha] at hword
        cases hword

/-- The literals that are read unchecked belong to their directive. -/
theorem keywordRun_heeds (n : Nat) :
    Heeds [.mark .dollar, .ruleName "keyword", .ruleName "choice"] n Pattern.literalRun := by
  intro stop context tokens hcontext hlen
  by_cases hfirst : ∃ t more text, tokens = t :: more ∧ t.node = .literal text
  · obtain ⟨t, more, text, rfl, ht⟩ := hfirst
    have hread : nodes (context ++ [t]) =
        [.mark .dollar, .ruleName "keyword", .ruleName "choice", .literal text] := by
      rw [nodes_append, hcontext, nodes_cons, ht]
      rfl
    rw [List.append_cons, firstFault_keywordChoice hread more]
    refine ⟨fun value rest h => ?_, literalRun_minds⟩
    obtain ⟨-, rfl⟩ := literalRun_succeeds ht h
    exact ⟨(List.drop_suffix _ _).length_le.trans (Nat.le_succ _), rfl⟩
  · obtain ⟨hnone, hfails⟩ := literalRun_absent stop
      fun t more text htokens ht => hfirst ⟨t, more, text, htokens, ht⟩
    refine ⟨fun value rest h => absurd h (hnone value rest), fun s hs => ?_⟩
    obtain ⟨hleft, hfault⟩ := hfails s hs
    refine .ordinary (fun f hf => hleft ▸ Opening.left_le ?_ hf) hfault
    exact .inr ⟨_, hcontext, by simp [Lone]⟩

theorem texts_ne_nil (ht : t.node = .literal text) (more : List Lexeme) :
    texts (nodes (t :: more)) ≠ [] := by
  rw [nodes_cons, ht]
  exact List.cons_ne_nil _ _

theorem mixed_fails (ht : t.node = .literal text)
    (hmixed : Mixed (texts (nodes (t :: more.take (joined (nodes more)))))) (stop : Nat) :
    Pattern.literalChoice stop (t :: more) = .failed ⟨(more.drop (joined (nodes more))).length,
      .mixedLiterals (range (t :: more.take (joined (nodes more))))⟩ := by
  have hnodes : nodes (t :: more) = .literal text :: nodes more := by
    rw [nodes_cons, ht]
  obtain ⟨remaining, -, hrun⟩ := (run_joined text (nodes more)).reads stop hnodes
  obtain ⟨hvalue, rfl⟩ := literalRun_succeeds ht hrun
  rw [hvalue] at hrun
  obtain ⟨s, hdone⟩ := hrun
  have hnone := (ofLiterals?_eq_none (texts_ne_nil ht _)).mpr hmixed
  have hspan := spanBetween_append (List.cons_ne_nil t (more.take (joined (nodes more)))) stop
    (more.drop (joined (nodes more)))
  rw [List.cons_append, List.take_append_drop] at hspan
  unfold Pattern.literalChoice checked
  simp only [hdone, hnone, hspan]

/-- A run of literals is a part, and whether it is mixed is checked. -/
theorem literalChoice_heeds (n : Nat) : Heeds [] n Pattern.literalChoice := by
  intro stop context tokens hcontext hlen
  obtain rfl := List.map_eq_nil_iff.mp hcontext
  rw [List.nil_append]
  by_cases hfirst : ∃ t more text, tokens = t :: more ∧ t.node = .literal text
  · obtain ⟨t, more, text, rfl, ht⟩ := hfirst
    have hextent : extent (t.node :: nodes more) = joined (nodes more) := by
      rw [ht]
      rfl
    have hpart : nodes (t :: more.take (joined (nodes more))) =
        .literal text :: nodes (more.take (joined (nodes more))) := by
      rw [nodes_cons, ht]
    rcases fault?_literal hpart with ⟨hmixed, hfault⟩ | ⟨hsound, hfault⟩
    · have hfails := mixed_fails ht hmixed stop
      rw [← hextent] at hfault
      rw [firstFault_of_fault hfault, hextent]
      constructor
      · intro value rest h
        obtain ⟨s, hs⟩ := h
        rw [hfails] at hs
        cases hs
      · intro s hs
        rw [hfails] at hs
        obtain rfl := Option.some.inj hs
        exact ⟨fun f hf => by cases hf; exact Nat.le_refl _, fun _ => rfl⟩
    · rw [← hextent] at hfault
      rw [firstFault_of_sound hfault, hextent]
      constructor
      · intro value rest h
        obtain ⟨_, hrun, -⟩ := succeeds_checked.mp h
        obtain ⟨-, rfl⟩ := literalRun_succeeds ht hrun
        exact ⟨(List.drop_suffix _ _).length_le.trans (Nat.le_succ _), rfl⟩
      · refine setback_checked (fun value rest span e hrun he => ?_) literalRun_minds
        obtain ⟨rfl, -⟩ := literalRun_succeeds ht hrun
        obtain ⟨leaf, hleaf⟩ := Option.ne_none_iff_exists'.mp
          fun hnone => hsound ((ofLiterals?_eq_none (texts_ne_nil ht _)).mp hnone)
        rw [hleaf] at he
        cases he
  · obtain ⟨hnone, hfails⟩ := literalRun_absent stop
      fun t more text htokens ht => hfirst ⟨t, more, text, htokens, ht⟩
    constructor
    · intro value rest h
      obtain ⟨texts, h, -⟩ := succeeds_checked.mp h
      exact absurd h (hnone texts rest)
    · refine setback_checked (fun value rest _ _ h => absurd h (hnone value rest)) fun s hs => ?_
      obtain ⟨hleft, hfault⟩ := hfails s hs
      exact .ordinary (fun f hf => hleft ▸ Nat.le_of_lt (left_lt_of_firstFault hf)) hfault

/- Directives. -/

theorem opening_dollar : Opening [.mark .dollar] :=
  .inr ⟨[], rfl, fun _ h => absurd h List.not_mem_nil⟩

theorem keyword_heeds (n : Nat) :
    Heeds [.mark .dollar, .ruleName "keyword"] n Pattern.keyword := by
  have hopen : Opening [.mark .dollar, .ruleName "keyword"] := .inr ⟨_, rfl, by simp [Lone]⟩
  have hchoice : Heeds [.mark .dollar, .ruleName "keyword"] n
      (after (Pattern.word .choice) Pattern.literalRun) :=
    (Heeds.opening (.word .choice) hopen (keywordRun_heeds n)).map.mono (Nat.le_succ n)
  have hliteral : Heeds [.mark .dollar, .ruleName "keyword"] n Pattern.literal := by
    refine .closing .literal hopen (fun context t rest hcontext ht => ?_) n
    obtain ⟨text, ht⟩ := ht
    rw [List.append_cons]
    have hread : nodes (context ++ [t]) = [.mark .dollar, .ruleName "keyword", .literal text] := by
      rw [nodes_append, hcontext, nodes_cons, ht]
      rfl
    exact firstFault_keyword hread rest
  exact .firstOf hchoice.map hliteral.map.only

/-- Any other word behind the dollar sign is a part by itself. -/
theorem directiveWord_heeds {w : Word} (hw : w.text ≠ "keyword") (n : Nat) :
    Heeds [.mark .dollar] n (Pattern.word w) := by
  refine .closing (.word w) opening_dollar (fun context t rest hcontext ht => ?_) n
  obtain ⟨d, more, rfl, hd, hmore⟩ := nodes_eq_cons.mp hcontext
  obtain rfl := List.map_eq_nil_iff.mp hmore
  exact firstFault_directive hd ht hw rest

theorem numberKind_heeds (n : Nat) : Heeds [] n Pattern.numberKind :=
  .firstOf (Heeds.word _ n).map (.firstOf (Heeds.word _ n).map (Heeds.word _ n).map.only)

theorem directive_heeds (n : Nat) : Heeds [] n Pattern.directive := by
  have hkeyword : Heeds [.mark .dollar] n (after (Pattern.word .keyword) Pattern.keyword) :=
    (Heeds.opening (.word .keyword) opening_dollar (keyword_heeds n)).map.mono (Nat.le_succ n)
  refine (Heeds.opening (.exactly _ _) (.inl rfl) (.firstOf ?_ (.firstOf hkeyword ?_))).map.mono
    (Nat.le_succ n)
  · exact (directiveWord_heeds (by decide) n).map
  · exact ((directiveWord_heeds (by decide) n).after (numberKind_heeds n).map).only

/- Expressions. -/

theorem layers_heeds {Leaf : Type} {term : Parser (Expr Leaf)} (h : Heeds [] n term) :
    Heeds [] n (Expr.layers term) := by
  have mark : ∀ {m : Mark}, Lone (.mark m) → Heeds [] n (Parser.mark m) := fun hm => .mark hm n
  have hseparated : Heeds [] n (Expr.separatedParser term) :=
    (h.both (((mark (by simp [Lone])).after h).both (quantifier_heeds n)).many).map
  have helement : Heeds [] n (Expr.quantifiedParser term) :=
    (hseparated.both (quantifier_heeds n).optional).map
  have hsequence : Heeds [] n (Expr.sequenceParser term) := helement.many1.map
  exact (hsequence.both ((mark (by simp [Lone])).after hsequence).many).map

theorem group_heeds {Leaf : Type} {inner : Parser (Expr Leaf)} (h : Heeds [] n inner) :
    Heeds [] (n + 1) (Expr.group inner) :=
  (Heeds.behind (.exactly _ _) (by simp [Lone]) (h.before (.mark (by simp [Lone]) n))).map

theorem tokenName_heeds (n : Nat) : Heeds [] n Pattern.tokenName :=
  .read (fun t value h => by cases t <;> simp_all [Lone]) n

theorem termForms_heeds {inner : Parser Pattern} (h : Heeds [] n inner) :
    Heeds [] (n + 1) (Pattern.termForms inner) := by
  have hregex : Heeds [] (n + 1) Pattern.regex :=
    .read (fun t value h => by cases t <;> simp_all [Lone]) _
  exact .firstOf (group_heeds h) (.firstOf (tokenName_heeds _).map (.firstOf (directive_heeds _).map
    (.firstOf hregex.map (literalChoice_heeds _).map.only)))

theorem pattern_heeds (n : Nat) : Heeds [] n Pattern.parser := by
  induction n with
  | zero => exact fun _ _ _ _ hlen => absurd hlen (Nat.not_lt_zero _)
  | succ n ih =>
    rw [Pattern.parser_eq]
    exact layers_heeds (termForms_heeds ih).labelled

theorem ruleName_heeds (n : Nat) : Heeds [] n Rule.ruleName :=
  .read (fun t value h => by cases t <;> simp_all [Lone]) n

theorem rule_heeds (n : Nat) : Heeds [] n Rule.parser := by
  induction n with
  | zero => exact fun _ _ _ _ hlen => absurd hlen (Nat.not_lt_zero _)
  | succ n ih =>
    rw [Rule.parser_eq]
    exact layers_heeds (Heeds.firstOf (group_heeds ih) (.firstOf (ruleName_heeds _).map
      (termForms_heeds (pattern_heeds n)).map.only)).labelled

/- Declarations. -/

theorem twoWords_heeds {α : Type} (n : Nat) (a b : Word) (v w : α) :
    Heeds [] n (firstOf (map (fun _ => v) (Pattern.word a)) [map (fun _ => w) (Pattern.word b)]) :=
  .firstOf (Heeds.word a n).map (Heeds.word b n).map.only

theorem header_heeds (n : Nat) : Heeds [] n Declaration.header := by
  have hskip : Heeds [] n Declaration.skipStrategy :=
    ((twoWords_heeds n _ _ _ _).both (twoWords_heeds n _ _ _ _).optional).optional.map
  refine .firstOf ((Heeds.opening (.exactly _ _) (.inl rfl) (.firstOf ?_ ?_)).map.mono
    (Nat.le_succ n)) (ruleName_heeds n).map.only
  · exact (directiveWord_heeds (by decide) n).after (ruleName_heeds n).optional.map
  · exact ((directiveWord_heeds (by decide) n).after hskip.map).only

theorem declaration_heeds (n : Nat) :
    Heeds [] n (firstOf Declaration.tokenParser [Declaration.ruleParser]) := by
  have hcolon : Heeds [] n (mark .colon) := .mark (by simp [Lone]) n
  have hsemicolon : Heeds [] n (mark .semicolon) := .mark (by simp [Lone]) n
  have htoken : Heeds [] n Declaration.tokenParser :=
    ((((tokenName_heeds n).before hcolon).both (pattern_heeds n)).before hsemicolon).map
  have hrule : Heeds [] n Declaration.ruleParser :=
    ((((header_heeds n).before hcolon).both (rule_heeds n)).before hsemicolon).map
  exact .firstOf htoken hrule.only

/-- A word of the language of declarations has a semicolon at its end and no other. -/
theorem closed_of_mem_declaration (h : nodes tokens ∈ Shape.declaration) :
    Declaration.Closed tokens := by
  have hcolon : Shape.mark .colon ≤ Over (· ≠ .mark .semicolon) :=
    Over.token_le fun t ht => ht ▸ nofun
  have hname : Shape.tokenName ≤ Over (· ≠ .mark .semicolon) :=
    Over.token_le fun t ⟨name, ht⟩ => ht ▸ nofun
  have hrule : Shape.expression Shape.ruleAtom ≤ Over (· ≠ .mark .semicolon) :=
    Over.expression_le (Over.ruleAtom_le nofun nofun) nofun fun m _ hm h => hm (Token.mark.inj h)
  have hbefore : Shape.declaration ≤ Over (· ≠ .mark .semicolon) * Shape.mark .semicolon :=
    sup_le (mul_le_mul' (Over.mul_le (Over.mul_le hname hcolon)
        (Shape.pattern_le_rule.trans hrule)) le_rfl)
      (mul_le_mul' (Over.mul_le (Over.mul_le (Over.header_le (fun _ => nofun) nofun) hcolon)
        hrule) le_rfl)
  obtain ⟨inside, hinside, _, ⟨_, rfl, rfl⟩, hword⟩ := hbefore h
  obtain ⟨before, last, rfl, rfl, hlast⟩ := List.map_eq_append_iff.mp hword.symm
  obtain ⟨semicolon, more, rfl, hsemicolon, hmore⟩ := nodes_eq_cons.mp hlast
  obtain rfl := List.map_eq_nil_iff.mp hmore
  exact ⟨before, semicolon, rfl, fun t ht => hinside _ (List.mem_map_of_mem ht), hsemicolon⟩

/-- What becomes of tokens that are a declaration but for the checks of values. -/
theorem run_of_mem_declaration (h : nodes tokens ∈ Shape.declaration) (stop : Nat) :
    (firstFault tokens = none ∧ ∃ d, Declares (nodes tokens) d []) ∨
      ∃ s, firstFault tokens = some s ∧ run Declaration.parser stop tokens = .error s.error := by
  cases hrun : run Declaration.parser stop tokens with
  | ok d =>
    obtain ⟨rest, hd⟩ := run_eq_ok.mp hrun
    -- Both the tokens and what is read of them end at the first semicolon.
    obtain ⟨read, hread, hclosed⟩ := Declaration.parser_takes hd
    obtain ⟨rfl, rfl⟩ := Recovery.closed_append_inj (closed_of_mem_declaration h) hclosed
      ((List.append_nil tokens).trans hread)
    have hd := (succeeds_spanned.mp hd).1
    have hfault := ((declaration_heeds _ stop [] tokens rfl (Nat.lt_succ_self _)).1 _ _ hd).2
    rw [firstFault_nil, List.nil_append] at hfault
    exact .inl ⟨hfault.symm, d.node, declaration_sound hd⟩
  | error e =>
    obtain ⟨s, hs, rfl⟩ := failed_of_run hrun
    have hminds := (declaration_heeds _ stop [] tokens rfl (Nat.lt_succ_self _)).2 s
      (by rw [hs]; rfl)
    exact .inr ⟨s, hminds.specific (fault_of_mem_declaration h hrun), rfl⟩

/-- A declaration all of whose faults are bounds out of order and mixed literals fails over the
leftmost of them, whatever stands behind it. -/
theorem declaration_fails_over_leftmost_value (hloose : nodes tokens ∈ Shape.declaration)
    (hfull : ∀ d, ¬ Declares (nodes tokens) d []) :
    ∃ before value behind e, parts tokens = before ++ value :: behind ∧
      (∀ part ∈ before, fault? part = none) ∧
      ((∃ min max, Inverted value min max ∧ e = .invertedBounds (range value) min max ∧
          (Diagnostic.ofParseError e).kind = .range) ∨
        (Run (nodes (value ++ behind.flatten)) (texts (nodes value)) (nodes behind.flatten) ∧
          Mixed (texts (nodes value)) ∧ e = .mixedLiterals (range value) ∧
          (Diagnostic.ofParseError e).kind = .syntactic)) ∧
      ∀ stop later, run Declaration.parser stop (tokens ++ later) = .error e ∧
        run (Parser.before Declaration.parser endOfInput) stop (tokens ++ later) = .error e := by
  rcases run_of_mem_declaration hloose 0 with ⟨-, d, hd⟩ | ⟨s, hfault, hrun⟩
  · exact absurd hd (hfull d)
  obtain ⟨before, value, behind, hparts, hbefore, hvalue⟩ := leftmost?_eq_some hfault
  refine ⟨before, value, behind, s.error, hparts, hbefore, ?_, fun stop later => ?_⟩
  · rcases fault?_eq_some hvalue with ⟨min, max, hinverted, he⟩ | ⟨text, more, hvalue, hmixed, he⟩
    · exact .inl ⟨min, max, hinverted, he, by rw [he]; rfl⟩
    · refine .inr ⟨?_, hmixed, he, by rw [he]; rfl⟩
      obtain ⟨t, rest, rfl, hbehind⟩ := parts_cut hparts
      rw [nodes_cons] at hvalue
      obtain ⟨ht, -⟩ := List.cons.inj hvalue
      rw [hbehind, List.cons_append, List.take_append_drop, nodes_cons, nodes_cons, nodes_take,
        nodes_drop, ht]
      exact run_joined text (nodes rest)
  · have hlater : run Declaration.parser stop (tokens ++ later) = .error s.error := by
      rw [Recovery.run_closed (closed_of_mem_declaration hloose) stop 0 later, hrun]
    exact ⟨hlater, run_before_of_error hlater⟩

/-- The tokens of a rule with a run of literals in parentheses, of which one alone is a keyword. -/
def mixedGroup : List Lexeme :=
  [⟨.ruleName "r", ⟨0, 1⟩⟩, ⟨.mark .colon, ⟨1, 2⟩⟩, ⟨.mark .openParen, ⟨3, 4⟩⟩,
    ⟨.literal "a", ⟨4, 7⟩⟩, ⟨.mark .bar, ⟨8, 9⟩⟩, ⟨.literal ";", ⟨10, 13⟩⟩,
    ⟨.mark .closeParen, ⟨13, 14⟩⟩, ⟨.mark .semicolon, ⟨14, 15⟩⟩]

theorem term_le_expression (atom : Language Token) :
    Shape.term atom (Shape.expression atom) ≤ Shape.expression atom := by
  conv_rhs => rw [Shape.expression_eq]
  have hone : ∀ {A B : Language Token}, 1 ≤ B → A ≤ A * B := fun h => le_mul_of_one_le_right' h
  exact (hone one_le_kstar).trans ((hone le_sup_left).trans ((hone one_le_kstar).trans
    (hone one_le_kstar)))

theorem mixedGroup_mem_declaration : nodes mixedGroup ∈ Shape.declaration := by
  have hmark : ∀ m, [.mark m] ∈ Shape.mark m := fun m => ⟨_, rfl, rfl⟩
  have hliteral : ∀ text, [.literal text] ∈ Shape.literal := fun text => ⟨_, ⟨text, rfl⟩, rfl⟩
  have hjoined : [.mark .bar, .literal ";"] ∈ (Shape.mark .bar * Shape.literal)∗ :=
    (le_kstar : _ ≤ (Shape.mark .bar * Shape.literal)∗)
      (Language.append_mem_mul (hmark .bar) (hliteral ";"))
  have hrun : [.literal "a", .mark .bar, .literal ";"] ∈ Shape.run :=
    Language.append_mem_mul (hliteral "a") hjoined
  have hinner : [.literal "a", .mark .bar, .literal ";"] ∈ Shape.expression Shape.ruleAtom :=
    term_le_expression _ (.inr (.inr (.inr (.inr (.inr hrun)))))
  have hgroup : [.mark .openParen, .literal "a", .mark .bar, .literal ";", .mark .closeParen] ∈
      Shape.expression Shape.ruleAtom :=
    term_le_expression _ (.inl (Language.append_mem_mul (hmark .openParen)
      (Language.append_mem_mul hinner (hmark .closeParen))))
  have hhead : [.ruleName "r"] ∈ Shape.header := .inr ⟨_, ⟨"r", rfl⟩, rfl⟩
  exact .inr (Language.append_mem_mul (Language.append_mem_mul
    (Language.append_mem_mul hhead (hmark .colon)) hgroup) (hmark .semicolon))

theorem mixedGroup_run :
    run Declaration.parser 15 mixedGroup = .error (.mixedLiterals ⟨4, 13⟩) := by
  decide +kernel

theorem not_declares_mixedGroup (d : Declaration) : ¬ Declares (nodes mixedGroup) d [] := by
  intro h
  have hrun := mixedGroup_run
  rw [run_eq_ok.mpr ⟨_, h.succeeds 15⟩] at hrun
  cases hrun

theorem declaration_fails_over_mixed_group : nodes mixedGroup ∈ Shape.declaration ∧
    (∀ d, ¬ Declares (nodes mixedGroup) d []) ∧ ∀ stop later,
      run Declaration.parser stop (mixedGroup ++ later) = .error (.mixedLiterals ⟨4, 13⟩) := by
  obtain ⟨_, _, _, e, -, -, -, hfails⟩ :=
    declaration_fails_over_leftmost_value mixedGroup_mem_declaration not_declares_mixedGroup
  refine ⟨mixedGroup_mem_declaration, not_declares_mixedGroup, fun stop later => ?_⟩
  have hsame := (hfails 15 []).1
  rw [List.append_nil, mixedGroup_run] at hsame
  cases hsame
  exact (hfails stop later).1

end Grammar
end GrammarText
