/-
What the errors of the grammar list.  The parsers of the notation are gone through one by one.  All
that they list may come next, but for the names that are given to errors inside of a quantifier or
behind the literals of a separator.
-/
import GrammarText.Proofs.Viability.Misnamed

namespace GrammarText

open Computability GrammarText.Parser

namespace Grammar

variable {A B D E K N T : Language Token} {x : Expectation} {read : List Token}

theorem word_informs (w : Word) : Informs (Shape.word w.text) 0 (Pattern.word w) := by
  have hexactly : Informs (Shape.word w.text) 1 (exactly (.word w) (.ruleName w.text)) :=
    .exactly rfl
  refine hexactly.labelled fun _ hread => ?_
  obtain rfl := hread
  exact .inr ⟨_, rfl, [], _, rfl, rfl⟩

theorem tokenName_informs : Informs Shape.tokenName 1 Pattern.tokenName :=
  .token Pattern.tokenName_spells ⟨"", rfl⟩ ⟨"", rfl⟩

theorem ruleName_informs : Informs Shape.ruleName 1 Rule.ruleName :=
  .token Rule.ruleName_spells ⟨"", rfl⟩ ⟨"", rfl⟩

theorem literal_informs : Informs Shape.literal 1 Pattern.literal :=
  .token Pattern.literal_spells ⟨"", rfl⟩ ⟨"", rfl⟩

theorem regex_informs : Informs Shape.regex 1 Pattern.regex :=
  .token Pattern.regex_spells ⟨"", rfl⟩ ⟨"", rfl⟩

theorem integer_informs : Informs Shape.integer 1 Quantifier.integer :=
  .token Quantifier.integer_spells ⟨0, rfl⟩ ⟨0, rfl⟩

/- Quantifiers. -/

/-- Without a closing brace the bounds are still open. -/
theorem bounds_informs : Informs Shape.bounds
    (1 + Shape.mark .openBrace * Over (· ≠ .mark .closeBrace)) Quantifier.bounds := by
  have integer : Shape.integer ≤ Over (· ≠ .mark .closeBrace) :=
    Over.token_le fun t ⟨value, ht⟩ => ht ▸ nofun
  have range : Shape.mark .range ≤ Over (· ≠ .mark .closeBrace) :=
    Over.token_le fun t ht => ht ▸ nofun
  have hupper := (Informs.mark .range).after integer_informs.optional
  refine ((Informs.mark .openBrace).after
    ((integer_informs.both hupper.optional).before (.mark .closeBrace))).weaken ?_
  refine sup_le_sup_left (mul_le_mul' le_rfl ?_) _
  exact Over.add_le (Over.add_le Over.one_le
      (Over.mul_le integer (Over.add_le Over.one_le (Over.mul_le range Over.one_le))))
    (Over.mul_le (Over.limits_le (fun _ => nofun) nofun) Over.one_le)

theorem quantifier_informs : Informs Shape.quantifier 0 Quantifier.parser := by
  refine ((Informs.mark .question).map.firstOf ((Informs.mark .star).map.firstOf
    ((Informs.mark .plus).map.firstOf
      (bounds_informs.checked Quantifier.ofWritten_checksValue).only))).labelled
    fun read hread => ?_
  have hstart : Listed Shape.quantifier .quantifier [] := by
    have hquestion : [.mark .question] ∈ Shape.quantifier := .inl ⟨_, rfl, rfl⟩
    exact .inr ⟨.mark .question, ⟨[], hquestion⟩, [], hquestion⟩
  rcases hread with rfl | rfl | rfl | rfl | hopen
  · exact hstart
  · exact hstart
  · exact hstart
  · exact hstart
  · obtain ⟨_, inside, rfl, rfl, hinside⟩ := mem_one_mul.mp hopen
    exact .inl ⟨[], inside, rfl, fun hclose => hinside _ hclose rfl⟩

/- The terms that are no groups. -/

theorem run_informs : Informs Shape.run (1 + Shape.run * (1 + Shape.mark .bar))
    Pattern.literalRun := by
  refine (literal_informs.both ((Informs.mark .bar).after literal_informs).many).map.weaken
    (le_of_eq ?_)
  unfold Shape.run
  rw [mul_one, mul_assoc]

/-- Behind a run another literal may follow if a bar has been read. -/
theorem run_goes_on (h : read ∈ 1 + Shape.run * (1 + Shape.mark .bar)) :
    read ∈ Shape.run ∨ Begun Shape.run (read ++ [.literal ""]) := by
  have hliteral : [.literal ""] ∈ Shape.literal := ⟨_, ⟨"", rfl⟩, rfl⟩
  rcases h with rfl | h
  · exact .inr ⟨[], Language.append_mem_mul hliteral (Language.nil_mem_kstar _)⟩
  obtain ⟨run, hrun, last, hlast, rfl⟩ := Language.mem_mul.mp h
  rcases hlast with rfl | hbar
  · exact .inl (by rwa [List.append_nil])
  · obtain ⟨first, hfirst, more, hmore, rfl⟩ := Language.mem_mul.mp hrun
    have hlonger : more ++ (last ++ [.literal ""]) ∈ (Shape.mark .bar * Shape.literal)∗ :=
      (kstar_mul_le_kstar : (Shape.mark .bar * Shape.literal)∗ * _ ≤ _)
        (Language.append_mem_mul hmore (Language.append_mem_mul hbar hliteral))
    refine .inr ⟨[], ?_⟩
    rw [List.append_nil, List.append_assoc, List.append_assoc]
    exact Language.append_mem_mul hfirst hlonger

theorem keyword_informs : Informs Shape.keyword
    (1 + Shape.word "choice" * (1 + Shape.run * (1 + Shape.mark .bar))) Pattern.keyword := by
  refine (((word_informs .choice).after run_informs).map.firstOf
    literal_informs.map.only).weaken (le_of_eq ?_)
  rw [zero_add, add_comm]
  rfl

theorem numberKind_informs : Informs Shape.numberKind 0 Pattern.numberKind := by
  refine ((word_informs .int).map.firstOf ((word_informs .float).map.firstOf
    (word_informs .double).map.only)).weaken (le_of_eq ?_)
  rw [zero_add, zero_add]

theorem directive_informs : Informs Shape.directive
    (1 + Shape.mark .dollar * (Shape.word "keyword" *
      (1 + Shape.word "choice" * (1 + Shape.run * (1 + Shape.mark .bar))))) Pattern.directive := by
  refine ((Informs.mark .dollar).after
    ((word_informs .identifier).map.firstOf
      (((word_informs .keyword).after keyword_informs).firstOf
        ((word_informs .number).after numberKind_informs.map).only))).weaken (le_of_eq ?_)
  rw [mul_zero, zero_add, zero_add, zero_add, add_zero]
  rfl

/- Terms and the layers between them and whole expressions. -/

/-- What is asked of a parser of terms.  Its errors have the name of an expression.  Behind a run of
literals the name is right only if another term may follow. -/
structure Named {Leaf : Type} (name : Expectation) (T : Language Token)
    (term : Parser (Expr Leaf)) : Prop where
  spells : Takes (Spells T) term
  lists : Lists (fun x read => Listed T x read ∨ x = name ∧ read ∈ Shape.literals) 0 term
  regex : [.regex ""] ∈ T
  literals : Shape.literals ≤ T
  describes : Describes name (.regex "")
  misnamed : ∀ separator ∈ Shape.literals, Misnamed name (.mark .percent :: separator)

theorem le_element (T : Language Token) : T ≤ Shape.element T := by
  calc T = T * 1 * 1 := by rw [mul_one, mul_one]
    _ ≤ Shape.element T := mul_le_mul' (mul_le_mul' le_rfl one_le_kstar) le_sup_left

theorem sequence_mul_le (T : Language Token) :
    Shape.sequence T * Shape.element T ≤ Shape.sequence T := by
  unfold Shape.sequence
  rw [mul_assoc]
  exact mul_le_mul' le_rfl kstar_mul_le_kstar

/-- Behind alternatives another element may follow. -/
theorem alternatives_mul_le (T : Language Token) :
    Shape.alternatives T * Shape.element T ≤ Shape.alternatives T := by
  let more : Language Token := Shape.mark .bar * Shape.sequence T
  have hmore : 1 + more∗ * more = more∗ := Language.one_add_kstar_mul_self_eq_kstar more
  calc Shape.sequence T * more∗ * Shape.element T
      = Shape.sequence T * (1 + more∗ * more) * Shape.element T := by rw [hmore]
    _ = Shape.sequence T * Shape.element T + Shape.sequence T *
          (more∗ * (Shape.mark .bar * (Shape.sequence T * Shape.element T))) := by
        simp only [more, mul_add, add_mul, mul_one, mul_assoc]
    _ ≤ Shape.sequence T + Shape.sequence T * (more∗ * (Shape.mark .bar * Shape.sequence T)) :=
        sup_le_sup (sequence_mul_le T) (mul_le_mul' le_rfl (mul_le_mul' le_rfl
          (mul_le_mul' le_rfl (sequence_mul_le T))))
    _ = Shape.sequence T * (1 + more∗ * more) := by rw [mul_add, mul_one]
    _ = Shape.sequence T * more∗ := by rw [hmore]

/-- What a repetition goes on with it goes on with in its first round or in a later one. -/
theorem Listed.of_kstar (h : Listed A∗ x read) : Listed (A * A∗) x read := by
  refine h.imp_right fun h => ?_
  obtain ⟨t, ht, later, hw⟩ := h
  refine ⟨t, ht, later, ?_⟩
  rw [← Language.one_add_self_mul_kstar_eq_kstar] at hw
  refine hw.resolve_left fun hnil => ?_
  have hempty : read ++ [t] ++ later = [] := hnil
  simp at hempty

section

variable {Leaf : Type} {name : Expectation} {term : Parser (Expr Leaf)}
  (h : Named name T term)

include h

/-- Behind the percent sign of a separator no term but that of the separator may follow. -/
theorem Named.separator : Informs (Shape.mark .percent * T * Shape.quantifier) 1
    (separator term) := by
  have hbehind : ∀ x a read, a ∈ Shape.mark .percent →
      (Listed T x read ∨ x = name ∧ read ∈ Shape.literals) →
        Listed (Shape.mark .percent * T) x (a ++ read) := by
    rintro x _ read ⟨_, rfl, rfl⟩ (hx | ⟨rfl, hread⟩)
    · exact hx.behind ⟨_, rfl, rfl⟩
    · exact .inl (h.misnamed read hread)
  have hterm : Lists (Listed (Shape.mark .percent * T)) 1 (after (Parser.mark .percent) term) := by
    have hboth := (Informs.mark .percent).lists.both h.lists (spells_mark _)
      (fun _ _ hx => hx.mul ⟨_, h.regex⟩) hbehind
    rw [mul_zero, add_zero] at hboth
    exact hboth.map
  have hinforms : Informs (Shape.mark .percent * T) 1 (after (Parser.mark .percent) term) :=
    ⟨spells_after (spells_mark _) h.spells,
      ⟨_, Language.append_mem_mul ⟨_, rfl, rfl⟩ h.regex⟩, hterm⟩
  refine (hinforms.both quantifier_informs).weaken (le_of_eq ?_)
  rw [mul_zero, add_zero]

theorem Named.separated_spells :
    Takes (Spells (Shape.separated T)) (Expr.separatedParser term) :=
  (spells_both h.spells (spells_many h.separator.spells)).map

theorem Named.element_spells :
    Takes (Spells (Shape.element T)) (Expr.quantifiedParser term) :=
  (spells_both h.separated_spells (spells_optional Quantifier.parser_spells)).map

theorem Named.separated : Lists (fun x read => Listed (Shape.separated T) x read ∨
      x = name ∧ read ∈ Shape.literals) (Shape.separated T) (Expr.separatedParser term) := by
  have hall : Lists (fun x read => Listed (Shape.separated T) x read ∨
      x = name ∧ read ∈ Shape.literals) _ (Expr.separatedParser term) :=
    Lists.map (h.lists.both h.separator.many.lists h.spells
      (fun x read hx => hx.imp_left fun hx => hx.mul ⟨[], Language.nil_mem_kstar _⟩)
      fun x a read ha hx => .inl (hx.behind ha))
  refine hall.imp (fun _ _ => id) (le_of_eq ?_)
  rw [zero_add, mul_one]
  rfl

/-- An element may be followed by another, which is what the name at its end asks for. -/
theorem Named.element : Lists (Listed (Shape.element T)∗) (Shape.element T)
    (Expr.quantifiedParser term) := by
  have hfirst : ∀ x read, Listed (Shape.separated T) x read ∨ x = name ∧ read ∈ Shape.literals →
      Listed (Shape.element T)∗ x read := by
    rintro x read (hx | ⟨rfl, hread⟩)
    · exact (hx.mul ⟨[], .inl rfl⟩).mono le_kstar
    · refine .inr ⟨_, h.describes, [], ?_⟩
      have htwo := Language.append_mem_mul (le_element T (h.literals hread))
        (le_element T h.regex)
      rw [List.append_nil]
      exact (le_trans (mul_le_mul' le_rfl le_kstar) mul_kstar_le_kstar :
        Shape.element T * Shape.element T ≤ (Shape.element T)∗) htwo
  have hall : Lists (Listed (Shape.element T)∗) _ (Expr.quantifiedParser term) :=
    Lists.map (h.separated.both quantifier_informs.optional.lists h.separated_spells hfirst
      fun x a read ha hx => (hx.behind ha).mono le_kstar)
  refine hall.imp (fun _ _ => id) ?_
  rw [mul_zero, add_zero]
  exact le_mul_of_one_le_right' le_sup_left

theorem Named.sequence : Informs (Shape.sequence T) (Shape.sequence T)
    (Expr.sequenceParser term) := by
  have hmany : Lists (Listed (Shape.element T)∗) _ (many (Expr.quantifiedParser term)) :=
    h.element.many h.element_spells
      fun x a read ha hx => (hx.behind ha).mono (le_of_eq (kstar_mul_kstar _))
  have hall : Lists (Listed (Shape.sequence T)) _ (Expr.sequenceParser term) :=
    Lists.map (Lists.map (h.element.both hmany h.element_spells
      (fun x read hx => hx.of_kstar) fun x a read ha hx => hx.behind ha))
  refine ⟨(spells_both h.element_spells (spells_many h.element_spells)).map.map,
    ⟨_, Language.append_mem_mul (le_element T h.regex) (Language.nil_mem_kstar _)⟩,
    hall.imp (fun _ _ => id) ?_⟩
  exact sup_le (le_mul_of_one_le_right' one_le_kstar) (mul_le_mul' le_rfl kstar_mul_le_kstar)

/-- Errors without a name arise only where an expression may end. -/
theorem Named.layers : Informs (Shape.alternatives T) (Shape.alternatives T)
    (Expr.layers term) := by
  have hmore := ((Informs.mark .bar).after h.sequence).many
  refine ((h.sequence.both hmore).map).weaken ?_
  refine sup_le (le_mul_of_one_le_right' one_le_kstar) (mul_le_mul' le_rfl ?_)
  rw [mul_add, mul_one]
  exact sup_le le_rfl kstar_mul_le_kstar

end

/- Patterns. -/

/-- Behind the opening parenthesis of a group and whatever is complete inside another term may
follow. -/
theorem accepted_group {atom : Language Token} (hregex : [.regex ""] ∈ atom)
    (hx : Describes x (.regex "")) (h : read ∈ 1 + Shape.mark .openParen *
      (1 + Shape.expression atom)) :
    Accepted (Shape.term atom (Shape.expression atom)) x read := by
  have hexpression : [.regex ""] ∈ Shape.expression atom := le_expression atom hregex
  have hinside : ∀ inside ∈ 1 + Shape.expression atom, inside ++ [.regex ""] ∈
      Shape.expression atom := by
    rintro inside (rfl | hinside)
    · exact hexpression
    · rw [Shape.expression_eq] at hinside ⊢
      exact alternatives_mul_le _ (Language.append_mem_mul hinside
        (le_element _ (.inr hregex)))
  refine ⟨_, hx, ?_⟩
  rcases h with rfl | hopen
  · exact ⟨[], .inr hregex⟩
  · obtain ⟨_, inside, rfl, rfl, hmem⟩ := mem_one_mul.mp hopen
    refine ⟨[.mark .closeParen], .inl (mem_one_mul.mpr ⟨_, _, rfl, rfl, ?_⟩)⟩
    exact Language.append_mem_mul (hinside inside hmem) ⟨_, rfl, rfl⟩

theorem group_informs {Leaf : Type} {inner : Parser (Expr Leaf)} (h : Informs E (1 + E) inner) :
    Informs (Shape.group E) (1 + Shape.mark .openParen * (1 + E)) (Expr.group inner) := by
  refine ((Informs.mark .openParen).after (h.before (.mark .closeParen))).weaken (le_of_eq ?_)
  rw [mul_one, add_assoc, add_idem]

theorem regex_mem_atom (body : String) : [.regex body] ∈ Shape.patternAtom :=
  .inr (.inr (.inl ⟨_, ⟨body, rfl⟩, rfl⟩))

theorem describes_literal (text : String) : Describes .tokenExpression (.literal text) := by
  refine ⟨[], le_expression _ (.inr (.inr (.inr ?_)))⟩
  exact Language.append_mem_mul ⟨_, ⟨text, rfl⟩, rfl⟩ (Language.nil_mem_kstar _)

theorem describes_regex (body : String) : Describes .tokenExpression (.regex body) :=
  ⟨[], le_expression _ (regex_mem_atom body)⟩

/-- Inside a leaf that starts with a dollar sign, a literal is wanted where an error has no name,
unless it stands behind a whole run of them. -/
theorem directive_goes_on (h : read ∈ Shape.mark .dollar * (Shape.word "keyword" *
      (1 + Shape.word "choice" * (1 + Shape.run * (1 + Shape.mark .bar))))) :
    read ∈ Shape.literals ∨ Begun Shape.directive (read ++ [.literal ""]) := by
  have hkeyword : ∀ {w : List Token}, Begun Shape.keyword w →
      Begun Shape.directive (.mark .dollar :: .ruleName "keyword" :: w) := fun hw =>
    begun_one_mul.mpr ⟨rfl, begun_add.mpr (.inr (begun_add.mpr (.inl
      (begun_one_mul.mpr ⟨rfl, hw⟩))))⟩
  obtain ⟨_, _, rfl, rfl, hword⟩ := mem_one_mul.mp h
  obtain ⟨_, inside, rfl, rfl, hinside⟩ := mem_one_mul.mp hword
  rcases hinside with rfl | hchoice
  · exact .inr (hkeyword (begun_add.mpr (.inr ⟨[], _, ⟨"", rfl⟩, rfl⟩)))
  · obtain ⟨_, run, rfl, rfl, hrun⟩ := mem_one_mul.mp hchoice
    refine (run_goes_on hrun).imp (fun hrun => .inr ?_) fun hrun => hkeyword ?_
    · exact mem_one_mul.mpr ⟨_, _, rfl, rfl, mem_one_mul.mpr ⟨_, _, rfl, rfl,
        mem_one_mul.mpr ⟨_, _, rfl, rfl, hrun⟩⟩⟩
    · exact begun_add.mpr (.inl (begun_one_mul.mpr ⟨rfl, hrun⟩))

theorem literals_le : Shape.literals ≤ Shape.patternAtom := by
  rintro w (hrun | hdollar)
  · exact .inr (.inr (.inr hrun))
  · refine .inr (.inl ?_)
    obtain ⟨_, _, rfl, rfl, hword⟩ := mem_one_mul.mp hdollar
    obtain ⟨_, _, rfl, rfl, hchoice⟩ := mem_one_mul.mp hword
    exact mem_one_mul.mpr ⟨_, _, rfl, rfl, .inr (.inl (mem_one_mul.mpr ⟨_, _, rfl, rfl,
      .inl hchoice⟩))⟩

/-- Where an error of a term has no name, a token expression may come next or a run of literals is
over. -/
theorem termForms_informs {inner : Parser Pattern}
    (h : Informs (Shape.expression Shape.patternAtom) (1 + Shape.expression Shape.patternAtom)
      inner) :
    Informs (Shape.term Shape.patternAtom (Shape.expression Shape.patternAtom))
      {read : List Token | read ∈ Shape.literals ∨ Accepted
        (Shape.term Shape.patternAtom (Shape.expression Shape.patternAtom)) .tokenExpression read}
      (Pattern.termForms inner) := by
  refine ((group_informs h).firstOf (tokenName_informs.map.firstOf (directive_informs.map.firstOf
    (regex_informs.map.firstOf (run_informs.checked
      Pattern.ofLiterals_checksValue).map.only)))).weaken fun read hread => ?_
  have hstart : Accepted (Shape.term Shape.patternAtom (Shape.expression Shape.patternAtom))
      .tokenExpression [] :=
    ⟨_, describes_regex "", [], .inr (regex_mem_atom "")⟩
  have hliteral : ∀ {A : Language Token} {read : List Token}, A ≤ Shape.patternAtom →
      Begun A (read ++ [.literal ""]) → Accepted
        (Shape.term Shape.patternAtom (Shape.expression Shape.patternAtom)) .tokenExpression read :=
    fun hA hbegun => ⟨_, describes_literal "", hbegun.mono (hA.trans le_sup_right)⟩
  rcases hread with hgroup | rfl | (rfl | hdirective) | rfl | hrun
  · exact .inr (accepted_group (regex_mem_atom "") (describes_regex "") hgroup)
  · exact .inr hstart
  · exact .inr hstart
  · exact (directive_goes_on hdirective).imp_right
      (hliteral (le_sup_left.trans le_sup_right))
  · exact .inr hstart
  · exact (run_goes_on hrun).imp .inl (hliteral
      (le_sup_right.trans (le_sup_right.trans le_sup_right)))

theorem pattern_named {inner : Parser Pattern}
    (h : Informs (Shape.expression Shape.patternAtom) (1 + Shape.expression Shape.patternAtom)
      inner) :
    Named .tokenExpression (Shape.term Shape.patternAtom (Shape.expression Shape.patternAtom))
      (labelled .tokenExpression (Pattern.termForms inner)) where
  spells := (Pattern.termForms_spells h.spells).labelled
  lists := (termForms_informs h).lists.labelled (fun _ _ => .inl) fun _ hread =>
    hread.elim (fun hrun => .inr ⟨rfl, hrun⟩) fun hx => .inl (.inr hx)
  regex := .inr (regex_mem_atom "")
  literals := literals_le.trans le_sup_right
  describes := describes_regex ""
  misnamed := fun separator hseparator => ⟨[], separator, rfl, hseparator⟩

theorem tooDeep_lists {Leaf : Type} :
    Lists (Listed K) (1 + N) (Expr.tooDeep : Parser (Expr Leaf)) := by
  intro stop tokens s hs
  obtain rfl := Option.some.inj hs
  exact .here rfl nofun (.inl rfl)

/-- What is asked of terms over a parser that informs holds at every depth of nesting. -/
theorem nested_informs {Leaf : Type} {atom : Language Token} {name : Expectation}
    {term : Parser (Expr Leaf) → Parser (Expr Leaf)} {nested : Nat → Parser (Expr Leaf)}
    (hinhabited : ∃ w, w ∈ Shape.expression atom)
    (hterm : ∀ inner, Informs (Shape.expression atom) (1 + Shape.expression atom) inner →
      Named name (Shape.term atom (Shape.expression atom)) (term inner))
    (hzero : nested 0 = Expr.tooDeep)
    (hsucc : ∀ depth, nested (depth + 1) = Expr.layers (term (nested depth))) (depth : Nat) :
    Informs (Shape.expression atom) (1 + Shape.expression atom) (nested depth) := by
  induction depth with
  | zero =>
    rw [hzero]
    exact ⟨Expr.tooDeep_takes, hinhabited, tooDeep_lists⟩
  | succ depth ih =>
    have hlayers := (hterm _ ih).layers
    rw [← Shape.expression_eq] at hlayers
    rw [hsucc]
    exact hlayers.weaken le_sup_right

theorem pattern_informs : Informs (Shape.expression Shape.patternAtom)
    (1 + Shape.expression Shape.patternAtom) Pattern.parser := by
  have hinhabited : ∃ w, w ∈ Shape.expression Shape.patternAtom := ⟨_, regex_mem_pattern ""⟩
  have hnested : ∀ depth, Informs _ _ (Pattern.nested depth) :=
    nested_informs hinhabited (fun _ h => pattern_named h) rfl fun _ => rfl
  exact ⟨Pattern.parser_spells, hinhabited, fun stop tokens =>
    (hnested (tokens.length + 1)).lists stop tokens⟩

/- Rules. -/

theorem patternTerm_le :
    Shape.term Shape.patternAtom (Shape.expression Shape.patternAtom) ≤
      Shape.term Shape.ruleAtom (Shape.expression Shape.ruleAtom) :=
  sup_le_sup (Shape.group_mono Shape.pattern_le_rule) le_sup_right

theorem regex_mem_ruleAtom (body : String) : [.regex body] ∈ Shape.ruleAtom :=
  .inr (regex_mem_atom body)

/-- What can begin a pattern can begin a rule. -/
theorem describes_rule {t : Token} (h : Describes .tokenExpression t) :
    Describes .ruleExpression t :=
  h.mono Shape.pattern_le_rule

theorem rule_named {inner : Parser Rule}
    (h : Informs (Shape.expression Shape.ruleAtom) (1 + Shape.expression Shape.ruleAtom) inner) :
    Named .ruleExpression (Shape.term Shape.ruleAtom (Shape.expression Shape.ruleAtom))
      (Rule.term inner) where
  spells := Rule.term_spells h.spells
  lists := by
    have hle : Shape.group (Shape.expression Shape.ruleAtom) + (Shape.ruleName +
        Shape.term Shape.patternAtom (Shape.expression Shape.patternAtom)) ≤
          Shape.term Shape.ruleAtom (Shape.expression Shape.ruleAtom) :=
      sup_le le_sup_left (sup_le (le_sup_left.trans le_sup_right) patternTerm_le)
    have hregex := describes_rule (describes_regex "")
    refine Lists.labelled (Informs.lists ((group_informs h).firstOf (ruleName_informs.map.firstOf
      (termForms_informs pattern_informs).map.only))) (fun x read hx => .inl (hx.mono hle))
      fun read hread => ?_
    rcases hread with hgroup | rfl | hrun | ⟨t, ht, hbegun⟩
    · exact .inl (.inr (accepted_group (regex_mem_ruleAtom "") hregex hgroup))
    · exact .inl (.inr ⟨_, hregex, [], .inr (regex_mem_ruleAtom "")⟩)
    · exact .inr ⟨rfl, hrun⟩
    · exact .inl (.inr ⟨t, describes_rule ht, hbegun.mono patternTerm_le⟩)
  regex := .inr (regex_mem_ruleAtom "")
  literals := literals_le.trans (le_sup_right.trans le_sup_right)
  describes := describes_rule (describes_regex "")
  misnamed := fun separator hseparator => ⟨[], separator, rfl, hseparator⟩

theorem rule_informs : Informs (Shape.expression Shape.ruleAtom)
    (1 + Shape.expression Shape.ruleAtom) Rule.parser := by
  have hinhabited : ∃ w, w ∈ Shape.expression Shape.ruleAtom :=
    ⟨_, Shape.pattern_le_rule (regex_mem_pattern "")⟩
  have hnested : ∀ depth, Informs _ _ (Rule.nested depth) :=
    nested_informs hinhabited (fun _ h => rule_named h) rfl fun _ => rfl
  exact ⟨Rule.parser_spells, hinhabited, fun stop tokens =>
    (hnested (tokens.length + 1)).lists stop tokens⟩

/- Declarations. -/

theorem strategy_informs : Informs Shape.strategy 0 Declaration.skipStrategy := by
  refine (Informs.optional
    (((word_informs .before).map.firstOf (word_informs .after).map.only).both
      ((word_informs .greedy).map.firstOf (word_informs .lazy).map.only).optional)).map.weaken
    (le_of_eq ?_)
  rw [add_zero, mul_zero, add_zero]

theorem header_informs : ∃ N, Informs Shape.header N Declaration.header :=
  ⟨_, ((Informs.mark .dollar).after
    (((word_informs .main).after ruleName_informs.optional.map).firstOf
      ((word_informs .skip).after strategy_informs.map).only)).firstOf ruleName_informs.map.only⟩

theorem declaration_informs : ∃ N, Informs Shape.declaration N
    (firstOf Declaration.tokenParser [Declaration.ruleParser]) := by
  obtain ⟨_, hheader⟩ := header_informs
  exact ⟨_, (((tokenName_informs.before (.mark .colon)).both pattern_informs).before
    (.mark .semicolon)).map.firstOf (((hheader.before (.mark .colon)).both rule_informs).before
      (.mark .semicolon)).map.only⟩

/-- The error is about the first token with which what was read no longer begins a declaration, or
about the end. -/
structure LiesAt (stop : Nat) (e : ParseError) (read left : List Lexeme) : Prop where
  viable : Viable (nodes read)
  stuck : Stuck Shape.declaration (nodes read) (nodes left)
  accuses : Accuses stop e left

/-- Where a declaration fails over a token or the end, all that its error lists could have come
there, but for the names that labels get wrong. -/
theorem declaration_error_lists_what_could_follow {stop : Nat} {tokens : List Lexeme}
    {e : ParseError} (h : run Declaration.parser stop tokens = .error e)
    (hfault : e.fault = .unexpected) :
    ∃ read left, tokens = read ++ left ∧ LiesAt stop e read left ∧
      ∀ x ∈ e.expected, (∃ t, Describes x t ∧ Viable (nodes read ++ [t])) ↔
        ¬ Misnamed x (nodes read) := by
  obtain ⟨s, hs, rfl⟩ := failed_of_run h
  obtain ⟨read, left, rfl, hleft, hviable, hstuck, haccuses⟩ := setback_points hs hfault
  obtain ⟨N, hinforms⟩ := declaration_informs
  have hsetback : s ∈ (firstOf Declaration.tokenParser [Declaration.ruleParser] stop
      (read ++ left)).setback := by
    rw [hs]
    rfl
  obtain ⟨read', left', htokens, hleft', hlisted, -⟩ := hinforms.lists stop _ s hsetback hfault
  obtain ⟨rfl, -⟩ := List.append_inj' htokens (by omega)
  exact ⟨read, left, rfl, ⟨hviable, hstuck, haccuses⟩, fun x hx =>
    ⟨fun haccepted hmisnamed => hmisnamed.not_accepted haccepted, (hlisted x hx).resolve_left⟩⟩

/-- `A : 'x' ) ;`, where a closing parenthesis has none to close. -/
theorem declaration_error_lists_what_could_follow_stray :
    let tokens : List Lexeme := [⟨.tokenName "A", ⟨0, 1⟩⟩, ⟨.mark .colon, ⟨2, 3⟩⟩,
      ⟨.literal "x", ⟨4, 7⟩⟩, ⟨.mark .closeParen, ⟨8, 9⟩⟩, ⟨.mark .semicolon, ⟨10, 11⟩⟩]
    let e : ParseError := ⟨.unexpected, ⟨8, 9⟩,
      [.mark .percent, .mark .semicolon, .mark .bar, .quantifier, .tokenExpression],
      some (.mark .closeParen), some .tokenExpression⟩
    run Declaration.parser 11 tokens = .error e ∧ e.fault = .unexpected ∧
      ∃ read left, tokens = read ++ left ∧ LiesAt 11 e read left ∧
        ∀ x ∈ e.expected, (∃ t, Describes x t ∧ Viable (nodes read ++ [t])) ↔
          ¬ Misnamed x (nodes read) := by
  intro tokens e
  have h : run Declaration.parser 11 tokens = .error e := rfl
  exact ⟨h, rfl, declaration_error_lists_what_could_follow h rfl⟩

/-- The error lists something of which no token could come where it lies. -/
def ListsInVain (stop : Nat) (tokens : List Lexeme) (x : Expectation) : Prop :=
  ∃ e read left, run Declaration.parser stop tokens = .error e ∧ e.fault = .unexpected ∧
    tokens = read ++ left ∧ LiesAt stop e read left ∧ x ∈ e.expected ∧
      ¬ ∃ t, Describes x t ∧ Viable (nodes read ++ [t])

/-- A wrong name is listed in vain.  How far from the end the error is tells where it lies. -/
theorem listsInVain_of_failed {stop : Nat} {read left : List Lexeme} {s : Setback}
    {x : Expectation}
    (hs : firstOf Declaration.tokenParser [Declaration.ruleParser] stop (read ++ left) = .failed s)
    (hfault : s.error.fault = .unexpected) (hleft : s.left = left.length)
    (hx : x ∈ s.error.expected) (hmisnamed : Misnamed x (nodes read)) :
    ListsInVain stop (read ++ left) x := by
  obtain ⟨hviable, hstuck, haccuses⟩ := stuck_of_failed hs hfault hleft
  exact ⟨s.error, read, left, run_of_failed hs, hfault, rfl, ⟨hviable, hstuck, haccuses⟩, hx,
    hmisnamed.not_accepted⟩

/-- The tokens of `A : 'x' {3`. -/
def openBounds : List Lexeme :=
  [⟨.tokenName "A", ⟨0, 1⟩⟩, ⟨.mark .colon, ⟨2, 3⟩⟩, ⟨.literal "x", ⟨4, 7⟩⟩,
    ⟨.mark .openBrace, ⟨8, 9⟩⟩, ⟨.integer 3, ⟨9, 10⟩⟩]

/-- The tokens of `A : 'x' % 'y'`. -/
def openSeparator : List Lexeme :=
  [⟨.tokenName "A", ⟨0, 1⟩⟩, ⟨.mark .colon, ⟨2, 3⟩⟩, ⟨.literal "x", ⟨4, 7⟩⟩,
    ⟨.mark .percent, ⟨8, 9⟩⟩, ⟨.literal "y", ⟨10, 13⟩⟩]

/-- Inside of a quantifier the error asks for a quantifier, and behind the literals of a separator
for an expression. -/
theorem labels_list_what_cannot_follow :
    tokenize "A : 'x' \x7b3 ;" = ⟨openBounds ++ [⟨.mark .semicolon, ⟨11, 12⟩⟩], []⟩ ∧
      ListsInVain 12 (openBounds ++ [⟨.mark .semicolon, ⟨11, 12⟩⟩]) .quantifier ∧
      tokenize "A : 'x' % 'y' ;" = ⟨openSeparator ++ [⟨.mark .semicolon, ⟨14, 15⟩⟩], []⟩ ∧
      ListsInVain 15 (openSeparator ++ [⟨.mark .semicolon, ⟨14, 15⟩⟩]) .tokenExpression := by
  have hbounds : Misnamed .quantifier (nodes openBounds) :=
    ⟨nodes (openBounds.take 3), [.integer 3], rfl, by decide⟩
  have hliteral : [.literal "y"] ∈ Shape.literal := ⟨_, ⟨"y", rfl⟩, rfl⟩
  have hseparator : Misnamed .tokenExpression (nodes openSeparator) :=
    ⟨nodes (openSeparator.take 3), [.literal "y"], rfl,
      .inl (Language.append_mem_mul hliteral (Language.nil_mem_kstar _))⟩
  exact ⟨by decide +kernel, listsInVain_of_failed rfl rfl rfl (List.mem_singleton_self _) hbounds,
    by decide +kernel, listsInVain_of_failed rfl rfl rfl
      (List.mem_cons_of_mem _ (List.mem_singleton_self _)) hseparator⟩

end Grammar
end GrammarText
