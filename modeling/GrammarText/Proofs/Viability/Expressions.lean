/-
Patterns and rules.  A group in a rule is read as a rule and, should that fail, as a group of a
pattern.  The second attempt gets no further than the first, so it leaves no trace in the error.
-/
import GrammarText.Proofs.Viability.Comparison

namespace GrammarText

open Computability GrammarText.Parser

namespace Setback

theorem against_le (s : Setback) {a b : Option Nat} (h : a ≤ b) : against (some s) a ≤ b := by
  cases a with
  | none => exact Option.none_le
  | some r =>
    cases b with
    | none => exact h.elim
    | some r' =>
      have hle := Option.some_le_some.mp h
      exact Option.some_le_some.mpr (by omega)

theorem against_le_rank {s : Setback} {rank : Nat} (h : s.rank ≤ rank) (a : Option Nat) :
    against (some s) a ≤ some rank := by
  cases a with
  | none => exact Option.none_le
  | some r => exact Option.some_le_some.mpr (by omega)

/-- An error that lies no further on than another makes no difference beside it. -/
theorem against_absorb {s s' : Setback} (h : s.rank ≤ s'.rank) (mid : Setback) (a : Option Nat) :
    against (some s) (against (some mid) (against (some s') a)) =
      against (some s) (against (some mid) a) := by
  cases a with
  | none => rfl
  | some r =>
    show some (min s.rank (min mid.rank (min s'.rank r))) = some (min s.rank (min mid.rank r))
    congr 1
    omega

end Setback

namespace Grammar

variable {n stop : Nat}

theorem fits_one : RunFits 1 :=
  fun _ _ h => by cases h

theorem le_alternatives (T : Language Token) : T ≤ Shape.alternatives T := by
  have hone : ∀ D : Language Token, 1 ≤ D∗ := fun _ => KleeneAlgebra.one_le_kstar _
  have hoptional : (1 : Language Token) ≤ 1 + Shape.quantifier := le_sup_left
  calc T = T * 1 * 1 * 1 * 1 := by simp only [mul_one]
    _ ≤ Shape.alternatives T :=
      mul_le_mul' (mul_le_mul' (mul_le_mul' (mul_le_mul' le_rfl (hone _)) hoptional) (hone _))
        (hone _)

theorem le_expression (atom : Language Token) : atom ≤ Shape.expression atom := by
  rw [Shape.expression_eq]
  exact le_trans le_sup_right (le_alternatives _)

theorem starts_expression {atom : Language Token}
    (h : Starts (fun t => t.opensTerm = true) atom) :
    Starts (fun t => t.opensTerm = true) (Shape.expression atom) := by
  rw [Shape.expression_eq]
  have hgroup : Starts (fun t => t.opensTerm = true) (Shape.group (Shape.expression atom)) :=
    (starts_one.mul _).imp fun t ht => by subst ht; rfl
  exact ((starts_element ((hgroup.add h).imp fun _ ht => ht.elim id id)).mul _).mul _

/-- A pattern term that starts with a literal is a run. -/
theorem patternAtom_literal {text : String} {w : List Token}
    (h : .literal text :: w ∈ Shape.patternAtom) : .literal text :: w ∈ Shape.run := by
  rcases h with ⟨t, ⟨name, rfl⟩, heq⟩ | h | ⟨t, ⟨body, rfl⟩, heq⟩ | h
  · cases heq
  · obtain ⟨t, v, heq, rfl, -⟩ := mem_one_mul.mp h
    cases heq
  · cases heq
  · exact h

theorem group_literal {E : Language Token} {text : String} {w : List Token} :
    .literal text :: w ∉ Shape.group E := by
  intro h
  obtain ⟨t, v, heq, rfl, -⟩ := mem_one_mul.mp h
  cases heq

/- Patterns. -/

theorem opensTerm_of_atom (t : Token)
    (h : (∃ name, t = .tokenName name) ∨ t = .mark .dollar ∨ (∃ body, t = .regex body) ∨
      ∃ text, t = .literal text) : t.opensTerm = true := by
  rcases h with ⟨_, rfl⟩ | rfl | ⟨_, rfl⟩ | ⟨_, rfl⟩ <;> rfl

theorem regex_mem_pattern (body : String) :
    [.regex body] ∈ Shape.expression Shape.patternAtom :=
  le_expression _ (.inr (.inr (.inl ⟨_, ⟨body, rfl⟩, rfl⟩)))

theorem starts_pattern :
    Starts (fun t => t.opensTerm = true) (Shape.expression Shape.patternAtom) :=
  starts_expression ((atoms_branch 0 0).starts.imp opensTerm_of_atom)

theorem patternGroup_branch {P : Language Token → Prop}
    (h : Branch n stop (Heads fun t => t.closes = true) Pattern.parser
      (fun t => t.opensTerm = true) (Shape.expression Shape.patternAtom)) :
    Branch (n + 1) stop P (Expr.group Pattern.parser) (· = .mark .openParen)
      (Shape.group (Shape.expression Shape.patternAtom)) :=
  group_branch h ⟨_, regex_mem_pattern ""⟩

theorem pattern_terms (h : Branch n stop (Heads fun t => t.closes = true) Pattern.parser
      (fun t => t.opensTerm = true) (Shape.expression Shape.patternAtom)) :
    Terms (n + 1) stop (labelled .tokenExpression (Pattern.termForms Pattern.parser))
      (Shape.term Shape.patternAtom (Shape.expression Shape.patternAtom)) where
  branch := by
    have hforms := Branch.firstOf (patternGroup_branch h) (atoms_branch (n + 1) stop)
      (by rintro t rfl h; rcases h with ⟨_, h⟩ | h | ⟨_, h⟩ | ⟨_, h⟩ <;> cases h)
    refine (hforms.labelled .tokenExpression).imp (fun t ht => ?_) fun _ => id
    rcases ht with rfl | ht
    · rfl
    · exact opensTerm_of_atom t ht
  takes := (Pattern.termForms_takes Pattern.parser_takes.plain).labelled
  literal := fun _ _ hw => patternAtom_literal (hw.resolve_left group_literal)

theorem pattern_branch (n stop : Nat) : Branch n stop (Heads fun t => t.closes = true)
    Pattern.parser (fun t => t.opensTerm = true) (Shape.expression Shape.patternAtom) := by
  induction n with
  | zero => exact ⟨Pattern.parser_spells, starts_pattern, nofun⟩
  | succ n ih =>
    rw [Pattern.parser_eq, Shape.expression_eq]
    exact (pattern_terms ih).layers

/- Rules against patterns. -/

theorem termForms_of_failed {s : Setback} {next : Continuation} {tokens : List Lexeme}
    (h : Expr.group Pattern.parser stop tokens = .failed s) :
    (Pattern.termForms Pattern.parser).andThen stop next tokens =
      Setback.against (some s) (atoms.andThen stop next tokens) :=
  andThen_firstOf_of_failed h

theorem atoms_refuses (stop : Nat) {t : Lexeme} (rest : List Lexeme)
    (ht : t.node = .mark .openParen ∨ ∃ name, t.node = .ruleName name) :
    ∃ s, atoms stop (t :: rest) = .failed s ∧ s.rank = 2 * (rest.length + 1) + 1 := by
  refine (atoms_branch _ stop).refuses fits_one (Nat.lt_succ_self _) fun h => ?_
  rcases ht with ht | ⟨name, ht⟩ <;> rw [ht] at h <;>
    rcases h with ⟨_, h⟩ | h | ⟨_, h⟩ | ⟨_, h⟩ <;> cases h

theorem term_below (h : ∀ K, Heads (fun t => t.closes = true) K → [] ∉ K →
      Below stop n K Rule.parser Pattern.parser) (K : Language Token) :
    Below stop (n + 1) K (Rule.term Rule.parser)
      (labelled .tokenExpression (Pattern.termForms Pattern.parser)) := by
  intro m first next hm hK hfirst tokens hlen
  have hgroups := group_below h
  have hpattern := patternGroup_branch (P := fun _ => True) (pattern_branch (n + 1) stop)
  unfold Rule.term
  rw [andThen_labelled, andThen_labelled]
  cases hrule : Expr.group Rule.parser stop tokens with
  | done value rest s =>
    have hle := hgroups K hm hK hfirst tokens hlen
    rw [andThen_firstOf_of_done hrule]
    cases hgroup : Expr.group Pattern.parser stop tokens with
    | done value' rest' s' =>
      unfold Pattern.termForms
      rw [andThen_firstOf_of_done hgroup]
      exact hle
    | failed s' =>
      obtain ⟨mid, u, hopen, -⟩ := succeeds_after.mp ⟨s, hrule⟩
      obtain ⟨t, rfl, ht⟩ := succeeds_exactly.mp hopen
      obtain ⟨s₁, hs₁, hrank⟩ := atoms_refuses stop mid (.inl ht)
      have hbound : s'.rank ≤ 2 * (mid.length + 1) + 1 := hpattern.rank_le trivial (by omega) hgroup
      rw [andThen_of_failed hgroup] at hle
      rw [termForms_of_failed hgroup, andThen_of_failed hs₁, hrank]
      show _ ≤ some (min s'.rank (2 * (mid.length + 1) + 1))
      rw [Nat.min_eq_left hbound]
      exact hle
  | failed s =>
    obtain ⟨s', hs', hrank⟩ := (hgroups 1).failsBelow.failed (by omega) hrule
    rw [andThen_firstOf_of_failed hrule, termForms_of_failed hs']
    cases hname : Parser.map (fun name => (.leaf (.ref name) : Rule)) Rule.ruleName stop tokens with
    | done value rest s₁ =>
      obtain ⟨name, hread, -⟩ := succeeds_map.mp ⟨s₁, hname⟩
      obtain ⟨t, rfl, ht⟩ := succeeds_token.mp hread
      have hrule : ∃ name, t.node = .ruleName name := by
        cases hnode : t.node <;> rw [hnode] at ht <;> cases ht
        exact ⟨_, rfl⟩
      obtain ⟨s₂, hs₂, hrank₂⟩ := atoms_refuses stop rest (.inr hrule)
      have hbound : s'.rank ≤ 2 * (rest.length + 1) + 1 := hpattern.rank_le trivial (by omega) hs'
      rw [andThen_of_failed hs₂, hrank₂]
      show _ ≤ some (min s'.rank (2 * (rest.length + 1) + 1))
      rw [Nat.min_eq_left hbound]
      exact Setback.against_le_rank hrank _
    | failed s₁ =>
      rw [andThen_firstOf_of_failed hname]
      refine Setback.against_le s (Setback.against_le s₁ ?_)
      show (Parser.map _ _).andThen stop first tokens ≤ _
      rw [andThen_map, termForms_of_failed hs']
      refine Setback.against_mono _ (andThen_le fun _ rest hs => hfirst rest ?_)
      have hless := (atoms_branch 0 stop).length_lt hs
      omega

/-- A pattern gets no further than a rule on the same tokens. -/
theorem rule_below (n stop : Nat) : ∀ K, Heads (fun t => t.closes = true) K → [] ∉ K →
    Below stop n K Rule.parser Pattern.parser := by
  induction n with
  | zero => exact fun _ _ _ _ _ _ hn => absurd hn (Nat.not_lt_zero _)
  | succ n ih =>
    intro K hK hnil
    rw [Rule.parser_eq, Pattern.parser_eq]
    exact layers_below (pattern_terms (pattern_branch n stop))
      (Rule.term_takes Rule.parser_takes.plain) (fun K _ => term_below ih K) hK hnil

/- Rules. -/

/-- The forms of a rule term that are no groups. -/
def ruleAtoms : Parser Rule :=
  firstOf (Parser.map (fun name => .leaf (.ref name)) Rule.ruleName)
    [Parser.map (fun pattern => .leaf (.token pattern)) atoms]

theorem ruleAtoms_branch (n stop : Nat) :
    Branch n stop RunFits ruleAtoms (fun t => t.opensTerm = true ∧ t ≠ .mark .openParen)
      Shape.ruleAtom := by
  have hall := Branch.firstOf
    ((ruleName_branch n stop RunFits).map fun name => (.leaf (.ref name) : Rule))
    (((atoms_branch n stop).map fun pattern => (.leaf (.token pattern) : Rule)).only)
    (by rintro t ⟨_, rfl⟩ h; rcases h with ⟨_, h⟩ | h | ⟨_, h⟩ | ⟨_, h⟩ <;> cases h)
  refine hall.imp (fun t ht => ?_) fun _ => id
  rcases ht with ⟨_, rfl⟩ | ⟨_, rfl⟩ | rfl | ⟨_, rfl⟩ | ⟨_, rfl⟩ <;> exact ⟨rfl, nofun⟩

/-- Where the group of a rule fails the group of a pattern goes unnoticed. -/
theorem andThen_ruleForms_of_failed {next : Continuation} {tokens : List Lexeme} {s s' : Setback}
    (hpattern : Expr.group Pattern.parser stop tokens = .failed s') (hrank : s.rank ≤ s'.rank) :
    Setback.against (some s)
        ((firstOf (Parser.map (fun name => (.leaf (.ref name) : Rule)) Rule.ruleName)
          [Parser.map (fun pattern => .leaf (.token pattern))
            (Pattern.termForms Pattern.parser)]).andThen stop next tokens) =
      Setback.against (some s) (ruleAtoms.andThen stop next tokens) := by
  unfold ruleAtoms
  cases hname : Parser.map (fun name => (.leaf (.ref name) : Rule)) Rule.ruleName stop tokens with
  | done value rest s₁ => rw [andThen_firstOf_of_done hname, andThen_firstOf_of_done hname]
  | failed s₁ =>
    rw [andThen_firstOf_of_failed hname, andThen_firstOf_of_failed hname]
    show Setback.against _ (Setback.against _ ((Parser.map _ _).andThen stop next tokens)) =
      Setback.against _ (Setback.against _ ((Parser.map _ _).andThen stop next tokens))
    rw [andThen_map, andThen_map, termForms_of_failed hpattern]
    exact Setback.against_absorb hrank s₁ _

theorem starts_rule : Starts (fun t => t.opensTerm = true) (Shape.expression Shape.ruleAtom) :=
  starts_expression ((ruleAtoms_branch 0 0).starts.imp fun _ ht => ht.1)

theorem ruleTerm_branch (h : Branch n stop (Heads fun t => t.closes = true) Rule.parser
      (fun t => t.opensTerm = true) (Shape.expression Shape.ruleAtom)) :
    Branch (n + 1) stop RunFits (Rule.term Rule.parser) (fun t => t.opensTerm = true)
      (Shape.term Shape.ruleAtom (Shape.expression Shape.ruleAtom)) := by
  have hgroup := group_branch (P := RunFits) h
    ⟨_, Shape.pattern_le_rule (regex_mem_pattern "")⟩
  have hatoms := ruleAtoms_branch (n + 1) stop
  refine ⟨Rule.term_spells Rule.parser_spells, ?_, fun m next K hm hfits hK => ?_⟩
  · refine (hgroup.starts.add hatoms.starts).imp fun t ht => ?_
    rcases ht with rfl | ht
    · rfl
    · exact ht.1
  · unfold Rule.term Shape.term
    rw [andThen_labelled, add_mul]
    refine (hgroup.exact hm hfits hK).choice (hatoms.exact hm hfits hK) (fun t ht ht' => ?_)
      fun tokens hlen => ?_
    · exact ((hatoms.starts.mul K).heads t ht').2 ((hgroup.starts.mul K).heads t ht)
    · cases hrule : Expr.group Rule.parser stop tokens with
      | done value rest s =>
        exact .inl ⟨andThen_firstOf_of_done hrule,
          fun rank => hK.rank_lt hlen (hgroup.length_lt ⟨s, hrule⟩) hrule⟩
      | failed s =>
        obtain ⟨s', hs', hrank⟩ := (group_below (rule_below (m + 1) stop) 1).failsBelow.failed
          (Nat.lt_succ_of_lt hlen) hrule
        refine .inr ⟨s.rank, andThen_of_failed hrule, ?_⟩
        rw [andThen_firstOf_of_failed hrule, andThen_ruleForms_of_failed hs' hrank]
        rfl

theorem rule_terms (h : Branch n stop (Heads fun t => t.closes = true) Rule.parser
      (fun t => t.opensTerm = true) (Shape.expression Shape.ruleAtom)) :
    Terms (n + 1) stop (Rule.term Rule.parser)
      (Shape.term Shape.ruleAtom (Shape.expression Shape.ruleAtom)) where
  branch := ruleTerm_branch h
  takes := Rule.term_takes Rule.parser_takes.plain
  literal := fun _ _ hw => by
    rcases hw.resolve_left group_literal with ⟨t, ⟨name, rfl⟩, heq⟩ | hw
    · cases heq
    · exact patternAtom_literal hw

theorem rule_branch (n stop : Nat) : Branch n stop (Heads fun t => t.closes = true)
    Rule.parser (fun t => t.opensTerm = true) (Shape.expression Shape.ruleAtom) := by
  induction n with
  | zero => exact ⟨Rule.parser_spells, starts_rule, nofun⟩
  | succ n ih =>
    have hlayers := (rule_terms ih).layers
    rwa [← Rule.parser_eq, ← Shape.expression_eq] at hlayers

end Grammar
end GrammarText
