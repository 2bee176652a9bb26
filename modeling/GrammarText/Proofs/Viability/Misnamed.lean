/-
Where labels are wrong.  Between the braces of a quantifier no quantifier can begin, and behind the
literals of a separator no expression can.  Both are about what may not follow an opening token
before something comes that ends it, so both are got from one invariant of the words of the grammar.
-/
import GrammarText.Proofs.Viability.Colon
import GrammarText.Proofs.Viability.Listed

namespace GrammarText
namespace Grammar

open Computability

/-- A token of a word in two parts is in the first part or in the second. -/
theorem split_append {a b before after : List Token} {t : Token}
    (h : a ++ b = before ++ t :: after) :
    (∃ d, a = before ++ t :: d ∧ after = d ++ b) ∨
      ∃ d, before = a ++ d ∧ b = d ++ t :: after := by
  rcases List.append_eq_append_iff.mp h with ⟨d, rfl, hd⟩ | ⟨d, rfl, hd⟩
  · exact .inr ⟨d, rfl, hd⟩
  · cases d with
    | nil => exact .inr ⟨[], by rw [List.append_nil, List.append_nil], hd.symm⟩
    | cons u d =>
      obtain ⟨rfl, rfl⟩ := List.cons.inj hd
      exact .inl ⟨d, rfl, rfl⟩

/-- An opening token and what does not follow it. -/
structure Guard where
  opening : Token
  /-- What may stand behind the opening token as long as nothing has ended it. -/
  unfinished : Language Token
  /-- No refused token stands right behind one of these. -/
  watched : Language Token
  refused : Token → Prop
  of_append : ∀ {a b : List Token}, a ++ b ∈ unfinished → a ∈ unfinished
  watched_le : watched ≤ unfinished

namespace Guard

variable {g : Guard} {A B : Language Token}

/-- What stands behind the opening token is finished, and no refused token came too early. -/
structure Obeyed (g : Guard) (v : List Token) : Prop where
  finished : v ∉ g.unfinished
  refuses : ∀ x t after, v = x ++ t :: after → x ∈ g.watched → ¬ g.refused t

theorem Obeyed.append {v : List Token} (h : g.Obeyed v) (b : List Token) : g.Obeyed (v ++ b) := by
  refine ⟨fun hv => h.finished (g.of_append hv), fun x t after hsplit hx => ?_⟩
  rcases split_append hsplit with ⟨d, hv, -⟩ | ⟨d, rfl, -⟩
  · exact h.refuses x t d hv hx
  · exact absurd (g.of_append (g.watched_le hx)) h.finished

/-- The words in which the guard is obeyed behind every opening token. -/
def safe (g : Guard) : Language Token :=
  {w : List Token | ∀ before v, w = before ++ g.opening :: v → g.Obeyed v}

theorem over_le (g : Guard) : Over (· ≠ g.opening) ≤ g.safe := by
  rintro w hw before v rfl
  exact absurd rfl (hw g.opening (List.mem_append_right _ (List.mem_cons_self ..)))

theorem safe_closed (g : Guard) : Closed g.safe := by
  refine ⟨Over.one_le.trans g.over_le, ?_⟩
  rintro _ ⟨a, ha, b, hb, rfl⟩ before v hsplit
  rcases split_append hsplit with ⟨d, hd, rfl⟩ | ⟨d, -, hd⟩
  · exact (ha before d hd).append b
  · exact hb d v hd

/-- An opening token in front of a word. -/
theorem cons_mem_safe {v : List Token} (hobeyed : g.Obeyed v) (hv : v ∈ g.safe) :
    g.opening :: v ∈ g.safe := by
  intro before w hsplit
  cases before with
  | nil =>
    obtain ⟨-, rfl⟩ := List.cons.inj hsplit
    exact hobeyed
  | cons u before => exact hv before w (List.cons.inj hsplit).2

/-- A declaration obeys a guard on a mark if its quantifiers and its separators do. -/
theorem declaration_le {m : Mark} (hopening : g.opening = .mark m)
    (hm : m ∉ [.colon, .semicolon, .bar, .dollar, .openParen, .closeParen])
    (hquantifier : Shape.quantifier ≤ g.safe)
    (hseparator : Shape.term Shape.ruleAtom g.safe ≤ g.safe →
      Shape.mark .percent * Shape.term Shape.ruleAtom g.safe * Shape.quantifier ≤ g.safe) :
    Shape.declaration ≤ g.safe := by
  have hover : Over (· ≠ .mark m) ≤ g.safe := hopening ▸ g.over_le
  have mark : ∀ m' ∈ [Mark.colon, .semicolon, .bar, .dollar, .openParen, .closeParen],
      Shape.mark m' ≤ g.safe := fun m' hm' => by
    refine (Over.token_le fun t ht => ?_).trans hover
    rintro rfl
    exact hm (Token.mark.inj ht ▸ hm')
  have hexpression : Shape.expression Shape.ruleAtom ≤ g.safe :=
    g.safe_closed.expression_le
      ((Over.ruleAtom_le (fun h => hm (by simp [h])) fun h => hm (by simp [h])).trans hover)
      (mark _ (by decide)) (mark _ (by decide)) (mark _ (by decide)) hquantifier hseparator
  have hheader : Shape.header ≤ g.safe :=
    (Over.header_le (fun _ => nofun) fun h => hm (by simp [Token.mark.inj h])).trans hover
  have hname : Shape.tokenName ≤ g.safe :=
    (Over.token_le fun t ⟨name, ht⟩ => ht ▸ nofun).trans hover
  have hbody : ∀ {A B : Language Token}, A ≤ g.safe → B ≤ g.safe →
      A * Shape.mark .colon * B * Shape.mark .semicolon ≤ g.safe := fun hA hB =>
    g.safe_closed.mul_le (g.safe_closed.mul_le
      (g.safe_closed.mul_le hA (mark _ (by decide))) hB) (mark _ (by decide))
  exact sup_le (hbody hname (Shape.pattern_le_rule.trans hexpression))
    (hbody hheader hexpression)

/-- Where a guard is obeyed, a refused token does not go on. -/
theorem not_viable (h : Shape.declaration ≤ g.safe) {before v : List Token} {t : Token}
    (hv : v ∈ g.watched) (ht : g.refused t) : ¬ Viable (before ++ g.opening :: v ++ [t]) := by
  rintro ⟨later, hword⟩
  refine (h hword before (v ++ t :: later) ?_).refuses v t later rfl hv ht
  simp

end Guard

/- Braces. -/

/-- No quantifier begins between braces. -/
def braces : Guard where
  opening := .mark .openBrace
  unfinished := Over (· ≠ .mark .closeBrace)
  watched := Over (· ≠ .mark .closeBrace)
  refused t := t.opensQuantifier = true
  of_append h := fun t ht => h t (List.mem_append_left _ ht)
  watched_le := le_rfl

theorem quantifier_le_braces : Shape.quantifier ≤ braces.safe := by
  have mark : ∀ {m : Mark}, m ≠ .openBrace → Shape.mark m ≤ braces.safe := fun hm =>
    (Over.token_le fun t ht => ht ▸ fun h => hm (Token.mark.inj h)).trans braces.over_le
  have hinside : Shape.integer * (1 + Shape.mark .range * (1 + Shape.integer)) *
      Shape.mark .closeBrace ≤ Over fun t => t.opensQuantifier = false :=
    Over.mul_le (Over.limits_le (fun _ => rfl) rfl) (Over.token_le fun t ht => ht ▸ rfl)
  refine sup_le (mark (by decide)) (sup_le (mark (by decide)) (sup_le (mark (by decide)) ?_))
  rintro w hw
  obtain ⟨_, v, rfl, rfl, hv⟩ := mem_one_mul.mp hw
  have hplain := hinside hv
  obtain ⟨bounds, -, _, ⟨_, rfl, rfl⟩, rfl⟩ := Language.mem_mul.mp hv
  refine Guard.cons_mem_safe ⟨fun h => ?_, fun x t after hsplit _ ht => ?_⟩
    (braces.over_le fun t ht hopen => ?_)
  · exact h _ (List.mem_append_right _ (List.mem_singleton_self _)) rfl
  · have hclosed := hplain t (hsplit ▸ List.mem_append_right _ (List.mem_cons_self ..))
    exact absurd (ht.symm.trans hclosed) nofun
  · have hclosed := hplain t ht
    subst hopen
    cases hclosed

theorem declaration_le_braces : Shape.declaration ≤ braces.safe := by
  have hpercent : Shape.mark .percent ≤ braces.safe :=
    (Over.token_le fun t ht => ht ▸ nofun).trans braces.over_le
  refine Guard.declaration_le rfl (by decide) quantifier_le_braces fun hterm => ?_
  exact braces.safe_closed.mul_le (braces.safe_closed.mul_le hpercent hterm) quantifier_le_braces

/- Separators. -/

/-- No expression begins behind the literals of a separator. -/
def separators : Guard where
  opening := .mark .percent
  unfinished := {v : List Token | Begun Shape.literals v}
  watched := Shape.literals
  refused t := t.opensTerm = true
  of_append h := h.of_append
  watched_le := fun v hv => ⟨[], by rwa [List.append_nil]⟩

/-- What stands between literals and whatever goes on with them is a bar. -/
theorem bar_of_afterLiteral {u : Token} {v later : List Token} (hv : v ∈ afterLiteral 1)
    (h : v ++ u :: later ∈ afterLiteral 1) : u = .mark .bar := by
  rcases mem_afterLiteral.mp hv with rfl | ⟨text, more, rfl, hmore⟩
  · rcases mem_afterLiteral.mp h with h | ⟨_, _, heq, -⟩
    · cases h
    · exact (List.cons.inj heq).1
  · rcases mem_afterLiteral.mp h with h | ⟨_, _, heq, hlonger⟩
    · cases h
    · simp only [List.cons_append, List.cons.injEq, true_and] at heq
      obtain ⟨-, rfl⟩ := heq
      exact bar_of_afterLiteral hmore hlonger
termination_by v.length

theorem bar_of_run {u : Token} {run later : List Token} (hrun : run ∈ Shape.run)
    (h : run ++ u :: later ∈ Shape.run) : u = .mark .bar := by
  rw [← mul_one Shape.run, run_mul_eq] at hrun h
  obtain ⟨_, v, rfl, -, hv⟩ := mem_one_mul.mp hrun
  obtain ⟨_, _, heq, -, hlonger⟩ := mem_one_mul.mp h
  obtain ⟨-, rfl⟩ := List.cons.inj heq
  exact bar_of_afterLiteral hv hlonger

/-- A term of keywords to choose from ends in a run. -/
theorem run_of_choice {inner : Language Token} {w : List Token}
    (h : .mark .dollar :: .ruleName "keyword" :: .ruleName "choice" :: w ∈
      Shape.term Shape.ruleAtom inner) : w ∈ Shape.run := by
  have hkeyword : .ruleName "choice" :: w ∈ Shape.keyword := by
    rcases h with h | ⟨_, ⟨_, rfl⟩, heq⟩ | ⟨_, ⟨_, rfl⟩, heq⟩ | h | ⟨_, ⟨_, rfl⟩, heq⟩ | h
    · obtain ⟨_, _, heq, rfl, -⟩ := mem_one_mul.mp h
      cases heq
    · cases heq
    · cases heq
    · obtain ⟨_, _, heq, rfl, hword⟩ := mem_one_mul.mp h
      obtain ⟨-, rfl⟩ := List.cons.inj heq
      rcases hword with ⟨_, rfl, heq⟩ | hword | hword
      · cases (List.cons.inj heq).2
      · obtain ⟨_, _, heq, rfl, hkeyword⟩ := mem_one_mul.mp hword
        obtain ⟨-, rfl⟩ := List.cons.inj heq
        exact hkeyword
      · obtain ⟨_, _, heq, rfl, -⟩ := mem_one_mul.mp hword
        exact absurd (Token.ruleName.inj (List.cons.inj heq).1) (by decide)
    · cases heq
    · obtain ⟨_, _, heq, ⟨_, rfl⟩, -⟩ := mem_one_mul.mp h
      cases heq
  rcases hkeyword with h | ⟨_, ⟨_, rfl⟩, heq⟩
  · obtain ⟨_, _, heq, -, hrun⟩ := mem_one_mul.mp h
    obtain ⟨-, rfl⟩ := List.cons.inj heq
    exact hrun
  · cases heq

/-- A longer term than one that ends in literals goes on with a bar. -/
theorem bar_of_literals {inner : Language Token} {u : Token} {x later : List Token}
    (hx : x ∈ Shape.literals) (h : x ++ u :: later ∈ Shape.term Shape.ruleAtom inner) :
    u = .mark .bar := by
  rcases hx with hrun | hdollar
  · obtain ⟨_, v, rfl, ⟨text, rfl⟩, -⟩ := mem_one_mul.mp hrun
    rcases h with hgroup | ⟨_, ⟨_, rfl⟩, heq⟩ | hpattern
    · exact absurd hgroup group_literal
    · cases heq
    · exact bar_of_run hrun (patternAtom_literal hpattern)
  · obtain ⟨_, _, rfl, rfl, hkeyword⟩ := mem_one_mul.mp hdollar
    obtain ⟨_, _, rfl, rfl, hchoice⟩ := mem_one_mul.mp hkeyword
    obtain ⟨_, run, rfl, rfl, hrun⟩ := mem_one_mul.mp hchoice
    exact bar_of_run hrun (run_of_choice h)

theorem literals_le_plain :
    Shape.literals ≤ Over fun t => t.opensQuantifier = false := by
  have literal : Shape.literal ≤ Over fun t => t.opensQuantifier = false :=
    Over.token_le fun t ⟨_, ht⟩ => ht ▸ rfl
  have hrun : Shape.run ≤ Over fun t => t.opensQuantifier = false :=
    Over.mul_le literal (Over.kstar_le (Over.mul_le (Over.token_le fun t ht => ht ▸ rfl) literal))
  exact Over.add_le hrun (Over.mul_le (Over.token_le fun t ht => ht ▸ rfl)
    (Over.mul_le (Over.token_le fun t ht => ht ▸ rfl)
      (Over.mul_le (Over.token_le fun t ht => ht ▸ rfl) hrun)))

theorem not_opensTerm_of_opensQuantifier {t : Token} (h : t.opensQuantifier = true) :
    t.opensTerm = false := by
  cases t with
  | mark m => cases m <;> first | rfl | cases h
  | _ => cases h

/-- Behind its term and before its quantifier a separator is not over, and no term goes on. -/
theorem separator_obeyed {inner : Language Token} {term quantifier : List Token}
    (hterm : term ∈ Shape.term Shape.ruleAtom inner) (hquantifier : quantifier ∈ Shape.quantifier) :
    separators.Obeyed (term ++ quantifier) := by
  obtain ⟨s, more, rfl, hs⟩ := starts_quantifier _ hquantifier
  -- The first token of the quantifier is none of the literals that come before it.
  have hfirst : ∀ x ∈ Shape.literals, s ∉ x := fun x hx hmem =>
    absurd (hs.symm.trans (literals_le_plain hx s hmem)) nofun
  refine ⟨?_, fun x u after hsplit hx hu => ?_⟩
  · rintro ⟨later, hlonger⟩
    exact hfirst _ hlonger (by simp)
  rcases split_append hsplit with ⟨d, rfl, -⟩ | ⟨d, rfl, hd⟩
  · rw [bar_of_literals hx hterm] at hu
    cases hu
  · cases d with
    | nil =>
      obtain ⟨rfl, -⟩ := List.cons.inj hd
      exact absurd (hu.symm.trans (not_opensTerm_of_opensQuantifier hs)) nofun
    | cons s' d =>
      obtain ⟨rfl, -⟩ := List.cons.inj hd
      exact hfirst _ hx (by simp)

theorem declaration_le_separators : Shape.declaration ≤ separators.safe := by
  have hquantifier : Shape.quantifier ≤ separators.safe :=
    (Over.quantifier_le (P := (· ≠ .mark .percent)) nofun (by decide)).trans separators.over_le
  refine Guard.declaration_le rfl (by decide) hquantifier fun hterm => ?_
  rw [mul_assoc]
  intro w hw
  obtain ⟨_, v, rfl, rfl, hv⟩ := mem_one_mul.mp hw
  have hsafe := separators.safe_closed.mul_le hterm hquantifier hv
  obtain ⟨term, hterm, quantifier, hquantifier, rfl⟩ := Language.mem_mul.mp hv
  exact Guard.cons_mem_safe (separator_obeyed hterm hquantifier) hsafe

/-- Where a name is wrong nothing that it stands for goes on. -/
theorem Misnamed.not_accepted {x : Expectation} {read : List Token} (h : Misnamed x read) :
    ¬ Accepted Shape.declaration x read := by
  rintro ⟨t, ht, hviable⟩
  cases x with
  | quantifier =>
    obtain ⟨before, inside, rfl, hinside⟩ := h
    exact Guard.not_viable declaration_le_braces
      (fun u hu hclose => hinside (hclose ▸ hu)) (starts_quantifier.heads t ht) hviable
  | tokenExpression =>
    obtain ⟨before, separator, rfl, hseparator⟩ := h
    exact Guard.not_viable declaration_le_separators hseparator (starts_pattern.heads t ht) hviable
  | ruleExpression =>
    obtain ⟨before, separator, rfl, hseparator⟩ := h
    exact Guard.not_viable declaration_le_separators hseparator (starts_rule.heads t ht) hviable
  | _ => exact h.elim

end Grammar
end GrammarText
