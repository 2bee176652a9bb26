/-
Two parsers on the same tokens, of which the second gets no further than the first.  The ranks of
errors are compared with a parse without error below all of them, so a smaller rank is further on.
-/
import GrammarText.Proofs.Viability.Layers

namespace GrammarText

open Computability GrammarText.Parser

namespace Setback

theorem against_mono (s : Option Setback) {a b : Option Nat} (h : a ≤ b) :
    against s a ≤ against s b := by
  cases s with
  | none => exact h
  | some s =>
    cases a with
    | none => exact Option.none_le
    | some r =>
      cases b with
      | none => exact h.elim
      | some r' =>
        have hle := Option.some_le_some.mp h
        exact Option.some_le_some.mpr (by omega)

theorem against_le_against {s s' : Setback} (hs : s.rank ≤ s'.rank) {a b : Option Nat}
    (h : a ≤ b) : against (some s) a ≤ against (some s') b := by
  cases a with
  | none => exact Option.none_le
  | some r =>
    cases b with
    | none => exact h.elim
    | some r' =>
      have hle := Option.some_le_some.mp h
      exact Option.some_le_some.mpr (by omega)

end Setback

namespace Grammar

variable {α β : Type} {S S' : Token → Prop} {A D T E K : Language Token} {n m N stop : Nat}
  {first next : Continuation}

theorem andThen_le {p : Parser α} {tokens : List Lexeme}
    (h : ∀ value rest, Succeeds p stop tokens value rest → first rest ≤ next rest) :
    p.andThen stop first tokens ≤ p.andThen stop next tokens := by
  cases hp : p stop tokens with
  | failed s =>
    rw [andThen_of_failed hp, andThen_of_failed hp]
    exact Option.some_le_some.mpr (Nat.le_refl _)
  | done value rest s =>
    rw [andThen_of_done hp, andThen_of_done hp]
    exact Setback.against_mono s (h value rest ⟨s, hp⟩)

theorem length_le_of_takes {P : List Lexeme → Prop} {p : Parser α} (h : Takes P p)
    {tokens rest : List Lexeme} {value : α} (hs : Succeeds p stop tokens value rest) :
    rest.length ≤ tokens.length := by
  obtain ⟨read, rfl, -⟩ := h hs
  rw [List.length_append]
  omega

/-- A mark is read or not, whatever follows. -/
theorem andThen_mark_le (m : Mark) {tokens : List Lexeme}
    (h : ∀ rest, rest.length < tokens.length → first rest ≤ next rest) :
    (mark m).andThen stop first tokens ≤ (mark m).andThen stop next tokens := by
  refine andThen_le fun value rest hs => h rest ?_
  obtain ⟨t, rfl, -⟩ := succeeds_exactly.mp hs
  exact Nat.lt_succ_self _

/-- Before what gets no further than something else, `q` gets no further than `p` before that. -/
def Below (stop N : Nat) (K : Language Token) (p : Parser α) (q : Parser β) : Prop :=
  ∀ ⦃n first next⦄, n < N → Exact n next K →
    (∀ tokens, tokens.length < n → first tokens ≤ next tokens) →
    ∀ tokens, tokens.length < n + 1 → p.andThen stop first tokens ≤ q.andThen stop next tokens

/-- Where `p` fails, `q` does, and no further on. -/
def FailsBelow (stop N : Nat) (p : Parser α) (q : Parser β) : Prop :=
  ∀ tokens, tokens.length < N →
    p.andThen stop (fun _ => none) tokens ≤ q.andThen stop (fun _ => none) tokens

variable {p : Parser α} {q : Parser β}

theorem Below.mono (h : Below stop N K p q) (hm : m ≤ N) : Below stop m K p q :=
  fun _ _ _ hn => h (Nat.lt_of_lt_of_le hn hm)

theorem FailsBelow.mono (h : FailsBelow stop N p q) (hm : m ≤ N) : FailsBelow stop m p q :=
  fun tokens hlen => h tokens (Nat.lt_of_lt_of_le hlen hm)

theorem Below.failsBelow (h : Below stop N 1 p q) : FailsBelow stop N p q :=
  fun tokens hlen => h hlen .ended (fun _ _ => Option.none_le) tokens (Nat.lt_succ_self _)

theorem FailsBelow.failed (h : FailsBelow stop N p q) {tokens : List Lexeme}
    (hlen : tokens.length < N) {s : Setback} (hp : p stop tokens = .failed s) :
    ∃ s', q stop tokens = .failed s' ∧ s.rank ≤ s'.rank := by
  have hle := h tokens hlen
  rw [andThen_of_failed hp] at hle
  cases hq : q.andThen stop (fun _ => none) tokens with
  | none =>
    rw [hq] at hle
    exact hle.elim
  | some rank =>
    rw [hq] at hle
    obtain ⟨s', hs', rfl⟩ := failed_of_andThen hq
    exact ⟨s', hs', Option.some_le_some.mp hle⟩

/-- A repetition of the one gets no further than a repetition of the other.  Where only the second
is at its end, what follows does not go on, for the first would not have. -/
theorem many_below {O : Token → Bool} (hK : Exact m next K) (hnil : [] ∉ K)
    (hp : Takes (Opens O) p) (hq : Takes (Opens O) q)
    (hexact : ∀ k next', k < m → Exact k next' (D∗ * K) →
      Exact (k + 1) (q.andThen stop next') (D * (D∗ * K)))
    (hD : Starts (fun t => O t = true) D) (hheads : Heads S' K)
    (hapart : ∀ t, O t = true → ¬ S' t) (hfails : FailsBelow stop m p q)
    (hbelow : Below stop m (D∗ * K) p q)
    (hfirst : ∀ tokens, tokens.length < m → first tokens ≤ next tokens) :
    ∀ tokens, tokens.length < m →
      (many p).andThen stop first tokens ≤ (many q).andThen stop next tokens := by
  have hmany := hK.many hq hexact hD hheads hapart
  have hbounded : ∀ k, k ≤ m → ∀ tokens, tokens.length < k →
      (many p).andThen stop first tokens ≤ (many q).andThen stop next tokens := by
    intro k
    induction k with
    | zero => exact fun _ tokens hlen => absurd hlen (Nat.not_lt_zero _)
    | succ k ih =>
      intro hk tokens hlen
      have hlater := hmany.mono (Nat.le_of_succ_le hk)
      have hstep := hbelow hk hlater (ih (Nat.le_of_succ_le hk)) tokens hlen
      cases hdone : p stop tokens with
      | failed s =>
        obtain ⟨s', hs', hle⟩ := hfails.failed (by omega) hdone
        rw [andThen_many_of_failed hdone, andThen_many_of_failed hs']
        exact Setback.against_le_against hle (hfirst tokens (by omega))
      | done value rest s =>
        rw [andThen_many_of_done hp hdone]
        cases hdone' : q stop tokens with
        | done value' rest' s' =>
          rw [andThen_many_of_done hq hdone']
          exact hstep
        | failed s' =>
          obtain ⟨read, rfl, ⟨t, more, rfl, ht⟩, -⟩ := hp ⟨s, hdone⟩
          have hrefused : next (t :: more ++ rest) = some (2 * (t :: more ++ rest).length + 1) :=
            hK.refuses hnil (Nat.lt_of_lt_of_le hlen hk)
              fun h => hapart t.node ht (hheads _ h)
          have hle := (hexact k _ hk hlater).rank_le hlen (andThen_of_failed hdone')
          rw [andThen_of_failed hdone'] at hstep
          rw [andThen_many_of_failed hdone']
          show _ ≤ (next (t :: more ++ rest)).map (min s'.rank)
          rw [hrefused, Option.map_some, Nat.min_eq_left hle]
          exact hstep
  exact hbounded m (Nat.le_refl m)

/- A repetition and what is optional do not fail themselves. -/

theorem andThen_over {tokens : List Lexeme}
    (h : ∃ value rest, Succeeds p stop tokens value rest) :
    p.andThen stop (fun _ => none) tokens = none := by
  obtain ⟨value, rest, s, hdone⟩ := h
  rw [andThen_of_done hdone]
  cases s <;> rfl

theorem andThen_many_over : (many p).andThen stop (fun _ => none) = fun _ => none :=
  funext fun _ => andThen_over ⟨_, _, succeeds_many.mpr ⟨rfl, rfl⟩⟩

theorem andThen_optional_over :
    (Parser.optional p).andThen stop (fun _ => none) = fun _ => none := by
  funext tokens
  refine andThen_over ?_
  rcases succeeds_or_fails p stop tokens with ⟨value, rest, h⟩ | h
  · exact ⟨_, _, succeeds_optional.mpr (.inl ⟨value, rfl, h⟩)⟩
  · exact ⟨_, _, succeeds_optional.mpr (.inr ⟨rfl, rfl, h⟩)⟩

/- The layers over two kinds of terms. -/

section

variable {Leaf Leaf' : Type} {term : Parser (Expr Leaf)} {term' : Parser (Expr Leaf')}

theorem quantifiedParser_over :
    (Expr.quantifiedParser term).andThen stop (fun _ => none) =
      term.andThen stop fun _ => none := by
  rw [andThen_quantifiedParser, andThen_optional_over, andThen_many_over]

theorem sequenceParser_over :
    (Expr.sequenceParser term).andThen stop (fun _ => none) =
      term.andThen stop fun _ => none := by
  rw [andThen_sequenceParser, andThen_many_over, quantifiedParser_over]

variable (h : Terms N stop term' T) (htakes : Takes (Opens Token.opensTerm) term)
  (hbelow : ∀ K, RunFits K → Below stop N K term term')

include hbelow in
theorem term_failsBelow : FailsBelow stop N term term' :=
  (hbelow 1 fun _ _ => nofun).failsBelow

include hbelow in
theorem separator_below (K : Language Token) :
    Below stop N K (separator term) (separator term') := by
  intro n first next hn hK hfirst tokens hlen
  rw [andThen_separator, andThen_separator]
  refine andThen_mark_le .percent fun rest hless => ?_
  have hquantifier := ((quantifier_branch (n + 1) stop fun _ => True).exact (Nat.lt_succ_self n)
    trivial hK).mono (Nat.le_succ n)
  refine hbelow _ (.of_heads (starts_quantifier.mul _).heads nofun) hn hquantifier
    (fun mid hmid => andThen_le fun _ last hlast => ?_) rest (by omega)
  exact hfirst last (Nat.lt_trans (Quantifier.parser_takes.length_lt hlast) hmid)

variable (hK : Heads (fun t => t.closes = true) K) (hnil : [] ∉ K)

include hnil

theorem nil_not_mem_afterSequence : [] ∉ Shape.afterSequence T K :=
  nil_not_mem_kstar_mul (starts_one.mul _) hnil

include h

theorem nil_not_mem_afterSeparators : [] ∉ Shape.afterSeparators T K :=
  nil_not_mem_optional_mul starts_quantifier
    (nil_not_mem_kstar_mul (starts_element h.branch.starts) (nil_not_mem_afterSequence hnil))

include htakes hbelow hK

theorem element_below : Below stop N (Shape.afterElement T K) (Expr.quantifiedParser term)
    (Expr.quantifiedParser term') := by
  intro n first next hn hnext hfirst tokens hlen
  have hsuffix := h.suffix_exact hK hnext
  have hsuffixes : ∀ mid : List Lexeme, mid.length < n →
      (Parser.optional Quantifier.parser).andThen stop first mid ≤
        (Parser.optional Quantifier.parser).andThen stop next mid :=
    fun mid hmid => andThen_le fun _ last hlast => hfirst last
      (Nat.lt_of_le_of_lt (length_le_of_takes Quantifier.parser_takes.plain.optional hlast) hmid)
  have hseparators := many_below hsuffix (nil_not_mem_afterSeparators h hnil)
    (Expr.separator_takes htakes) (Expr.separator_takes h.takes)
    (fun _ _ hk hlater => h.separator_exact (by omega) hlater)
    (((starts_one.mul _).mul _).imp fun t ht => decide_eq_true ht)
    (heads_afterSeparators h.branch.starts hK)
    (fun t ht => apart_percent t (of_decide_eq_true ht))
    ((separator_below hbelow 1).failsBelow.mono (by omega))
    ((separator_below hbelow (Shape.afterTerm T K)).mono (by omega)) hsuffixes
  rw [andThen_quantifiedParser, andThen_quantifiedParser]
  exact hbelow _ (h.runFits_afterTerm hK) hn (h.separators_exact hK (by omega) hsuffix)
    hseparators tokens hlen

theorem sequence_below : Below stop N (Shape.afterSequence T K) (Expr.sequenceParser term)
    (Expr.sequenceParser term') := by
  intro n first next hn hnext hfirst tokens hlen
  have helement := element_below h htakes hbelow hK hnil
  have hfails : FailsBelow stop N (Expr.quantifiedParser term) (Expr.quantifiedParser term') := by
    intro mid hmid
    rw [quantifiedParser_over, quantifiedParser_over]
    exact term_failsBelow hbelow mid hmid
  have helements := many_below hnext (nil_not_mem_afterSequence hnil)
    (Expr.quantifiedParser_takes htakes) (Expr.quantifiedParser_takes h.takes)
    (fun _ _ hk hlater => h.element_exact hK (by omega) hlater)
    (starts_element h.branch.starts) (heads_afterSequence hK) apart_element
    (hfails.mono (by omega)) (helement.mono (by omega)) hfirst
  rw [andThen_sequenceParser, andThen_sequenceParser]
  exact helement hn (h.elements_exact hK (by omega) hnext) helements tokens hlen

theorem alternative_below : Below stop N (Shape.afterSequence T K) (alternative term)
    (alternative term') := by
  intro n first next hn hnext hfirst tokens hlen
  rw [andThen_alternative, andThen_alternative]
  exact andThen_mark_le .bar fun rest hless =>
    sequence_below h htakes hbelow hK hnil hn hnext hfirst rest (by omega)

/-- Expressions over terms that get no further get no further themselves. -/
theorem layers_below : Below stop N K (Expr.layers term) (Expr.layers term') := by
  intro n first next hn hnext hfirst tokens hlen
  have hfails : FailsBelow stop N (alternative term) (alternative term') := by
    intro mid hmid
    rw [andThen_alternative, andThen_alternative, sequenceParser_over, sequenceParser_over]
    exact andThen_mark_le .bar fun rest hless => term_failsBelow hbelow rest (by omega)
  have halternatives := many_below hnext hnil (Expr.alternative_takes htakes)
    (Expr.alternative_takes h.takes) (fun _ _ hk hlater => h.alternative_exact hK (by omega) hlater)
    ((starts_one.mul _).imp fun t ht => decide_eq_true ht) hK
    (fun t ht => apart_bar t (of_decide_eq_true ht)) (hfails.mono (by omega))
    ((alternative_below h htakes hbelow hK hnil).mono (by omega)) hfirst
  rw [andThen_layers, andThen_layers]
  exact sequence_below h htakes hbelow hK hnil hn (h.alternatives_exact hK (by omega) hnext)
    halternatives tokens hlen

end

theorem group_below {Leaf Leaf' : Type} {inner : Parser (Expr Leaf)}
    {inner' : Parser (Expr Leaf')}
    (h : ∀ K, Heads (fun t => t.closes = true) K → [] ∉ K → Below stop N K inner inner')
    (K : Language Token) : Below stop (N + 1) K (Expr.group inner) (Expr.group inner') := by
  intro n first next hn hnext hfirst tokens hlen
  unfold Expr.group
  rw [andThen_after, andThen_before, andThen_after, andThen_before]
  refine andThen_mark_le .openParen fun rest hless => ?_
  obtain ⟨k, rfl⟩ : ∃ k, n = k + 1 := ⟨n - 1, by omega⟩
  have hk : k < N := by omega
  refine h _ ((starts_one.mul K).heads.imp fun t ht => by subst ht; rfl)
    (starts_one.mul K).nil_not_mem hk ((hnext.mark .closeParen).mono (by omega))
    (fun mid hmid => andThen_mark_le .closeParen fun last hlast => hfirst last (by omega))
    rest (by omega)

end Grammar
end GrammarText
