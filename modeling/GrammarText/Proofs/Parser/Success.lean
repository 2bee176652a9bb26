/-
Where a combined parser succeeds its parts have succeeded, and these lemmas say on which tokens and
with what.  They are the only place that takes the success of a combinator apart.
-/
import GrammarText.Parser

namespace GrammarText
namespace Parser

variable {α β : Type}

/-- The parser succeeds on the tokens with the value and leaves `rest`. -/
def Succeeds (p : Parser α) (stop : Nat) (tokens : List Lexeme) (value : α)
    (rest : List Lexeme) : Prop :=
  ∃ setback, p stop tokens = .done value rest setback

/-- The parser fails on the tokens. -/
def Fails (p : Parser α) (stop : Nat) (tokens : List Lexeme) : Prop :=
  ∃ setback, p stop tokens = .failed setback

theorem succeeds_or_fails (p : Parser α) (stop : Nat) (tokens : List Lexeme) :
    (∃ value rest, Succeeds p stop tokens value rest) ∨ Fails p stop tokens := by
  cases h : p stop tokens with
  | done value rest setback => exact .inl ⟨value, rest, setback, h⟩
  | failed setback => exact .inr ⟨setback, h⟩

theorem Succeeds.not_fails {p : Parser α} {stop : Nat} {tokens rest : List Lexeme} {value : α}
    (h : Succeeds p stop tokens value rest) : ¬ Fails p stop tokens := by
  intro hs
  obtain ⟨setback, hf⟩ := hs
  obtain ⟨setback', hs⟩ := h
  rw [hs] at hf
  cases hf

/-- A parser has one outcome. -/
theorem Succeeds.unique {p : Parser α} {stop : Nat} {tokens rest rest' : List Lexeme} {a b : α}
    (h : Succeeds p stop tokens a rest) (h' : Succeeds p stop tokens b rest') :
    a = b ∧ rest = rest' := by
  obtain ⟨s, hs⟩ := h
  obtain ⟨s', hs'⟩ := h'
  rw [hs] at hs'
  simp only [Outcome.done.injEq] at hs'
  exact ⟨hs'.1, hs'.2.1⟩

section

variable {p : Parser α} {q : Parser β} {stop : Nat} {tokens rest : List Lexeme}

theorem succeeds_token {wanted : Expectation} {read : Token → Option α} {value : α} :
    Succeeds (token wanted read) stop tokens value rest ↔
      ∃ t, tokens = t :: rest ∧ read t.node = some value := by
  cases tokens with
  | nil => simp [Succeeds, token]
  | cons t more =>
    cases hv : read t.node with
    | none => simp [Succeeds, token, hv]
    | some v =>
      simp only [Succeeds, token, hv, Outcome.done.injEq, List.cons.injEq]
      constructor
      · intro hs
        obtain ⟨s, rfl, rfl, -⟩ := hs
        exact ⟨t, ⟨rfl, rfl⟩, hv⟩
      · intro hs
        obtain ⟨u, ⟨rfl, rfl⟩, hu⟩ := hs
        rw [hv] at hu
        exact ⟨none, Option.some.inj hu, rfl, rfl⟩

theorem succeeds_exactly {wanted : Expectation} {expected : Token} {value : Unit} :
    Succeeds (exactly wanted expected) stop tokens value rest ↔
      ∃ t, tokens = t :: rest ∧ t.node = expected := by
  cases tokens with
  | nil => simp [Succeeds, exactly]
  | cons t more =>
    by_cases ht : t.node = expected
    · simp only [Succeeds, exactly, ht, if_true, Outcome.done.injEq, List.cons.injEq]
      constructor
      · intro hs
        obtain ⟨s, -, rfl, -⟩ := hs
        exact ⟨t, ⟨rfl, rfl⟩, ht⟩
      · intro hs
        obtain ⟨u, ⟨rfl, rfl⟩, -⟩ := hs
        exact ⟨none, trivial, rfl, rfl⟩
    · simp only [Succeeds, exactly, ht, if_false, reduceCtorEq, exists_false, List.cons.injEq,
        false_iff]
      intro hs
      obtain ⟨u, ⟨rfl, -⟩, hu⟩ := hs
      exact ht hu

theorem succeeds_endOfInput {value : Unit} :
    Succeeds endOfInput stop tokens value rest ↔ tokens = [] ∧ rest = [] := by
  cases tokens with
  | nil => simp [Succeeds, endOfInput, eq_comm]
  | cons t more => simp [Succeeds, endOfInput]

theorem succeeds_map {f : α → β} {value : β} :
    Succeeds (map f p) stop tokens value rest ↔
      ∃ a, Succeeds p stop tokens a rest ∧ value = f a := by
  unfold Succeeds map
  cases p stop tokens with
  | failed s => simp
  | done a r s =>
    simp only [Outcome.done.injEq]
    constructor
    · intro hs
      obtain ⟨s', rfl, rfl, rfl⟩ := hs
      exact ⟨a, ⟨s, rfl, rfl, rfl⟩, rfl⟩
    · intro hs
      obtain ⟨b, ⟨s', rfl, rfl, rfl⟩, rfl⟩ := hs
      exact ⟨s, rfl, rfl, rfl⟩

theorem succeeds_both {value : α × β} :
    Succeeds (both p q) stop tokens value rest ↔
      ∃ mid, Succeeds p stop tokens value.1 mid ∧ Succeeds q stop mid value.2 rest := by
  unfold Succeeds both
  cases p stop tokens with
  | failed s => simp
  | done a mid s =>
    constructor
    · intro hs
      obtain ⟨s', h⟩ := hs
      cases hq : q stop mid with
      | failed later => simp [hq] at h
      | done b r later =>
        simp only [hq, Outcome.done.injEq] at h
        obtain ⟨rfl, rfl, -⟩ := h
        exact ⟨mid, ⟨s, rfl⟩, later, hq⟩
    · intro hs
      obtain ⟨mid', ⟨s', h⟩, later, hq⟩ := hs
      simp only [Outcome.done.injEq] at h
      obtain ⟨rfl, rfl, rfl⟩ := h
      simp only [hq]
      exact ⟨_, rfl⟩

theorem succeeds_before {value : α} :
    Succeeds (before p q) stop tokens value rest ↔
      ∃ mid b, Succeeds p stop tokens value mid ∧ Succeeds q stop mid b rest := by
  unfold before
  rw [succeeds_map]
  constructor
  · intro hs
    obtain ⟨⟨a, b⟩, h, rfl⟩ := hs
    obtain ⟨mid, ha, hb⟩ := succeeds_both.mp h
    exact ⟨mid, b, ha, hb⟩
  · intro hs
    obtain ⟨mid, b, ha, hb⟩ := hs
    exact ⟨(value, b), succeeds_both.mpr ⟨mid, ha, hb⟩, rfl⟩

theorem succeeds_after {value : β} :
    Succeeds (after p q) stop tokens value rest ↔
      ∃ mid a, Succeeds p stop tokens a mid ∧ Succeeds q stop mid value rest := by
  unfold after
  rw [succeeds_map]
  constructor
  · intro hs
    obtain ⟨⟨a, b⟩, h, rfl⟩ := hs
    obtain ⟨mid, ha, hb⟩ := succeeds_both.mp h
    exact ⟨mid, a, ha, hb⟩
  · intro hs
    obtain ⟨mid, a, ha, hb⟩ := hs
    exact ⟨(a, value), succeeds_both.mpr ⟨mid, ha, hb⟩, rfl⟩

/-- The first parser decides, and where it fails the others do. -/
theorem succeeds_firstOf_cons {o : Parser α} {others : List (Parser α)} {value : α} :
    Succeeds (firstOf p (o :: others)) stop tokens value rest ↔
      Succeeds p stop tokens value rest ∨
        (Fails p stop tokens ∧ Succeeds (firstOf o others) stop tokens value rest) := by
  unfold Succeeds Fails
  rw [firstOf]
  cases p stop tokens with
  | done a r s => simp
  | failed s =>
    cases firstOf o others stop tokens with
    | failed later => simp
    | done a r later =>
      simp only [Outcome.done.injEq, reduceCtorEq, exists_false, Outcome.failed.injEq,
        exists_eq', true_and, false_or]
      constructor
      · intro hs
        obtain ⟨s', rfl, rfl, -⟩ := hs
        exact ⟨later, rfl, rfl, rfl⟩
      · intro hs
        obtain ⟨s', rfl, rfl, -⟩ := hs
        exact ⟨_, rfl, rfl, rfl⟩

theorem succeeds_optional {value : Option α} :
    Succeeds (optional p) stop tokens value rest ↔
      (∃ a, value = some a ∧ Succeeds p stop tokens a rest) ∨
        (value = none ∧ rest = tokens ∧ Fails p stop tokens) := by
  unfold Succeeds Fails optional
  cases p stop tokens with
  | done a r s =>
    simp only [Outcome.done.injEq, reduceCtorEq, exists_false, and_false, or_false]
    constructor
    · intro hs
      obtain ⟨s', rfl, rfl, rfl⟩ := hs
      exact ⟨a, rfl, s, rfl, rfl, rfl⟩
    · intro hs
      obtain ⟨b, rfl, s', rfl, rfl, rfl⟩ := hs
      exact ⟨s, rfl, rfl, rfl⟩
  | failed s =>
    simp only [Outcome.done.injEq, reduceCtorEq, exists_false, and_false, false_or,
      Outcome.failed.injEq, exists_eq', and_true]
    constructor
    · intro hs
      obtain ⟨s', rfl, rfl, -⟩ := hs
      exact ⟨rfl, rfl⟩
    · intro hs
      obtain ⟨rfl, rfl⟩ := hs
      exact ⟨some s, rfl, rfl, rfl⟩

theorem succeeds_labelled {name : Expectation} {value : α} :
    Succeeds (labelled name p) stop tokens value rest ↔ Succeeds p stop tokens value rest := by
  unfold Succeeds labelled
  cases p stop tokens with
  | failed s => simp
  | done a r s => simp

theorem fails_labelled {name : Expectation} :
    Fails (labelled name p) stop tokens ↔ Fails p stop tokens := by
  unfold Fails labelled
  cases p stop tokens with
  | failed s => simp
  | done a r s => simp

theorem succeeds_spanned {value : Spanned α} :
    Succeeds (spanned p) stop tokens value rest ↔
      Succeeds p stop tokens value.node rest ∧ value.span = spanBetween stop tokens rest := by
  obtain ⟨node, span⟩ := value
  unfold Succeeds spanned
  cases p stop tokens with
  | failed s => simp
  | done a r s =>
    simp only [Outcome.done.injEq, Spanned.mk.injEq]
    constructor
    · intro hs
      obtain ⟨s', ⟨rfl, rfl⟩, rfl, rfl⟩ := hs
      exact ⟨⟨s, rfl, rfl, rfl⟩, rfl⟩
    · intro hs
      obtain ⟨⟨s', rfl, rfl, rfl⟩, rfl⟩ := hs
      exact ⟨s, ⟨rfl, rfl⟩, rfl, rfl⟩

theorem succeeds_checked {check : α → Span → Except ParseError β} {value : β} :
    Succeeds (checked check p) stop tokens value rest ↔
      ∃ a, Succeeds p stop tokens a rest ∧ check a (spanBetween stop tokens rest) = .ok value := by
  unfold Succeeds checked
  cases p stop tokens with
  | failed s => simp
  | done a r s =>
    constructor
    · intro hs
      obtain ⟨s', h⟩ := hs
      cases hc : check a (spanBetween stop tokens r) with
      | error e => simp [hc] at h
      | ok b =>
        simp only [hc, Outcome.done.injEq] at h
        obtain ⟨rfl, rfl, -⟩ := h
        exact ⟨a, ⟨s, rfl⟩, hc⟩
    · intro hs
      obtain ⟨b, ⟨s', h⟩, hc⟩ := hs
      simp only [Outcome.done.injEq] at h
      obtain ⟨rfl, rfl, rfl⟩ := h
      exact ⟨s, by simp only [hc]⟩

/-- One success after the other, up to the tokens on which the parser fails or the limit is met. -/
theorem collect_of_fails (limit : Nat) (h : Fails p stop tokens) :
    (collect p stop (limit + 1) tokens).1 = [] ∧
      (collect p stop (limit + 1) tokens).2.1 = tokens := by
  obtain ⟨s, hs⟩ := h
  simp [collect, hs]

theorem collect_of_succeeds (limit : Nat) {value : α} {mid : List Lexeme}
    (h : Succeeds p stop tokens value mid) :
    (collect p stop (limit + 1) tokens).1 = value :: (collect p stop limit mid).1 ∧
      (collect p stop (limit + 1) tokens).2.1 = (collect p stop limit mid).2.1 := by
  obtain ⟨s, hs⟩ := h
  simp [collect, hs]

/-- What holds wherever a repetition gets holds of what it leaves. -/
theorem collect_invariant {R : List Lexeme → Prop}
    (hstep : ∀ mid value rest, R mid → Succeeds p stop mid value rest → R rest) (hR : R tokens)
    (limit : Nat) : R (collect p stop limit tokens).2.1 := by
  induction limit generalizing tokens with
  | zero => exact hR
  | succ limit ih =>
    rcases succeeds_or_fails p stop tokens with ⟨value, mid, h⟩ | h
    · rw [(collect_of_succeeds limit h).2]
      exact ih (hstep _ _ _ hR h)
    · rw [(collect_of_fails limit h).2]
      exact hR

theorem succeeds_many {values : List α} :
    Succeeds (many p) stop tokens values rest ↔
      (collect p stop (tokens.length + 1) tokens).1 = values ∧
        (collect p stop (tokens.length + 1) tokens).2.1 = rest := by
  unfold Succeeds many
  constructor
  · intro hs
    obtain ⟨s, h⟩ := hs
    simp only [Outcome.done.injEq] at h
    exact ⟨h.1, h.2.1⟩
  · intro hs
    obtain ⟨rfl, rfl⟩ := hs
    exact ⟨_, rfl⟩

theorem succeeds_many1 {values : List α} :
    Succeeds (many1 p) stop tokens values rest ↔
      ∃ first others mid, values = first :: others ∧ Succeeds p stop tokens first mid ∧
        Succeeds (many p) stop mid others rest := by
  unfold many1
  rw [succeeds_map]
  constructor
  · intro hs
    obtain ⟨⟨first, others⟩, h, rfl⟩ := hs
    obtain ⟨mid, hfirst, hothers⟩ := succeeds_both.mp h
    exact ⟨first, others, mid, rfl, hfirst, hothers⟩
  · intro hs
    obtain ⟨first, others, mid, rfl, hfirst, hothers⟩ := hs
    exact ⟨(first, others), succeeds_both.mpr ⟨mid, hfirst, hothers⟩, rfl⟩

end

theorem run_eq_ok {p : Parser α} {stop : Nat} {tokens : List Lexeme} {value : α} :
    run p stop tokens = .ok value ↔ ∃ rest, Succeeds p stop tokens value rest := by
  unfold run Succeeds
  cases p stop tokens with
  | failed s => simp
  | done a r s => simp [eq_comm]

/-- A parser that has to read all tokens succeeds where nothing is left. -/
theorem run_before_endOfInput {p : Parser α} {stop : Nat} {tokens : List Lexeme} {value : α} :
    run (before p endOfInput) stop tokens = .ok value ↔ Succeeds p stop tokens value [] := by
  rw [run_eq_ok]
  constructor
  · intro ⟨rest, h⟩
    obtain ⟨mid, _, hp, hend⟩ := succeeds_before.mp h
    obtain ⟨rfl, -⟩ := succeeds_endOfInput.mp hend
    exact hp
  · intro h
    exact ⟨[], succeeds_before.mpr ⟨[], (), h, succeeds_endOfInput.mpr ⟨rfl, rfl⟩⟩⟩

/-- What stands behind a parser has no part in how the parser fails. -/
theorem run_before_of_error {p : Parser α} {q : Parser β} {stop : Nat} {tokens : List Lexeme}
    {e : ParseError} (h : run p stop tokens = .error e) :
    run (before p q) stop tokens = .error e := by
  unfold run at h ⊢
  unfold before map both
  cases hp : p stop tokens with
  | done value rest s =>
    rw [hp] at h
    cases h
  | failed s =>
    rw [hp] at h
    exact h

end Parser
end GrammarText
