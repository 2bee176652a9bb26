/-
What an error says of the token it is about.  Errors are made at single tokens, and merging two of
them or giving one a name leaves the token they are about as it is.
-/
import GrammarText.Proofs.Parser.Composed
import GrammarText.Proofs.Parser.Setback

namespace GrammarText

/-- The error that comes of an outcome, be it of a success or of a failure. -/
def Outcome.setback {α : Type} : Outcome α → Option Setback
  | .done _ _ s => s
  | .failed s => some s

namespace Parser

/- What holds of every error of the parts holds of every error of the whole, if it holds of the one
that comes of two. -/

section

variable {α β : Type} {p o : Parser α} {q : Parser β} {others : List (Parser α)} {stop : Nat}
  {tokens : List Lexeme} {Q Q' : Setback → Prop}

theorem setback_map (f : α → β) (h : ∀ s ∈ (p stop tokens).setback, Q s) :
    ∀ s ∈ (map f p stop tokens).setback, Q s := by
  unfold map
  cases hp : p stop tokens <;> rw [hp] at h <;> exact h

theorem setback_both (hQ : ∀ a b, Q a → Q b → Q (a.furthest b))
    (hp : ∀ s ∈ (p stop tokens).setback, Q s)
    (hq : ∀ value mid, Succeeds p stop tokens value mid → ∀ s ∈ (q stop mid).setback, Q s) :
    ∀ s ∈ (both p q stop tokens).setback, Q s := by
  unfold both
  cases hdone : p stop tokens with
  | failed s =>
    rw [hdone] at hp
    exact hp
  | done value mid s =>
    rw [hdone] at hp
    have hlater := hq value mid ⟨s, hdone⟩
    simp only
    cases hdone' : q stop mid with
    | failed later =>
      rw [hdone'] at hlater
      intro b hb
      obtain rfl := Option.some.inj hb
      exact Setback.max_of hQ (hlater later rfl) hp
    | done value' rest later =>
      rw [hdone'] at hlater
      exact Setback.latest_of hQ hp hlater

theorem setback_firstOf (hQ : ∀ a b, Q a → Q b → Q (a.furthest b))
    (hp : ∀ s ∈ (p stop tokens).setback, Q s)
    (ho : ∀ s ∈ (firstOf o others stop tokens).setback, Q s) :
    ∀ s ∈ (firstOf p (o :: others) stop tokens).setback, Q s := by
  rw [firstOf]
  cases hdone : p stop tokens with
  | done value rest s =>
    rw [hdone] at hp
    exact hp
  | failed s =>
    rw [hdone] at hp
    simp only
    cases hdone' : firstOf o others stop tokens with
    | failed later =>
      rw [hdone'] at ho
      intro b hb
      obtain rfl := Option.some.inj hb
      exact hQ later s (ho later rfl) (hp s rfl)
    | done value rest later =>
      rw [hdone'] at ho
      exact Setback.latest_of hQ hp ho

theorem setback_optional (h : ∀ s ∈ (p stop tokens).setback, Q s) :
    ∀ s ∈ (Parser.optional p stop tokens).setback, Q s := by
  unfold Parser.optional
  cases hp : p stop tokens <;> rw [hp] at h <;> exact h

theorem setback_labelled {name : Expectation} (hname : ∀ s, Q s → Q' (s.withLabel name))
    (h : ∀ s ∈ (p stop tokens).setback, Q s) :
    ∀ s ∈ (labelled name p stop tokens).setback, Q' s := by
  unfold labelled
  cases hp : p stop tokens with
  | failed s =>
    rw [hp] at h
    intro b hb
    obtain rfl := Option.some.inj hb
    exact hname s (h s rfl)
  | done value rest s =>
    rw [hp] at h
    intro b hb
    obtain ⟨s', rfl, rfl⟩ := Option.map_eq_some_iff.mp hb
    exact hname s' (h s' rfl)

theorem setback_checked {check : α → Span → Except ParseError β}
    (hcheck : ∀ value rest span e, Succeeds p stop tokens value rest → check value span = .error e →
      Q ⟨rest.length, e⟩)
    (h : ∀ s ∈ (p stop tokens).setback, Q s) :
    ∀ s ∈ (checked check p stop tokens).setback, Q s := by
  unfold checked
  cases hp : p stop tokens with
  | failed s =>
    rw [hp] at h
    exact h
  | done value rest s =>
    rw [hp] at h
    simp only
    cases hvalue : check value (spanBetween stop tokens rest) with
    | ok result => exact h
    | error e =>
      intro b hb
      obtain rfl := Option.some.inj hb
      exact hcheck value rest _ e ⟨s, hp⟩ hvalue

/-- `R` holds wherever the repetition gets. -/
theorem setback_many (hQ : ∀ a b, Q a → Q b → Q (a.furthest b)) (R : List Lexeme → Prop)
    (hR : R tokens)
    (hp : ∀ mid, R mid → (∀ s ∈ (p stop mid).setback, Q s) ∧
      ∀ value rest, Succeeds p stop mid value rest → R rest) :
    ∀ s ∈ (many p stop tokens).setback, Q s := by
  have hcollect : ∀ limit mid, R mid → ∀ s ∈ (collect p stop limit mid).2.2, Q s := by
    intro limit
    induction limit with
    | zero => exact fun _ _ s hs => absurd hs (Option.not_mem_none s)
    | succ limit ih =>
      intro mid hmid
      obtain ⟨hfirst, hstep⟩ := hp mid hmid
      unfold collect
      cases hdone : p stop mid with
      | failed s =>
        rw [hdone] at hfirst
        exact hfirst
      | done value rest s =>
        rw [hdone] at hfirst
        exact Setback.latest_of hQ hfirst (ih rest (hstep value rest ⟨s, hdone⟩))
  exact hcollect (tokens.length + 1) tokens hR

end

/-- The error is about the first of the tokens that are left, or about the end if none is.  Errors
over values are about other things. -/
def Accuses (stop : Nat) (e : ParseError) : List Lexeme → Prop
  | [] => e.fault = .unexpected → e.span = ⟨stop, stop⟩ ∧ e.found = none
  | t :: _ => e.fault = .unexpected → e.span = t.span ∧ e.found = some t.node

/-- The setback counts the tokens behind the place of its error. -/
def Blames (stop : Nat) (tokens : List Lexeme) (s : Setback) : Prop :=
  ∃ left, left <:+ tokens ∧ left.length = s.left ∧ Accuses stop s.error left

variable {α β : Type} {stop : Nat} {tokens rest left : List Lexeme} {a b s : Setback}
  {e e' : ParseError}

theorem Accuses.imp (h : Accuses stop e left) (hfault : e'.fault = .unexpected →
    e.fault = .unexpected ∧ e'.span = e.span ∧ e'.found = e.found) : Accuses stop e' left := by
  cases left with
  | nil =>
    intro hnew
    obtain ⟨hold, hspan, hfound⟩ := hfault hnew
    rw [hspan, hfound]
    exact h hold
  | cons t left =>
    intro hnew
    obtain ⟨hold, hspan, hfound⟩ := hfault hnew
    rw [hspan, hfound]
    exact h hold

theorem Accuses.merge (he : Accuses stop e left) (he' : Accuses stop e' left)
    (hfault : e.fault = .unexpected) (hfault' : e'.fault = .unexpected) :
    Accuses stop (e.merge e') left := by
  rw [ParseError.merge_of_unexpected hfault hfault']
  refine he.imp fun _ => ⟨hfault, rfl, ?_⟩
  show e.found.or e'.found = e.found
  cases left with
  | nil => rw [(he hfault).2, (he' hfault').2, Option.or_self]
  | cons t left => rw [(he hfault).2, Option.some_or]

/-- An error over the first of the tokens, or over the end, such as a parser of one token makes. -/
structure AtHead (wanted : Expectation) (stop : Nat) (tokens : List Lexeme) (s : Setback) :
    Prop where
  left : s.left = tokens.length
  fault : s.error.fault = .unexpected
  expected : s.error.expected = [] ∨ s.error.expected = [wanted]
  accuses : Accuses stop s.error tokens

theorem setback_exactly {wanted : Expectation} {expected : Token} :
    ∀ s ∈ (Parser.exactly wanted expected stop tokens).setback, AtHead wanted stop tokens s := by
  intro s hs
  unfold Parser.exactly at hs
  cases tokens with
  | nil =>
    obtain rfl := Option.some.inj hs
    exact ⟨rfl, rfl, .inr rfl, fun _ => ⟨rfl, rfl⟩⟩
  | cons t rest =>
    by_cases ht : t.node = expected
    · simp only [ht, if_true] at hs
      cases hs
    · simp only [ht, if_false] at hs
      obtain rfl := Option.some.inj hs
      exact ⟨rfl, rfl, .inr rfl, fun _ => ⟨rfl, rfl⟩⟩

theorem setback_token {wanted : Expectation} {read : Token → Option α} :
    ∀ s ∈ (Parser.token wanted read stop tokens).setback, AtHead wanted stop tokens s := by
  intro s hs
  unfold Parser.token at hs
  cases tokens with
  | nil =>
    obtain rfl := Option.some.inj hs
    exact ⟨rfl, rfl, .inl rfl, fun _ => ⟨rfl, rfl⟩⟩
  | cons t rest =>
    cases hread : read t.node with
    | some value =>
      simp only [hread] at hs
      cases hs
    | none =>
      simp only [hread] at hs
      obtain rfl := Option.some.inj hs
      exact ⟨rfl, rfl, .inr rfl, fun _ => ⟨rfl, rfl⟩⟩

theorem AtHead.blames {wanted : Expectation} (h : AtHead wanted stop tokens s) :
    Blames stop tokens s :=
  ⟨tokens, List.suffix_rfl, h.left.symm, h.accuses⟩

namespace Blames

theorem behind (h : Blames stop rest s) (hrest : rest <:+ tokens) : Blames stop tokens s := by
  obtain ⟨left, hleft, hlen, he⟩ := h
  exact ⟨left, hleft.trans hrest, hlen, he⟩

/-- Setbacks that leave as many tokens leave the same ones. -/
theorem exists_left (ha : Blames stop tokens a) (hb : Blames stop tokens b)
    (hsame : a.left = b.left) : ∃ left, left <:+ tokens ∧ left.length = a.left ∧
      Accuses stop a.error left ∧ Accuses stop b.error left := by
  obtain ⟨left, hleft, hlen, he⟩ := ha
  obtain ⟨left', hleft', hlen', he'⟩ := hb
  -- Tails of one list that are as long as each other are the same.
  obtain rfl : left = left' :=
    (List.suffix_of_suffix_length_le hleft hleft' (by omega)).eq_of_length (by omega)
  exact ⟨left, hleft, hlen, he, he'⟩

theorem furthest (ha : Blames stop tokens a) (hb : Blames stop tokens b) :
    Blames stop tokens (a.furthest b) := by
  rcases a.furthest_cases b with heq | heq | ⟨hsame, hfault, hfault', heq⟩
  · rwa [heq]
  · rwa [heq]
  · obtain ⟨left, hleft, hlen, he, he'⟩ := ha.exists_left hb hsame
    rw [heq]
    exact ⟨left, hleft, hlen, he.merge he' hfault hfault'⟩

theorem withLabel (h : Blames stop tokens s) (name : Expectation) :
    Blames stop tokens (s.withLabel name) := by
  obtain ⟨left, hleft, hlen, he⟩ := h
  exact ⟨left, hleft, hlen, he.imp fun hfault =>
    ⟨(s.error.withLabel_fault name).symm.trans hfault, s.error.withLabel_span name,
      s.error.withLabel_found name⟩⟩

end Blames

namespace Composed

variable {n : Nat} {p : Parser α}

/-- A parser put together from combinators blames the token at which it was stuck. -/
theorem blames (h : Composed n p) (stop : Nat) ⦃tokens : List Lexeme⦄ (hlen : tokens.length < n) :
    ∀ s ∈ (p stop tokens).setback, Blames stop tokens s := by
  have hfurthest : ∀ {tokens : List Lexeme} a b, Blames stop tokens a → Blames stop tokens b →
      Blames stop tokens (a.furthest b) := fun _ _ ha hb => ha.furthest hb
  induction h generalizing tokens with
  | zero => exact absurd hlen (Nat.not_lt_zero _)
  | token => exact fun s hs => (setback_token s hs).blames
  | exactly => exact fun s hs => (setback_exactly s hs).blames
  | map f _ ih => exact setback_map f (ih hlen)
  | both hp _ ihp ihq =>
    refine setback_both hfurthest (ihp hlen) fun value mid hs s hs' => ?_
    have hmid := hp.suffix hlen hs
    exact (ihq (Nat.lt_of_le_of_lt hmid.length_le hlen) s hs').behind hmid
  | behind wanted expected _ ih =>
    refine setback_both hfurthest (fun s hs => (setback_exactly s hs).blames)
      fun value mid hs s hs' => ?_
    obtain ⟨t, rfl, -⟩ := succeeds_exactly.mp hs
    exact (ih (Nat.lt_of_succ_lt_succ hlen) s hs').behind (List.suffix_cons ..)
  | choose _ _ ihp iho => exact setback_firstOf hfurthest (ihp hlen) (iho hlen)
  | optional _ ih => exact setback_optional (ih hlen)
  | many h ih =>
    refine setback_many hfurthest (· <:+ tokens) List.suffix_rfl fun mid hmid => ?_
    have hshort := Nat.lt_of_le_of_lt hmid.length_le hlen
    exact ⟨fun s hs => (ih hshort s hs).behind hmid,
      fun value rest hs => (h.suffix hshort hs).trans hmid⟩
  | labelled name _ ih => exact setback_labelled (fun s hs => hs.withLabel name) (ih hlen)
  | checked hcheck h ih =>
    refine setback_checked (fun value rest span e hs he => ?_) (ih hlen)
    refine ⟨rest, h.suffix hlen hs, rfl, ?_⟩
    rcases hcheck value with ⟨result, hok⟩ | ⟨fault, hfault, herror⟩
    · rw [hok] at he
      cases he
    · rw [herror] at he
      cases he
      cases rest <;> exact fun h => absurd h hfault

end Composed
end Parser
end GrammarText
