/-
The combinators one by one.  What is right about a language behind a parser is, with the parser
before it, right about the language that the words of the parser are put in front of.
-/
import GrammarText.Proofs.Parser.Composed
import GrammarText.Proofs.Viability.Exact
import GrammarText.Proofs.Viability.Words

namespace GrammarText
open GrammarText.Parser

namespace Parser

variable {α : Type} {stop : Nat} {next : Continuation} {p : Parser α}

/-- What a parser that does not succeed whatever follows comes to. -/
theorem failed_of_andThen {rank : Nat} {tokens : List Lexeme}
    (h : p.andThen stop (fun _ => none) tokens = some rank) :
    ∃ s, p stop tokens = .failed s ∧ s.rank = rank := by
  cases hp : p stop tokens with
  | failed s =>
    rw [andThen_of_failed hp] at h
    exact ⟨s, rfl, Option.some.inj h⟩
  | done value rest s =>
    rw [andThen_of_done hp] at h
    cases s <;> cases h

theorem andThen_firstOf_of_done {others : List (Parser α)} {tokens rest : List Lexeme} {value : α}
    {s : Option Setback} (h : p stop tokens = .done value rest s) :
    (firstOf p others).andThen stop next tokens = p.andThen stop next tokens := by
  cases others with
  | nil => rfl
  | cons o others =>
    unfold andThen firstOf
    rw [h]

theorem andThen_firstOf_of_failed {o : Parser α} {others : List (Parser α)} {tokens : List Lexeme}
    {s : Setback} (h : p stop tokens = .failed s) :
    (firstOf p (o :: others)).andThen stop next tokens =
      Setback.against (some s) ((firstOf o others).andThen stop next tokens) := by
  unfold andThen
  rw [firstOf, h]
  simp only
  cases firstOf o others stop tokens with
  | failed later => exact (Setback.against_rank (some s) later).symm
  | done value rest later => exact Setback.against_latest (some s) later (next rest)

theorem andThen_many_of_failed {tokens : List Lexeme} {s : Setback}
    (h : p stop tokens = .failed s) :
    (many p).andThen stop next tokens = Setback.against (some s) (next tokens) := by
  unfold andThen many collect
  rw [h]
  rfl

/-- A repetition is one round of it and the rest of the rounds. -/
theorem andThen_many_of_done {S : Token → Bool} (htakes : Takes (Opens S) p)
    {tokens rest : List Lexeme} {value : α} {s : Option Setback}
    (h : p stop tokens = .done value rest s) :
    (many p).andThen stop next tokens =
      p.andThen stop ((many p).andThen stop next) tokens := by
  have hless := htakes.length_lt ⟨s, h⟩
  have hcollect : collect p stop (tokens.length + 1) tokens =
      (value :: (collect p stop (rest.length + 1) rest).1,
        (collect p stop (rest.length + 1) rest).2.1,
        Setback.latest s (collect p stop (rest.length + 1) rest).2.2) := by
    rw [collect, h]
    simp only [htakes.collect_limit stop hless (Nat.lt_succ_self _)]
  rw [andThen_of_done h]
  unfold andThen many
  rw [hcollect]
  exact Setback.against_latest s _ _

end Parser

namespace Grammar

open Computability

variable {α β : Type} {K A B D : Language Token} {S S' : Token → Prop}

/-- Every word of the language starts with a token in `S`. -/
def Starts (S : Token → Prop) (D : Language Token) : Prop :=
  ∀ w ∈ D, ∃ t rest, w = t :: rest ∧ S t

/-- Every word of the language that is not empty starts with a token in `S`. -/
def Heads (S : Token → Prop) (K : Language Token) : Prop :=
  ∀ t, Begun K [t] → S t

theorem starts_one : Starts S (Shape.one S) := by
  intro w hw
  obtain ⟨t, ht, rfl⟩ := hw
  exact ⟨t, [], rfl, ht⟩

theorem Starts.nil_not_mem (h : Starts S D) : [] ∉ D := by
  intro hnil
  obtain ⟨t, rest, heq, -⟩ := h [] hnil
  cases heq

theorem Starts.mul (h : Starts S D) (K : Language Token) : Starts S (D * K) := by
  intro w hw
  obtain ⟨a, ha, b, -, rfl⟩ := Language.mem_mul.mp hw
  obtain ⟨t, rest, rfl, ht⟩ := h a ha
  exact ⟨t, rest ++ b, rfl, ht⟩

theorem Starts.imp (h : Starts S D) (hS : ∀ t, S t → S' t) : Starts S' D := by
  intro w hw
  obtain ⟨t, rest, rfl, ht⟩ := h w hw
  exact ⟨t, rest, rfl, hS t ht⟩

theorem Starts.add (hA : Starts S A) (hB : Starts S' B) : Starts (fun t => S t ∨ S' t) (A + B) := by
  intro w hw
  rcases hw with hw | hw
  · exact hA.imp (fun _ => .inl) w hw
  · exact hB.imp (fun _ => .inr) w hw

theorem Starts.heads (h : Starts S D) : Heads S D := by
  intro t ht
  obtain ⟨later, hw⟩ := ht
  obtain ⟨u, rest, heq, hu⟩ := h _ hw
  obtain ⟨rfl, -⟩ := List.cons.inj heq
  exact hu

/-- Words that start with none of the tokens are stuck wherever others are. -/
theorem Starts.stuck (h : Starts S D) {tokens read left : List Lexeme}
    (hnot : ∀ t rest, tokens = t :: rest → ¬ S t.node) (hall : tokens = read ++ left) :
    Stuck D (nodes read) (nodes left) := by
  cases tokens with
  | nil =>
    obtain ⟨rfl, rfl⟩ := List.append_eq_nil_iff.mp hall.symm
    exact h.nil_not_mem
  | cons t rest => exact stuck_of_head (fun ht => hnot t rest rfl (h.heads _ ht)) hall

theorem Heads.imp (h : Heads S K) (hS : ∀ t, S t → S' t) : Heads S' K :=
  fun t ht => hS t (h t ht)

theorem Heads.add (hA : Heads S A) (hB : Heads S' B) : Heads (fun t => S t ∨ S' t) (A + B) :=
  fun t ht => (begun_add.mp ht).imp (hA t) (hB t)

/-- A repetition and what follows: either another round or what follows. -/
theorem kstar_mul_eq (D K : Language Token) : D∗ * K = D * (D∗ * K) + K := by
  calc D∗ * K = (1 + D * D∗) * K := by rw [Language.one_add_self_mul_kstar_eq_kstar]
    _ = D * (D∗ * K) + K := by rw [add_mul, one_mul, mul_assoc, add_comm]

/-- The parser reads one token, which is in `S`, or reports the token where it stands. -/
def ReadsOne (stop : Nat) (p : Parser α) (S : Token → Prop) : Prop :=
  ∀ next : Continuation, p.andThen stop next [] = some 1 ∧ ∀ t rest,
    (S t.node → p.andThen stop next (t :: rest) = next rest) ∧
      (¬ S t.node → p.andThen stop next (t :: rest) = some (2 * (rest.length + 1) + 1))

theorem readsOne_exactly (stop : Nat) (wanted : Expectation) (expected : Token) :
    ReadsOne stop (exactly wanted expected) (· = expected) := by
  refine fun next => ⟨rfl, fun t rest => ⟨fun ht => ?_, fun ht => ?_⟩⟩
  · unfold andThen exactly
    simp only [ht, if_true]
    rfl
  · unfold andThen exactly
    simp only [ht, if_false]
    rfl

theorem readsOne_mark (stop : Nat) (m : Mark) :
    ReadsOne stop (Parser.mark m) (· = .mark m) :=
  readsOne_exactly stop _ _

theorem readsOne_token (stop : Nat) (wanted : Expectation) {read : Token → Option α}
    (hS : ∀ t, (read t).isSome ↔ S t) : ReadsOne stop (token wanted read) S := by
  refine fun next => ⟨rfl, fun t rest => ⟨fun ht => ?_, fun ht => ?_⟩⟩
  · obtain ⟨value, hvalue⟩ := Option.isSome_iff_exists.mp ((hS t.node).mpr ht)
    unfold andThen token
    simp only [hvalue]
    rfl
  · have hnone : read t.node = none := by
      rwa [← Option.not_isSome_iff_eq_none, hS]
    unfold andThen token
    simp only [hnone]
    rfl

theorem ReadsOne.labelled {stop : Nat} {p : Parser α} (h : ReadsOne stop p S)
    (name : Expectation) : ReadsOne stop (Parser.labelled name p) S := by
  intro next
  rw [andThen_labelled]
  exact h next

namespace Exact

variable {n m stop : Nat} {next : Continuation} {p : Parser α}

theorem readsOne (h : Exact n next K) (hp : ReadsOne stop p S) (hS : ∃ t, S t) :
    Exact (n + 1) (p.andThen stop next) (Shape.one S * K) := by
  have hinhabited : ∃ w, w ∈ Shape.one S * K := by
    obtain ⟨t, ht⟩ := hS
    obtain ⟨w, hw⟩ := h.inhabited
    exact ⟨t :: w, mem_one_mul.mpr ⟨t, w, rfl, ht, hw⟩⟩
  have hnot : ∀ {t : Token}, ¬ S t → ¬ Begun (Shape.one S * K) [t] :=
    fun ht hbegun => ht (begun_one_mul.mp hbegun).1
  refine ⟨hinhabited, fun tokens rank hlen hfails => ?_, fun tokens hlen hsucceeds => ?_⟩
  · cases tokens with
    | nil =>
      rw [(hp next).1] at hfails
      obtain rfl := Option.some.inj hfails
      exact points_nil hinhabited (starts_one.mul K).nil_not_mem
    | cons t rest =>
      by_cases ht : S t.node
      · rw [((hp next).2 t rest).1 ht] at hfails
        obtain ⟨read, left, rfl, hbegun, hrank⟩ :=
          h.fails (Nat.lt_of_succ_lt_succ hlen) hfails
        refine ⟨t :: read, left, rfl, begun_one_mul.mpr ⟨ht, hbegun⟩, ?_⟩
        rcases hrank with ⟨hrank, hstuck⟩ | ⟨hrank, -⟩
        · exact .inl ⟨hrank, hstuck.one_mul⟩
        · exact .inr ⟨hrank, List.cons_ne_nil _ _⟩
      · rw [((hp next).2 t rest).2 ht] at hfails
        obtain rfl := Option.some.inj hfails
        exact points_head hinhabited (hnot ht)
  · cases tokens with
    | nil =>
      rw [(hp next).1] at hsucceeds
      cases hsucceeds
    | cons t rest =>
      refine .inr ⟨t, rest, rfl, ?_⟩
      by_cases ht : S t.node
      · exact begun_one_mul.mpr ⟨ht, h.inhabited⟩
      · rw [((hp next).2 t rest).2 ht] at hsucceeds
        cases hsucceeds

theorem mark (h : Exact n next K) (m : Mark) :
    Exact (n + 1) ((Parser.mark m).andThen stop next) (Shape.mark m * K) :=
  h.readsOne (readsOne_mark stop m) ⟨_, rfl⟩

/-- What comes behind a success leaves less than was there. -/
theorem rank_lt (h : Exact n next K) {tokens rest : List Lexeme} {value : α}
    {setback : Option Setback} (hlen : tokens.length < n + 1) (hless : rest.length < tokens.length)
    (hdone : p stop tokens = .done value rest setback) {rank : Nat}
    (hrank : p.andThen stop next tokens = some rank) : rank < 2 * tokens.length + 1 := by
  rw [andThen_of_done hdone] at hrank
  cases setback with
  | none =>
    have := h.rank_le (by omega) hrank
    omega
  | some s =>
    obtain ⟨r, hr, rfl⟩ := Option.map_eq_some_iff.mp hrank
    have := h.rank_le (by omega) hr
    omega

/-- A word that is not empty leaves less than there was. -/
theorem length_lt_of_spells (hp : Takes (Spells A) p) (hA : Starts S A)
    {tokens rest : List Lexeme} {value : α} (hs : Succeeds p stop tokens value rest) :
    rest.length < tokens.length := by
  obtain ⟨read, rfl, hread⟩ := hp hs
  cases read with
  | nil => exact absurd hread hA.nil_not_mem
  | cons t read =>
    rw [List.length_append, List.length_cons]
    omega

theorem firstOf {o : Parser α} {others : List (Parser α)} (hK : Exact m next K)
    (hp : Exact (m + 1) (p.andThen stop next) (A * K))
    (ho : Exact (m + 1) ((Parser.firstOf o others).andThen stop next) (B * K))
    (hspells : Takes (Spells A) p) (hA : Starts S A) (hB : Starts S' B)
    (hapart : ∀ t, S t → ¬ S' t) :
    Exact (m + 1) ((Parser.firstOf p (o :: others)).andThen stop next) ((A + B) * K) := by
  rw [add_mul]
  refine hp.choice ho (fun t ht ht' =>
    hapart t ((hA.mul K).heads t ht) ((hB.mul K).heads t ht')) fun tokens hlen => ?_
  cases hdone : p stop tokens with
  | done value rest s =>
    have hless := length_lt_of_spells hspells hA ⟨s, hdone⟩
    exact .inl ⟨andThen_firstOf_of_done hdone, fun rank => hK.rank_lt hlen hless hdone⟩
  | failed s =>
    refine .inr ⟨s.rank, andThen_of_failed hdone, ?_⟩
    rw [andThen_firstOf_of_failed hdone]
    rfl

theorem optional (hK : Exact m next K) (hp : Exact m (p.andThen stop next) (A * K))
    (hspells : Takes (Spells A) p) (hA : Starts S A) (hheads : Heads S' K)
    (hapart : ∀ t, S t → ¬ S' t) :
    Exact m ((Parser.optional p).andThen stop next) ((1 + A) * K) := by
  have hlanguage : (1 + A) * K = A * K + K := by rw [add_mul, one_mul, add_comm]
  rw [hlanguage]
  refine hp.choice hK (fun t ht ht' => hapart t ((hA.mul K).heads t ht) (hheads t ht'))
    fun tokens hlen => ?_
  cases hdone : p stop tokens with
  | done value rest s =>
    have hless := length_lt_of_spells hspells hA ⟨s, hdone⟩
    refine .inl ⟨?_, fun rank => hK.rank_lt (by omega) hless hdone⟩
    unfold andThen Parser.optional
    rw [hdone]
    rfl
  | failed s =>
    refine .inr ⟨s.rank, andThen_of_failed hdone, ?_⟩
    unfold andThen Parser.optional
    rw [hdone]
    rfl

/-- A repetition, which ends where what follows begins. -/
theorem many {T : Token → Bool} (hK : Exact m next K) (htakes : Takes (Opens T) p)
    (hp : ∀ k next', k < m → Exact k next' (D∗ * K) →
      Exact (k + 1) (p.andThen stop next') (D * (D∗ * K)))
    (hD : Starts S D) (hheads : Heads S' K) (hapart : ∀ t, S t → ¬ S' t) :
    Exact m ((Parser.many p).andThen stop next) (D∗ * K) := by
  have hbounded : ∀ k, k ≤ m → Exact k ((Parser.many p).andThen stop next) (D∗ * K) := by
    intro k
    induction k with
    | zero =>
      intro _
      obtain ⟨w, hw⟩ := hK.inhabited
      refine .zero ⟨w, ?_⟩
      rw [kstar_mul_eq]
      exact .inr hw
    | succ k ih =>
      intro hk
      have hmany := ih (by omega)
      rw [kstar_mul_eq]
      refine (hp k _ (by omega) hmany).choice (hK.mono hk)
        (fun t ht ht' => hapart t ((hD.mul _).heads t ht) (hheads t ht')) fun tokens hlen => ?_
      cases hdone : p stop tokens with
      | done value rest s =>
        exact .inl ⟨andThen_many_of_done htakes hdone,
          fun rank => hmany.rank_lt hlen (htakes.length_lt ⟨s, hdone⟩) hdone⟩
      | failed s =>
        exact .inr ⟨s.rank, andThen_of_failed hdone, andThen_many_of_failed hdone⟩
  exact hbounded m (Nat.le_refl m)

/-- A check that fails is about words that were read in full. -/
theorem checked {check : α → Span → Except ParseError β} (hcheck : ChecksValue check)
    (hspells : Takes (Spells D) p) (hD : Starts S D) (hK : ∃ w, w ∈ K)
    (h : Exact n (p.andThen stop next) (D * K)) :
    Exact n ((Parser.checked check p).andThen stop next) (D * K) := by
  have hsame : ∀ tokens, (Parser.checked check p).andThen stop next tokens =
        p.andThen stop next tokens ∨
      ∃ value rest, Succeeds p stop tokens value rest ∧
        (Parser.checked check p).andThen stop next tokens = some (2 * rest.length) := by
    intro tokens
    unfold andThen Parser.checked
    cases hdone : p stop tokens with
    | failed s => exact .inl rfl
    | done value rest s =>
      rcases hcheck value with ⟨result, hok⟩ | ⟨fault, hfault, herror⟩
      · refine .inl ?_
        simp only [hok]
        cases s <;> rfl
      · refine .inr ⟨value, rest, ⟨s, hdone⟩, ?_⟩
        simp only [herror, Outcome.andThen, Setback.rank, ParseError.isSpecific]
        simp [hfault]
  refine ⟨h.inhabited, fun tokens rank hlen hfails => ?_, fun tokens hlen hsucceeds => ?_⟩
  · rcases hsame tokens with heq | ⟨value, rest, hread, heq⟩
    · exact h.fails hlen (heq ▸ hfails)
    · rw [heq] at hfails
      obtain rfl := Option.some.inj hfails
      obtain ⟨read, rfl, hmem⟩ := hspells hread
      have hne : read ≠ [] := by
        rintro rfl
        exact hD.nil_not_mem hmem
      have hbegun : Begun D (nodes read) := ⟨[], by rwa [List.append_nil]⟩
      exact ⟨read, rest, rfl, hbegun.mul hK, .inr ⟨rfl, hne⟩⟩
  · rcases hsame tokens with heq | ⟨value, rest, hread, heq⟩
    · exact h.succeeds hlen (heq ▸ hsucceeds)
    · rw [heq] at hsucceeds
      cases hsucceeds

end Exact

/-- A parser that may be one of a choice.  It reads words of `A`, which start with tokens in `S`.
Before what is right about a language with the property `P` it is right about `A` before that. -/
structure Branch (n stop : Nat) (P : Language Token → Prop) (p : Parser α) (S : Token → Prop)
    (A : Language Token) : Prop where
  spells : Takes (Spells A) p
  starts : Starts S A
  exact : ∀ ⦃m next K⦄, m < n → P K → Exact m next K → Exact (m + 1) (p.andThen stop next) (A * K)

namespace Branch

variable {n stop : Nat} {P Q : Language Token → Prop} {p : Parser α} {q : Parser β}

theorem mark (n stop : Nat) (P : Language Token → Prop) (m : Mark) :
    Branch n stop P (Parser.mark m) (· = .mark m) (Shape.mark m) :=
  ⟨spells_mark m, starts_one, fun _ _ _ _ _ h => h.mark m⟩

theorem readsOne (hspells : Takes (Spells (Shape.one S)) p) (h : ReadsOne stop p S)
    (hS : ∃ t, S t) : Branch n stop P p S (Shape.one S) :=
  ⟨hspells, starts_one, fun _ _ _ _ _ hK => hK.readsOne h hS⟩

theorem map (h : Branch n stop P p S A) (f : α → β) : Branch n stop P (Parser.map f p) S A :=
  ⟨h.spells.map, h.starts, fun _ _ _ hm hP hK => by rw [andThen_map]; exact h.exact hm hP hK⟩

theorem labelled (h : Branch n stop P p S A) (name : Expectation) :
    Branch n stop P (Parser.labelled name p) S A :=
  ⟨h.spells.labelled, h.starts, fun _ _ _ hm hP hK => by
    rw [andThen_labelled]; exact h.exact hm hP hK⟩

theorem checked {check : α → Span → Except ParseError β} (h : Branch n stop P p S A)
    (hcheck : ChecksValue check) : Branch n stop P (Parser.checked check p) S A :=
  ⟨h.spells.checked, h.starts, fun _ _ _ hm hP hK =>
    (h.exact hm hP hK).checked hcheck h.spells h.starts hK.inhabited⟩

theorem after (hp : Branch n stop (fun _ => True) p S A) (hq : Branch n stop P q S' B) :
    Branch n stop P (Parser.after p q) S (A * B) :=
  ⟨spells_after hp.spells hq.spells, hp.starts.mul B, fun m _ _ hm hP hK => by
    rw [andThen_after, mul_assoc]
    exact hp.exact hm trivial ((hq.exact hm hP hK).mono (Nat.le_succ m))⟩

/-- A choice with one branch alone. -/
theorem only (h : Branch n stop P p S A) : Branch n stop P (Parser.firstOf p []) S A :=
  h

/-- One branch or the others, which start with other tokens. -/
theorem firstOf {o : Parser α} {others : List (Parser α)} (hp : Branch n stop P p S A)
    (ho : Branch n stop P (Parser.firstOf o others) S' B) (hapart : ∀ t, S t → ¬ S' t) :
    Branch n stop P (Parser.firstOf p (o :: others)) (fun t => S t ∨ S' t) (A + B) :=
  ⟨spells_firstOf hp.spells ho.spells, hp.starts.add ho.starts, fun _ _ _ hm hP hK =>
    hK.firstOf (hp.exact hm hP hK) (ho.exact hm hP hK) hp.spells hp.starts ho.starts hapart⟩

theorem length_lt (h : Branch n stop P p S A) {tokens rest : List Lexeme} {value : α}
    (hs : Succeeds p stop tokens value rest) : rest.length < tokens.length :=
  Exact.length_lt_of_spells h.spells h.starts hs

/-- Where a branch fails it fails among the tokens it is given. -/
theorem rank_le (h : Branch n stop P p S A) (hP : P 1) {tokens : List Lexeme}
    (hlen : tokens.length < n) {s : Setback} (hs : p stop tokens = .failed s) :
    s.rank ≤ 2 * tokens.length + 1 :=
  (h.exact hlen hP .ended).rank_le (Nat.lt_succ_self _) (andThen_of_failed hs)

/-- A branch fails at a token that none of its words starts with. -/
theorem refuses (h : Branch n stop P p S A) (hP : P 1) {t : Lexeme} {rest : List Lexeme}
    (hlen : (t :: rest).length < n) (ht : ¬ S t.node) :
    ∃ s, p stop (t :: rest) = .failed s ∧ s.rank = 2 * (rest.length + 1) + 1 :=
  failed_of_andThen ((h.exact hlen hP .ended).refuses (h.starts.mul 1).nil_not_mem
    (Nat.lt_succ_self _) fun hbegun => ht ((h.starts.mul 1).heads _ hbegun))

theorem imp (h : Branch n stop P p S A) (hS : ∀ t, S t → S' t) (hP : ∀ K, Q K → P K) :
    Branch n stop Q p S' A :=
  ⟨h.spells, h.starts.imp hS, fun _ _ K hm hQ hK => h.exact hm (hP K hQ) hK⟩

end Branch
end Grammar
end GrammarText
