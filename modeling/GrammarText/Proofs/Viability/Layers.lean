/-
The layers between a term and a whole expression.  At each of them one token decides whether it goes
on, since what may follow an expression starts with none of the tokens that continue it.
-/
import GrammarText.Proofs.Viability.Atoms

namespace GrammarText

open Computability GrammarText.Parser

namespace Grammar

namespace Shape

variable (T K : Language Token)

/-- What may stand behind the first of some alternatives and before `K`. -/
def afterSequence : Language Token :=
  (mark .bar * sequence T)∗ * K

def afterElement : Language Token :=
  (element T)∗ * afterSequence T K

def afterSeparators : Language Token :=
  (1 + quantifier) * afterElement T K

def afterTerm : Language Token :=
  (mark .percent * T * quantifier)∗ * afterSeparators T K

theorem element_mul_eq : element T * afterElement T K = T * afterTerm T K := by
  unfold element separated afterTerm afterSeparators
  simp only [mul_assoc]

theorem sequence_mul_eq : sequence T * afterSequence T K = T * afterTerm T K := by
  rw [← element_mul_eq]
  unfold sequence afterElement
  rw [mul_assoc]

theorem alternatives_mul_eq : alternatives T * K = T * afterTerm T K := by
  rw [← sequence_mul_eq]
  unfold alternatives afterSequence
  rw [mul_assoc]

end Shape

variable {Leaf : Type} {S S' : Token → Prop} {A D T E K : Language Token} {n m stop : Nat}
  {next : Continuation} {term inner : Parser (Expr Leaf)}

theorem Heads.kstar_mul (hD : Starts S D) (hK : Heads S' K) :
    Heads (fun t => S t ∨ S' t) (D∗ * K) := by
  rw [kstar_mul_eq]
  exact (hD.mul _).heads.add hK

theorem Heads.optional_mul (hA : Starts S A) (hK : Heads S' K) :
    Heads (fun t => S t ∨ S' t) ((1 + A) * K) := by
  rw [add_mul, one_mul, add_comm]
  exact (hA.mul K).heads.add hK

theorem starts_quantifier : Starts (fun t => t.opensQuantifier = true) Shape.quantifier :=
  (quantifier_branch 0 0 fun _ => True).starts

/-- A word that starts with none of the tokens that start a repetition stands behind it. -/
theorem mem_of_mem_kstar_mul (hD : Starts S D) {t : Token} {w : List Token} (ht : ¬ S t)
    (h : t :: w ∈ D∗ * K) : t :: w ∈ K := by
  rw [kstar_mul_eq] at h
  exact h.resolve_left fun h => ht ((hD.mul _).heads t ⟨w, h⟩)

theorem mem_of_mem_optional_mul (hA : Starts S A) {t : Token} {w : List Token} (ht : ¬ S t)
    (h : t :: w ∈ (1 + A) * K) : t :: w ∈ K := by
  rw [add_mul, one_mul] at h
  exact h.resolve_right fun h => ht ((hA.mul _).heads t ⟨w, h⟩)

theorem nil_not_mem_kstar_mul (hD : Starts S D) (hK : [] ∉ K) : [] ∉ D∗ * K := by
  rw [kstar_mul_eq]
  exact fun h => h.elim (hD.mul _).nil_not_mem hK

theorem nil_not_mem_optional_mul (hA : Starts S A) (hK : [] ∉ K) : [] ∉ (1 + A) * K := by
  rw [add_mul, one_mul]
  exact fun h => h.elim hK (hA.mul _).nil_not_mem

/-- What the layers ask of their terms. -/
structure Terms (n stop : Nat) (term : Parser (Expr Leaf)) (T : Language Token) : Prop where
  branch : Branch n stop RunFits term (fun t => t.opensTerm = true) T
  takes : Takes (Opens Token.opensTerm) term
  /-- A term that starts with a literal is a run of literals. -/
  literal : ∀ text w, .literal text :: w ∈ T → .literal text :: w ∈ Shape.run

/-- The parser of a separator with its quantifier. -/
def separator (term : Parser (Expr Leaf)) : Parser (Expr Leaf × Quantifier) :=
  both (after (mark .percent) term) Quantifier.parser

/-- The parser of a further alternative. -/
def alternative (term : Parser (Expr Leaf)) : Parser (Expr Leaf) :=
  after (mark .bar) (Expr.sequenceParser term)

theorem andThen_separator : (separator term).andThen stop next =
    (mark .percent).andThen stop (term.andThen stop (Quantifier.parser.andThen stop next)) := by
  unfold separator
  rw [andThen_both, andThen_after]

theorem andThen_quantifiedParser : (Expr.quantifiedParser term).andThen stop next =
    term.andThen stop ((many (separator term)).andThen stop
      ((optional Quantifier.parser).andThen stop next)) := by
  unfold Expr.quantifiedParser Expr.separatedParser
  rw [andThen_map, andThen_both, andThen_map, andThen_both]
  rfl

theorem andThen_sequenceParser : (Expr.sequenceParser term).andThen stop next =
    (Expr.quantifiedParser term).andThen stop
      ((many (Expr.quantifiedParser term)).andThen stop next) := by
  unfold Expr.sequenceParser many1
  rw [andThen_map, andThen_map, andThen_both]

theorem andThen_alternative : (alternative term).andThen stop next =
    (mark .bar).andThen stop ((Expr.sequenceParser term).andThen stop next) :=
  andThen_after _ _

theorem andThen_layers : (Expr.layers term).andThen stop next =
    (Expr.sequenceParser term).andThen stop ((many (alternative term)).andThen stop next) := by
  unfold Expr.layers
  rw [andThen_map, andThen_both]
  rfl

section

variable (hT : Starts (fun t => t.opensTerm = true) T)
  (hK : Heads (fun t => t.closes = true) K)

include hT in
theorem starts_element : Starts (fun t => t.opensTerm = true) (Shape.element T) :=
  (hT.mul _).mul _

include hK in
theorem heads_afterSequence : Heads (fun t => t.stops = true) (Shape.afterSequence T K) :=
  (Heads.kstar_mul (starts_one.mul _) hK).imp fun t ht => by
    rcases ht with rfl | ht
    · rfl
    · exact stops_of_closes t ht

include hT hK in
theorem heads_afterElement : Heads (fun t => t.follows = true) (Shape.afterElement T K) :=
  (Heads.kstar_mul (starts_element hT) (heads_afterSequence hK)).imp fun t ht => by
    rcases ht with ht | ht
    · simp [Token.follows, ht]
    · exact follows_of_stops t ht

include hT hK in
theorem heads_afterSeparators :
    Heads (fun t => t.opensQuantifier = true ∨ t.follows = true) (Shape.afterSeparators T K) :=
  Heads.optional_mul starts_quantifier (heads_afterElement hT hK)

/- The tokens that continue a layer are none of those that stand behind it. -/

theorem apart_bar (t : Token) (ht : t = .mark .bar) : ¬ t.closes = true := by
  subst ht
  nofun

theorem apart_element (t : Token) (ht : t.opensTerm = true) : ¬ t.stops = true := by
  intro hstops
  rw [not_opensTerm_of_stops t hstops] at ht
  cases ht

theorem apart_quantifier (t : Token) (ht : t.opensQuantifier = true) : ¬ t.follows = true := by
  intro hfollows
  rw [not_opensQuantifier_of_follows t hfollows] at ht
  cases ht

theorem apart_percent (t : Token) (ht : t = .mark .percent) :
    ¬ (t.opensQuantifier = true ∨ t.follows = true) := by
  subst ht
  rintro (h | h) <;> cases h

end

namespace Terms

variable (h : Terms n stop term T) (hK : Heads (fun t => t.closes = true) K)

include h hK

/-- A literal behind a bar starts the next alternative if it does not belong to the run. -/
theorem runFits_afterTerm : RunFits (Shape.afterTerm T K) := by
  intro text w hw
  have hsequence : .mark .bar :: .literal text :: w ∈ Shape.afterSequence T K :=
    mem_of_mem_kstar_mul (starts_element h.branch.starts) nofun
      (mem_of_mem_optional_mul starts_quantifier nofun
        (mem_of_mem_kstar_mul ((starts_one.mul _).mul _) nofun hw))
  unfold Shape.afterSequence at hsequence
  rw [kstar_mul_eq, mul_assoc] at hsequence
  rcases hsequence with hbar | hrest
  · obtain ⟨_, v, heq, -, hv⟩ := mem_one_mul.mp hbar
    obtain ⟨-, rfl⟩ := List.cons.inj heq
    change _ ∈ Shape.sequence T * Shape.afterSequence T K at hv
    rw [Shape.sequence_mul_eq] at hv
    obtain ⟨x, hx, y, hy, heq⟩ := Language.mem_mul.mp hv
    obtain ⟨t, x, rfl, -⟩ := h.branch.starts x hx
    obtain ⟨rfl, rfl⟩ := List.cons.inj heq
    exact Language.append_mem_mul (h.literal text x hx) hy
  · exact absurd (hK _ ⟨_, hrest⟩) nofun

theorem suffix_exact (hnext : Exact m next (Shape.afterElement T K)) :
    Exact m ((optional Quantifier.parser).andThen stop next) (Shape.afterSeparators T K) :=
  hnext.optional (((quantifier_branch (m + 1) stop fun _ => True).exact (Nat.lt_succ_self m)
    trivial hnext).mono (Nat.le_succ m)) Quantifier.parser_spells starts_quantifier
    (heads_afterElement h.branch.starts hK) apart_quantifier

omit hK in
theorem separator_exact (hm : m < n) (hnext : Exact m next K) :
    Exact (m + 1) ((separator term).andThen stop next)
      (Shape.mark .percent * T * Shape.quantifier * K) := by
  have hq := (quantifier_branch (m + 1) stop fun _ => True).exact (Nat.lt_succ_self m)
    trivial hnext
  have hterm := h.branch.exact hm (.of_heads (starts_quantifier.mul _).heads nofun)
    (hq.mono (Nat.le_succ m))
  have hpercent : Exact (m + 1) ((mark .percent).andThen stop _) _ :=
    (hterm.mono (Nat.le_succ m)).mark .percent
  rw [andThen_separator]
  simpa only [mul_assoc] using hpercent

theorem separators_exact (hm : m ≤ n) (hnext : Exact m next (Shape.afterSeparators T K)) :
    Exact m ((many (separator term)).andThen stop next) (Shape.afterTerm T K) :=
  hnext.many (Expr.separator_takes h.takes)
    (fun _ _ hk hlater => h.separator_exact (by omega) hlater)
    ((starts_one.mul _).mul _) (heads_afterSeparators h.branch.starts hK) apart_percent

theorem element_exact (hm : m < n) (hnext : Exact m next (Shape.afterElement T K)) :
    Exact (m + 1) ((Expr.quantifiedParser term).andThen stop next)
      (Shape.element T * Shape.afterElement T K) := by
  rw [andThen_quantifiedParser, Shape.element_mul_eq]
  exact h.branch.exact hm (h.runFits_afterTerm hK)
    (h.separators_exact hK (by omega) (h.suffix_exact hK hnext))

theorem elements_exact (hm : m ≤ n) (hnext : Exact m next (Shape.afterSequence T K)) :
    Exact m ((many (Expr.quantifiedParser term)).andThen stop next) (Shape.afterElement T K) :=
  hnext.many (Expr.quantifiedParser_takes h.takes)
    (fun _ _ hk hlater => h.element_exact hK (by omega) hlater)
    (starts_element h.branch.starts) (heads_afterSequence hK) apart_element

theorem sequence_exact (hm : m < n) (hnext : Exact m next (Shape.afterSequence T K)) :
    Exact (m + 1) ((Expr.sequenceParser term).andThen stop next)
      (Shape.sequence T * Shape.afterSequence T K) := by
  rw [andThen_sequenceParser, Shape.sequence_mul_eq, ← Shape.element_mul_eq]
  exact h.element_exact hK hm (h.elements_exact hK (by omega) hnext)

theorem alternative_exact (hm : m < n) (hnext : Exact m next (Shape.afterSequence T K)) :
    Exact (m + 1) ((alternative term).andThen stop next)
      (Shape.mark .bar * Shape.sequence T * Shape.afterSequence T K) := by
  rw [andThen_alternative, mul_assoc]
  exact ((h.sequence_exact hK hm hnext).mono (Nat.le_succ m)).mark .bar

theorem alternatives_exact (hm : m ≤ n) (hnext : Exact m next K) :
    Exact m ((many (alternative term)).andThen stop next) (Shape.afterSequence T K) :=
  hnext.many (Expr.alternative_takes h.takes)
    (fun _ _ hk hlater => h.alternative_exact hK (by omega) hlater) (starts_one.mul _) hK apart_bar

omit hK

/-- A whole expression. -/
theorem layers : Branch n stop (Heads fun t => t.closes = true) (Expr.layers term)
    (fun t => t.opensTerm = true) (Shape.alternatives T) := by
  refine ⟨Expr.layers_spells h.branch.spells,
    ((starts_element h.branch.starts).mul _).mul _, fun m next K hm hK hnext => ?_⟩
  rw [andThen_layers, Shape.alternatives_mul_eq, ← Shape.sequence_mul_eq]
  exact h.sequence_exact hK hm (h.alternatives_exact hK (by omega) hnext)

end Terms

/-- An expression in parentheses, with one token more. -/
theorem group_branch {P : Language Token → Prop}
    (h : Branch n stop (Heads fun t => t.closes = true) inner S E) (hE : ∃ w, w ∈ E) :
    Branch (n + 1) stop P (Expr.group inner) (· = .mark .openParen) (Shape.group E) := by
  refine ⟨Expr.group_spells h.spells, starts_one.mul _, fun m next K hm _ hK => ?_⟩
  have hclose : Exact m ((mark .closeParen).andThen stop next) (Shape.mark .closeParen * K) :=
    (hK.mark .closeParen).mono (Nat.le_succ m)
  have hinner : Exact m (inner.andThen stop ((mark .closeParen).andThen stop next))
      (E * (Shape.mark .closeParen * K)) := by
    cases m with
    | zero =>
      obtain ⟨v, hv⟩ := hE
      obtain ⟨w, hw⟩ := hclose.inhabited
      exact .zero ⟨v ++ w, Language.append_mem_mul hv hw⟩
    | succ m =>
      refine h.exact (by omega) ((starts_one.mul K).heads.imp fun t ht => ?_)
        (hclose.mono (Nat.le_succ m))
      subst ht
      rfl
  unfold Expr.group Shape.group
  rw [andThen_after, andThen_before, mul_assoc, mul_assoc]
  exact hinner.mark .openParen

end Grammar
end GrammarText
