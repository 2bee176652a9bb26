/-
The parsers below the expressions: quantifiers, runs of literals and the other terms that are no
groups.  A run takes every literal that a bar joins to it, so it is right about what follows only
where what follows would go on with such a literal in the same way.
-/
import GrammarText.Proofs.Grammar.Completeness
import GrammarText.Proofs.Viability.Words
import GrammarText.Proofs.Viability.Combinators

namespace GrammarText

open Computability GrammarText.Parser

namespace Grammar

variable {α : Type} {K : Language Token} {n m stop : Nat} {next : Continuation}

section

variable (n stop : Nat) (P : Language Token → Prop)

theorem word_branch (w : Word) :
    Branch n stop P (Pattern.word w) (· = .ruleName w.text) (Shape.word w.text) :=
  .readsOne (spells_word w) ((readsOne_exactly stop _ _).labelled _) ⟨_, rfl⟩

theorem tokenName_branch :
    Branch n stop P Pattern.tokenName (fun t => ∃ name, t = .tokenName name) Shape.tokenName :=
  .readsOne Pattern.tokenName_spells (readsOne_token stop _ fun t => by cases t <;> simp)
    ⟨.tokenName "", "", rfl⟩

theorem ruleName_branch :
    Branch n stop P Rule.ruleName (fun t => ∃ name, t = .ruleName name) Shape.ruleName :=
  .readsOne Rule.ruleName_spells (readsOne_token stop _ fun t => by cases t <;> simp)
    ⟨.ruleName "", "", rfl⟩

theorem regex_branch :
    Branch n stop P Pattern.regex (fun t => ∃ body, t = .regex body) Shape.regex :=
  .readsOne Pattern.regex_spells (readsOne_token stop _ fun t => by cases t <;> simp)
    ⟨.regex "", "", rfl⟩

theorem integer_branch :
    Branch n stop P Quantifier.integer (fun t => ∃ value, t = .integer value) Shape.integer :=
  .readsOne Quantifier.integer_spells (readsOne_token stop _ fun t => by cases t <;> simp)
    ⟨.integer 0, 0, rfl⟩

theorem readsOne_literal :
    ReadsOne stop Pattern.literal fun t => ∃ text, t = .literal text :=
  readsOne_token stop _ fun t => by cases t <;> simp

theorem literal_branch :
    Branch n stop P Pattern.literal (fun t => ∃ text, t = .literal text) Shape.literal :=
  .readsOne Pattern.literal_spells (readsOne_literal stop) ⟨.literal "", "", rfl⟩

end

/- Quantifiers. -/

theorem bounds_branch (n stop : Nat) (P : Language Token → Prop) :
    Branch n stop P Quantifier.bounds (· = .mark .openBrace) Shape.bounds := by
  refine ⟨Quantifier.bounds_spells, starts_one.mul _, fun m next K _ _ hK => ?_⟩
  have hlt : m < m + 1 := Nat.lt_succ_self m
  have hclose : Exact m ((mark .closeBrace).andThen stop next) (Shape.mark .closeBrace * K) :=
    (hK.mark .closeBrace).mono (Nat.le_succ m)
  have hmax := (integer_branch (m + 1) stop (fun _ => True)).exact hlt trivial hclose
  have hupper := hclose.optional (hmax.mono (Nat.le_succ m)) Quantifier.integer_spells
    starts_one (starts_one.mul K).heads (by rintro t ⟨value, rfl⟩; nofun)
  have hrange : Exact m ((mark .range).andThen stop _) _ :=
    (hupper.mark .range).mono (Nat.le_succ m)
  rw [← andThen_after, ← mul_assoc] at hrange
  have hbehind := hclose.optional hrange
    (spells_after (spells_mark _) (spells_optional Quantifier.integer_spells))
    (starts_one.mul _) (starts_one.mul K).heads (by rintro t rfl; nofun)
  have hmin := (integer_branch (m + 1) stop (fun _ => True)).exact hlt trivial hbehind
  have hall : Exact (m + 1) ((mark .openBrace).andThen stop _) _ :=
    (hmin.mono (Nat.le_succ m)).mark .openBrace
  unfold Quantifier.bounds Shape.bounds
  rw [andThen_after, andThen_before, andThen_both]
  simpa only [mul_assoc] using hall

theorem quantifier_branch (n stop : Nat) (P : Language Token → Prop) :
    Branch n stop P Quantifier.parser (fun t => t.opensQuantifier = true) Shape.quantifier := by
  have hbounds := (bounds_branch n stop P).checked Quantifier.ofWritten_checksValue
  have hplus := Branch.firstOf ((Branch.mark n stop P .plus).map fun _ => Quantifier.oneOrMore)
    hbounds.only
    (by rintro t rfl; nofun)
  have hstar := Branch.firstOf ((Branch.mark n stop P .star).map fun _ => Quantifier.zeroOrMore)
    hplus (by rintro t rfl h; rcases h with h | h <;> cases h)
  have hall := Branch.firstOf ((Branch.mark n stop P .question).map fun _ => Quantifier.optional)
    hstar (by rintro t rfl h; rcases h with h | h | h <;> cases h)
  refine (hall.labelled .quantifier).imp (fun t ht => ?_) fun _ => id
  rcases ht with rfl | rfl | rfl | rfl <;> rfl

/- Runs of literals. -/

/-- A literal behind a bar that may follow may as well be taken for a part of a run. -/
def RunFits (K : Language Token) : Prop :=
  ∀ text w, .mark .bar :: .literal text :: w ∈ K → .literal text :: w ∈ Shape.run * K

theorem RunFits.of_heads {S : Token → Prop} (h : Heads S K) (hbar : ¬ S (.mark .bar)) :
    RunFits K :=
  fun text w hw => absurd (h _ ⟨.literal text :: w, hw⟩) hbar

/-- What may follow a literal of a run. -/
def afterLiteral (K : Language Token) : Language Token :=
  (Shape.mark .bar * Shape.literal)∗ * K

theorem afterLiteral_eq (K : Language Token) :
    afterLiteral K = K + Shape.mark .bar * (Shape.literal * afterLiteral K) := by
  calc afterLiteral K = Shape.mark .bar * Shape.literal * afterLiteral K + K := kstar_mul_eq _ _
    _ = K + Shape.mark .bar * (Shape.literal * afterLiteral K) := by rw [mul_assoc, add_comm]

theorem mem_afterLiteral {w : List Token} : w ∈ afterLiteral K ↔
    w ∈ K ∨ ∃ text v, w = .mark .bar :: .literal text :: v ∧ v ∈ afterLiteral K := by
  constructor
  · intro h
    rw [afterLiteral_eq] at h
    refine h.imp_right fun h => ?_
    obtain ⟨t, rest, rfl, rfl, hrest⟩ := mem_one_mul.mp h
    obtain ⟨t, v, rfl, ⟨text, rfl⟩, hv⟩ := mem_one_mul.mp hrest
    exact ⟨text, v, rfl, hv⟩
  · intro h
    rw [afterLiteral_eq]
    refine h.imp_right fun h => ?_
    obtain ⟨text, v, rfl, hv⟩ := h
    exact mem_one_mul.mpr ⟨_, _, rfl, rfl, mem_one_mul.mpr ⟨_, _, rfl, ⟨text, rfl⟩, hv⟩⟩

theorem run_mul_eq (K : Language Token) :
    Shape.run * K = Shape.literal * afterLiteral K := by
  unfold Shape.run afterLiteral
  rw [mul_assoc]

/-- Behind a bar and a literal it is as before. -/
theorem afterLiteral_joined (hfits : RunFits K) {text : String} {w : List Token} :
    .mark .bar :: .literal text :: w ∈ afterLiteral K ↔ w ∈ afterLiteral K := by
  constructor
  · intro h
    rcases mem_afterLiteral.mp h with h | ⟨text', v, heq, hv⟩
    · have hrun := hfits text w h
      rw [run_mul_eq] at hrun
      obtain ⟨t, v, heq, -, hv⟩ := mem_one_mul.mp hrun
      rwa [(List.cons.inj heq).2]
    · simp only [List.cons.injEq, true_and] at heq
      rwa [heq.2]
  · intro h
    exact mem_afterLiteral.mpr (.inr ⟨text, w, rfl, h⟩)

theorem begun_joined (hfits : RunFits K) {text : String} {v : List Token} :
    Begun (afterLiteral K) (.mark .bar :: .literal text :: v) ↔ Begun (afterLiteral K) v := by
  unfold Begun
  simp only [List.cons_append, afterLiteral_joined hfits]

theorem Stuck.joined (hfits : RunFits K) {text : String} {read left : List Token}
    (h : Stuck (afterLiteral K) read left) :
    Stuck (afterLiteral K) (.mark .bar :: .literal text :: read) left := by
  cases left with
  | nil => exact fun hword => h ((afterLiteral_joined hfits).mp hword)
  | cons t more => exact fun hword => h ((begun_joined hfits).mp hword)

/-- What becomes of a bar and a literal: both are there, or the first token is no bar, or it is one
and no literal follows. -/
theorem joined_cases (stop : Nat) (tokens : List Lexeme) :
    (∃ t u more text, tokens = t :: u :: more ∧ t.node = .mark .bar ∧ u.node = .literal text ∧
      after (mark .bar) Pattern.literal stop tokens = .done text more none) ∨
    ∃ s, after (mark .bar) Pattern.literal stop tokens = .failed s ∧
      (((∀ t rest, tokens = t :: rest → ¬ t.node = .mark .bar) ∧
          s.rank = 2 * tokens.length + 1) ∨
        ∃ t rest, tokens = t :: rest ∧ t.node = .mark .bar ∧ s.rank = 2 * rest.length + 1 ∧
          ∀ u more, rest = u :: more → ¬ ∃ text, u.node = .literal text) := by
  have hbar := readsOne_mark stop .bar (Pattern.literal.andThen stop fun _ => none)
  have hliteral := readsOne_literal stop fun _ => none
  rw [← andThen_after] at hbar
  cases tokens with
  | nil =>
    obtain ⟨s, hs, hrank⟩ := failed_of_andThen hbar.1
    exact .inr ⟨s, hs, .inl ⟨nofun, hrank⟩⟩
  | cons t rest =>
    by_cases ht : t.node = .mark .bar
    · have hfirst := (hbar.2 t rest).1 ht
      cases rest with
      | nil =>
        rw [hliteral.1] at hfirst
        obtain ⟨s, hs, hrank⟩ := failed_of_andThen hfirst
        exact .inr ⟨s, hs, .inr ⟨t, [], rfl, ht, hrank, nofun⟩⟩
      | cons u more =>
        by_cases hu : ∃ text, u.node = .literal text
        · obtain ⟨text, hu⟩ := hu
          refine .inl ⟨t, u, more, text, rfl, ht, hu, ?_⟩
          unfold after map both mark exactly Pattern.literal token
          simp only [ht, hu, if_true]
          rfl
        · rw [(hliteral.2 u more).2 hu] at hfirst
          obtain ⟨s, hs, hrank⟩ := failed_of_andThen hfirst
          refine .inr ⟨s, hs, .inr ⟨t, u :: more, rfl, ht, hrank, fun v later heq => ?_⟩⟩
          obtain ⟨rfl, -⟩ := List.cons.inj heq
          exact hu
    · obtain ⟨s, hs, hrank⟩ := failed_of_andThen ((hbar.2 t rest).2 ht)
      refine .inr ⟨s, hs, .inl ⟨fun u more heq => ?_, hrank⟩⟩
      obtain ⟨rfl, -⟩ := List.cons.inj heq
      exact ht

/-- A bar that no literal follows is left to what comes behind the run. -/
theorem points_bar (hbar : Begun (afterLiteral K) [.mark .bar]) {t : Lexeme} {rest : List Lexeme}
    (ht : t.node = .mark .bar)
    (hrest : ∀ u more, rest = u :: more → ¬ ∃ text, u.node = .literal text) {rank : Nat}
    (hpoints : Points K (t :: rest) rank) :
    Points (afterLiteral K) (t :: rest) (min (2 * rest.length + 1) rank) := by
  have hstuck : ∀ read left, rest = read ++ left →
      Stuck (Shape.mark .bar * (Shape.literal * afterLiteral K)) (nodes (t :: read))
        (nodes left) :=
    fun read left hall => ((starts_one.mul _).stuck hrest hall).one_mul
  rcases hpoints.head with ⟨hrank, hnot⟩ | ⟨hle, -⟩
  · rw [Nat.min_eq_left (by omega)]
    refine ⟨[t], rest, rfl, ?_, .inl ⟨rfl, ?_⟩⟩
    · show Begun (afterLiteral K) [t.node]
      rwa [ht]
    · rw [afterLiteral_eq]
      exact (stuck_of_head hnot rfl).add (hstuck [] rest rfl)
  · rw [Nat.min_eq_right hle, afterLiteral_eq]
    refine hpoints.add_right fun read left hall hrank => ?_
    cases read with
    | nil =>
      obtain rfl : t :: rest = left := hall
      rw [List.length_cons] at hrank
      omega
    | cons u read =>
      obtain ⟨rfl, hrest⟩ := List.cons.inj hall
      exact hstuck read left hrest

namespace Exact

/-- The literals behind the first one of a run. -/
theorem joined (hK : Exact m next K) (hfits : RunFits K) :
    Exact m ((Parser.many (after (Parser.mark .bar) Pattern.literal)).andThen stop next)
      (afterLiteral K) := by
  have hinhabited : ∃ w, w ∈ afterLiteral K := by
    obtain ⟨w, hw⟩ := hK.inhabited
    exact ⟨w, mem_afterLiteral.mpr (.inl hw)⟩
  have hbar : Begun (afterLiteral K) [.mark .bar] := by
    obtain ⟨w, hw⟩ := hinhabited
    exact ⟨.literal "" :: w, mem_afterLiteral.mpr (.inr ⟨"", w, rfl, hw⟩)⟩
  have hmono : K ≤ afterLiteral K := fun w hw => mem_afterLiteral.mpr (.inl hw)
  have hbounded : ∀ k, k ≤ m →
      Exact k ((Parser.many (after (Parser.mark .bar) Pattern.literal)).andThen stop next)
        (afterLiteral K) := by
    intro k
    induction k with
    | zero => exact fun _ => .zero hinhabited
    | succ k ih =>
      intro hk
      have hlater := ih (by omega)
      refine ⟨hinhabited, fun tokens rank hlen hfails => ?_, fun tokens hlen hsucceeds => ?_⟩
      · rcases joined_cases stop tokens with
          ⟨t, u, more, text, rfl, ht, hu, hdone⟩ | ⟨s, hs, hwhy⟩
        · rw [andThen_many_of_done joinedLiteral_takes hdone, andThen_of_done hdone] at hfails
          rw [List.length_cons, List.length_cons] at hlen
          obtain ⟨read, left, rfl, hbegun, hrank⟩ := hlater.fails (by omega) hfails
          refine ⟨t :: u :: read, left, rfl, ?_, ?_⟩
          · rw [nodes_cons, nodes_cons, ht, hu]
            exact (begun_joined hfits).mpr hbegun
          · rw [nodes_cons, nodes_cons, ht, hu]
            exact hrank.imp (fun h => ⟨h.1, h.2.joined hfits⟩)
              fun h => ⟨h.1, List.cons_ne_nil _ _⟩
        · rw [andThen_many_of_failed hs] at hfails
          obtain ⟨r, hr, rfl⟩ := Option.map_eq_some_iff.mp hfails
          have hpoints := hK.fails (Nat.lt_of_lt_of_le hlen hk) hr
          rcases hwhy with ⟨hnot, hrank⟩ | ⟨t, rest, rfl, ht, hrank, hrest⟩
          · rw [hrank, Nat.min_eq_right hpoints.le, afterLiteral_eq]
            exact hpoints.add_right fun _ _ hall _ => (starts_one.mul _).stuck hnot hall
          · rw [hrank]
            exact points_bar hbar ht hrest hpoints
      · rcases joined_cases stop tokens with
          ⟨t, u, more, text, rfl, ht, -, -⟩ | ⟨s, hs, hwhy⟩
        · exact .inr ⟨t, u :: more, rfl, by rwa [ht]⟩
        · rw [andThen_many_of_failed hs] at hsucceeds
          refine (hK.succeeds (Nat.lt_of_lt_of_le hlen hk)
            (Option.map_eq_none_iff.mp hsucceeds)).imp (fun h => hmono h) fun h => ?_
          obtain ⟨t, rest, rfl, hbegun⟩ := h
          exact ⟨t, rest, rfl, hbegun.mono hmono⟩
  exact hbounded m (Nat.le_refl m)

end Exact

theorem literalRun_branch (n stop : Nat) :
    Branch n stop RunFits Pattern.literalRun (fun t => ∃ text, t = .literal text) Shape.run := by
  refine ⟨Pattern.literalRun_spells, starts_one.mul _, fun m next K _ hfits hK => ?_⟩
  unfold Pattern.literalRun
  rw [andThen_map, andThen_both, run_mul_eq]
  exact (hK.joined hfits).readsOne (readsOne_literal stop) ⟨.literal "", "", rfl⟩

/- The terms that are no groups. -/

theorem keyword_branch (n stop : Nat) : Branch n stop RunFits Pattern.keyword
    (fun t => t = .ruleName "choice" ∨ ∃ text, t = .literal text) Shape.keyword :=
  Branch.firstOf (((word_branch n stop _ .choice).after (literalRun_branch n stop)).map _)
    ((literal_branch n stop _).map _).only (by rintro t rfl; nofun)

theorem numberKind_branch (n stop : Nat) (P : Language Token → Prop) :
    Branch n stop P Pattern.numberKind
      (fun t => t = .ruleName NumberKind.integer.word ∨ t = .ruleName NumberKind.float.word ∨
        t = .ruleName NumberKind.double.word) Shape.numberKind := by
  have hdouble := (word_branch n stop P .double).map fun _ => NumberKind.double
  have hfloat := Branch.firstOf
    ((word_branch n stop P .float).map fun _ => NumberKind.float)
    hdouble.only (by rintro t rfl h; revert h; decide)
  exact Branch.firstOf
    ((word_branch n stop P .int).map fun _ => NumberKind.integer) hfloat
    (by rintro t rfl h; revert h; decide)

theorem directive_branch (n stop : Nat) :
    Branch n stop RunFits Pattern.directive (· = .mark .dollar) Shape.directive := by
  have hnumber := (word_branch n stop _ .number).after
    ((numberKind_branch n stop RunFits).map PatternLeaf.number)
  have hkeyword := Branch.firstOf ((word_branch n stop _ .keyword).after (keyword_branch n stop))
    hnumber.only (by rintro t rfl h; revert h; decide)
  have hall := Branch.firstOf
    ((word_branch n stop RunFits .identifier).map fun _ => PatternLeaf.identifier) hkeyword
    (by rintro t rfl h; revert h; decide)
  exact (Branch.mark n stop _ .dollar).after hall

/-- The forms of a token term that are no groups. -/
def atoms : Parser Pattern :=
  firstOf (map (fun name => .leaf (.ref name)) Pattern.tokenName)
    [map .leaf Pattern.directive,
     map (fun body => .leaf (.regex body)) Pattern.regex,
     map .leaf Pattern.literalChoice]

theorem atoms_branch (n stop : Nat) :
    Branch n stop RunFits atoms
      (fun t => (∃ name, t = .tokenName name) ∨ t = .mark .dollar ∨ (∃ body, t = .regex body) ∨
        ∃ text, t = .literal text) Shape.patternAtom := by
  have hliteral : Branch n stop RunFits Pattern.literalChoice _ _ :=
    (literalRun_branch n stop).checked Pattern.ofLiterals_checksValue
  have hregex := Branch.firstOf
    ((regex_branch n stop RunFits).map fun body => (.leaf (.regex body) : Pattern))
    (hliteral.map .leaf).only (by rintro t ⟨body, rfl⟩; nofun)
  have hdirective := Branch.firstOf ((directive_branch n stop).map .leaf) hregex
    (by rintro t rfl h; rcases h with ⟨_, h⟩ | ⟨_, h⟩ <;> cases h)
  exact Branch.firstOf ((tokenName_branch n stop RunFits).map
    fun name => (.leaf (.ref name) : Pattern)) hdirective
    (by rintro t ⟨_, rfl⟩ h; rcases h with h | ⟨_, h⟩ | ⟨_, h⟩ <;> cases h)

end Grammar
end GrammarText
