/-
The parsers of the grammar are put together from a few combinators.  What every combinator keeps
holds of every parser of the grammar, so `Composed` takes them apart once and for all.

`Composed n p` says that `p` is put together from combinators as far as lists of fewer than `n`
tokens are concerned.  Behind a token that has been read there is one token fewer, which is what the
recursion through parentheses rests on.
-/
import GrammarText.Proofs.Parser.Recursion

namespace GrammarText

namespace Parser

/-- A check that looks at the value alone, and reports a fault of it where the value stands. -/
def ChecksValue {α β : Type} (check : α → Span → Except ParseError β) : Prop :=
  ∀ value, (∃ result, ∀ span, check value span = .ok result) ∨
    ∃ fault, fault ≠ .unexpected ∧ ∀ span, check value span = .error ⟨fault, span, [], none, none⟩

inductive Composed : Nat → {α : Type} → Parser α → Prop where
  | zero {α : Type} (p : Parser α) : Composed 0 p
  | token {α : Type} (n : Nat) (wanted : Expectation) (read : Token → Option α) :
      Composed n (token wanted read)
  | exactly (n : Nat) (wanted : Expectation) (expected : Token) :
      Composed n (exactly wanted expected)
  | map {n : Nat} {α β : Type} {p : Parser α} (f : α → β) (h : Composed n p) :
      Composed n (map f p)
  | both {n : Nat} {α β : Type} {p : Parser α} {q : Parser β} (hp : Composed n p)
      (hq : Composed n q) : Composed n (both p q)
  /-- Behind a token that has been read. -/
  | behind {n : Nat} {β : Type} {q : Parser β} (wanted : Expectation) (expected : Token)
      (hq : Composed n q) : Composed (n + 1) (both (Parser.exactly wanted expected) q)
  | choose {n : Nat} {α : Type} {p o : Parser α} {others : List (Parser α)} (hp : Composed n p)
      (hothers : Composed n (firstOf o others)) : Composed n (firstOf p (o :: others))
  | optional {n : Nat} {α : Type} {p : Parser α} (h : Composed n p) : Composed n (optional p)
  | many {n : Nat} {α : Type} {p : Parser α} (h : Composed n p) : Composed n (many p)
  | labelled {n : Nat} {α : Type} {p : Parser α} (name : Expectation) (h : Composed n p) :
      Composed n (labelled name p)
  | checked {n : Nat} {α β : Type} {p : Parser α} {check : α → Span → Except ParseError β}
      (hcheck : ChecksValue check) (h : Composed n p) : Composed n (checked check p)

namespace Composed

variable {n : Nat} {α β : Type} {p : Parser α} {q : Parser β}

theorem mark (n : Nat) (m : Mark) : Composed n (mark m) :=
  .exactly _ _ _

theorem before (hp : Composed n p) (hq : Composed n q) : Composed n (before p q) :=
  (hp.both hq).map _

theorem after (hp : Composed n p) (hq : Composed n q) : Composed n (after p q) :=
  (hp.both hq).map _

theorem firstOf {others : List (Parser α)} (hp : Composed n p)
    (hothers : ∀ o ∈ others, Composed n o) : Composed n (firstOf p others) := by
  induction others generalizing p with
  | nil => exact hp
  | cons o others ih =>
    exact hp.choose (ih (hothers o (List.mem_cons_self ..))
      fun q hq => hothers q (List.mem_cons_of_mem _ hq))

theorem many1 (hp : Composed n p) : Composed n (many1 p) :=
  (hp.both hp.many).map _

/-- What a parser leaves is a tail of what it was given. -/
theorem suffix (h : Composed n p) {stop : Nat} ⦃tokens rest : List Lexeme⦄ ⦃value : α⦄
    (hlen : tokens.length < n) (hs : Succeeds p stop tokens value rest) : rest <:+ tokens := by
  induction h generalizing tokens rest with
  | zero => exact absurd hlen (Nat.not_lt_zero _)
  | token n wanted read =>
    obtain ⟨t, rfl, -⟩ := succeeds_token.mp hs
    exact List.suffix_cons ..
  | exactly n wanted expected =>
    obtain ⟨t, rfl, -⟩ := succeeds_exactly.mp hs
    exact List.suffix_cons ..
  | map f _ ih =>
    obtain ⟨a, ha, -⟩ := succeeds_map.mp hs
    exact ih hlen ha
  | both _ _ ihp ihq =>
    obtain ⟨mid, ha, hb⟩ := succeeds_both.mp hs
    have hmid := ihp hlen ha
    exact (ihq (Nat.lt_of_le_of_lt hmid.length_le hlen) hb).trans hmid
  | behind wanted expected _ ih =>
    obtain ⟨mid, ha, hb⟩ := succeeds_both.mp hs
    obtain ⟨t, rfl, -⟩ := succeeds_exactly.mp ha
    exact (ih (Nat.lt_of_succ_lt_succ hlen) hb).trans (List.suffix_cons ..)
  | choose _ _ ihp ihothers =>
    rcases succeeds_firstOf_cons.mp hs with hs | ⟨-, hs⟩
    · exact ihp hlen hs
    · exact ihothers hlen hs
  | optional _ ih =>
    rcases succeeds_optional.mp hs with ⟨a, -, ha⟩ | ⟨-, rfl, -⟩
    · exact ih hlen ha
    · exact List.suffix_rfl
  | @many _ _ _ _ ih =>
    rw [← (succeeds_many.mp hs).2]
    refine collect_invariant (R := (· <:+ tokens)) (fun mid value rest hmid h => ?_)
      List.suffix_rfl _
    exact (ih (Nat.lt_of_le_of_lt hmid.length_le hlen) h).trans hmid
  | labelled name _ ih => exact ih hlen (succeeds_labelled.mp hs)
  | checked _ _ ih =>
    obtain ⟨a, ha, -⟩ := succeeds_checked.mp hs
    exact ih hlen ha

theorem length_lt (h : Composed n p) {stop : Nat} {tokens rest : List Lexeme} {value : α}
    (hlen : tokens.length < n) (hs : Succeeds p stop tokens value rest) : rest.length < n :=
  Nat.lt_of_le_of_lt (h.suffix hlen hs).length_le hlen

end Composed
end Parser

open GrammarText.Parser

namespace Quantifier

theorem ofWritten_checksValue : ChecksValue ofWritten := by
  intro written
  match written with
  | (count, none) => exact .inl ⟨exactly count, fun _ => rfl⟩
  | (min, some none) => exact .inl ⟨atLeast min, fun _ => rfl⟩
  | (min, some (some max)) =>
    cases h : between? min max with
    | some q => exact .inl ⟨q, fun span => by simp only [ofWritten, h]⟩
    | none =>
      refine .inr ⟨.invertedBounds min max, nofun, fun span => ?_⟩
      simp only [ofWritten, h]
      rfl

theorem parser_composed (n : Nat) : Composed n parser := by
  have hinteger : Composed n integer := .token _ _ _
  have hbounds : Composed n bounds :=
    (Composed.mark n _).after
      ((hinteger.both ((Composed.mark n _).after hinteger.optional).optional).before
        (Composed.mark n _))
  refine (Composed.firstOf ((Composed.mark n _).map _) fun p hp => ?_).labelled _
  simp only [List.mem_cons, List.not_mem_nil, or_false] at hp
  rcases hp with rfl | rfl | rfl
  · exact (Composed.mark n _).map _
  · exact (Composed.mark n _).map _
  · exact hbounds.checked ofWritten_checksValue

end Quantifier

namespace Expr

variable {Leaf : Type} {n : Nat} {term inner : Parser (Expr Leaf)}

theorem layers_composed (h : Composed n term) : Composed n (layers term) := by
  have hquantifier := Quantifier.parser_composed n
  have hseparated : Composed n (separatedParser term) :=
    (h.both (((Composed.mark n _).after h).both hquantifier).many).map _
  have hquantified : Composed n (quantifiedParser term) :=
    (hseparated.both hquantifier.optional).map _
  have hsequence : Composed n (sequenceParser term) := hquantified.many1.map _
  exact (hsequence.both ((Composed.mark n _).after hsequence).many).map _

theorem group_composed (h : Composed n inner) : Composed (n + 1) (group inner) :=
  (Composed.behind _ _ (h.before (Composed.mark n _))).map _

end Expr

namespace Pattern

theorem word_composed (n : Nat) (w : Word) : Composed n (word w) :=
  (Composed.exactly _ _ _).labelled _

theorem literalRun_composed (n : Nat) : Composed n literalRun := by
  have hliteral : Composed n literal := .token _ _ _
  exact (hliteral.both ((Composed.mark n _).after hliteral).many).map _

theorem ofLiterals_checksValue : ChecksValue fun texts span =>
    match PatternLeaf.ofLiterals? texts with
    | some leaf => .ok leaf
    | none => .error (.mixedLiterals span) := by
  intro texts
  cases h : PatternLeaf.ofLiterals? texts with
  | some leaf => exact .inl ⟨leaf, fun span => by simp only [h]⟩
  | none => exact .inr ⟨.mixedLiterals, nofun, fun span => by simp only [h]; rfl⟩

theorem literalChoice_composed (n : Nat) : Composed n literalChoice :=
  (literalRun_composed n).checked ofLiterals_checksValue

theorem keyword_composed (n : Nat) : Composed n keyword := by
  refine .firstOf (((word_composed n _).after (literalRun_composed n)).map _) fun p hp => ?_
  rw [List.mem_singleton.mp hp]
  exact (Composed.token _ _ _).map _

theorem numberKind_composed (n : Nat) : Composed n numberKind := by
  refine .firstOf ((word_composed n _).map _) fun p hp => ?_
  simp only [List.mem_cons, List.not_mem_nil, or_false] at hp
  rcases hp with rfl | rfl
  · exact (word_composed n _).map _
  · exact (word_composed n _).map _

theorem directive_composed (n : Nat) : Composed n directive := by
  refine (Composed.mark n _).after (.firstOf ((word_composed n _).map _) fun p hp => ?_)
  simp only [List.mem_cons, List.not_mem_nil, or_false] at hp
  rcases hp with rfl | rfl
  · exact (word_composed n _).after (keyword_composed n)
  · exact (word_composed n _).after ((numberKind_composed n).map _)

theorem termForms_composed {n : Nat} {inner : Parser Pattern} (h : Composed n inner) :
    Composed (n + 1) (termForms inner) := by
  refine .firstOf (Expr.group_composed h) fun p hp => ?_
  simp only [List.mem_cons, List.not_mem_nil, or_false] at hp
  rcases hp with rfl | rfl | rfl | rfl
  · exact (Composed.token _ _ _).map _
  · exact (directive_composed _).map _
  · exact (Composed.token _ _ _).map _
  · exact (literalChoice_composed _).map _

theorem parser_composed (n : Nat) : Composed n parser := by
  induction n with
  | zero => exact .zero _
  | succ n ih =>
    rw [parser_eq]
    exact Expr.layers_composed ((termForms_composed ih).labelled _)

end Pattern

namespace Rule

theorem term_composed {n : Nat} {inner : Parser Rule} (h : Composed n inner) :
    Composed (n + 1) (term inner) := by
  refine (Composed.firstOf (Expr.group_composed h) fun p hp => ?_).labelled _
  simp only [List.mem_cons, List.not_mem_nil, or_false] at hp
  rcases hp with rfl | rfl
  · exact (Composed.token _ _ _).map _
  · exact (Pattern.termForms_composed (Pattern.parser_composed n)).map _

theorem parser_composed (n : Nat) : Composed n parser := by
  induction n with
  | zero => exact .zero _
  | succ n ih =>
    rw [parser_eq]
    exact Expr.layers_composed (term_composed ih)

end Rule

namespace Declaration

theorem twoWords_composed {α : Type} (n : Nat) (a b : Word) (v w : α) :
    Composed n (firstOf (map (fun _ => v) (Pattern.word a))
      [map (fun _ => w) (Pattern.word b)]) := by
  refine .firstOf ((Pattern.word_composed n a).map _) fun p hp => ?_
  rw [List.mem_singleton.mp hp]
  exact (Pattern.word_composed n b).map _

theorem header_composed (n : Nat) : Composed n header := by
  have hname : Composed n Rule.ruleName := .token _ _ _
  have hskip : Composed n skipStrategy :=
    ((twoWords_composed n _ _ _ _).both (twoWords_composed n _ _ _ _).optional).optional.map _
  refine .firstOf ((Composed.mark n _).after
    (.firstOf ((Pattern.word_composed n _).after (hname.optional.map _)) fun p hp => ?_))
    fun p hp => ?_
  · rw [List.mem_singleton.mp hp]
    exact (Pattern.word_composed n _).after (hskip.map _)
  · rw [List.mem_singleton.mp hp]
    exact hname.map _

theorem tokenParser_composed (n : Nat) : Composed n tokenParser :=
  (((Composed.before (.token _ _ _) (.mark n _)).both (Pattern.parser_composed n)).before
    (.mark n _)).map _

theorem ruleParser_composed (n : Nat) : Composed n ruleParser :=
  ((((header_composed n).before (.mark n _)).both (Rule.parser_composed n)).before
    (.mark n _)).map _

/-- A declaration is composed but for the range that is put beside it. -/
theorem bodies_composed (n : Nat) : Composed n (firstOf tokenParser [ruleParser]) := by
  refine .firstOf (tokenParser_composed n) fun p hp => ?_
  rw [List.mem_singleton.mp hp]
  exact ruleParser_composed n

end Declaration
end GrammarText
