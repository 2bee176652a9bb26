/-
The parsers of the grammar are alike with themselves, and the two recursive ones satisfy the
equations of a recursive grammar, in which no depth is left.
-/
import GrammarText.Proofs.Parser.Locality

namespace GrammarText

open GrammarText.Parser

namespace Parser

variable {n : Nat}

/-- Whether one list of parsers is alike with another is decided parser by parser. -/
theorem Alike.forall₂_self {α : Type} {parsers : List (Parser α)}
    (h : ∀ p ∈ parsers, Alike n p p) : List.Forall₂ (Alike n) parsers parsers := by
  induction parsers with
  | nil => exact .nil
  | cons p rest ih =>
    exact .cons (h p (List.mem_cons_self ..)) (ih fun q hq => h q (List.mem_cons_of_mem _ hq))

/-- Behind a token there is one token fewer. -/
theorem Alike.behind_mark {α : Type} {m : Mark} {q q' : Parser α} (hm : m ≠ .semicolon)
    (hq : Alike n q q') :
    Alike (n + 1) (Parser.after (mark m) q) (Parser.after (mark m) q') :=
  (Alike.join (n := n + 1) (m := 1) (Alike.exactly _ _ _)
    (Takes.opening (S := fun _ => true) rfl hm) (fun _ h => ⟨h.2, h.length_pos⟩) hq).map

end Parser

namespace Quantifier

theorem bounds_alike (n : Nat) : Alike n bounds bounds := by
  have hupper : Alike n (Parser.optional (after (mark .range) (Parser.optional integer)))
      (Parser.optional (after (mark .range) (Parser.optional integer))) :=
    ((Alike.exactly _ _ _).after (Takes.mark (by decide)) (Alike.token _ _ _).optional).optional
  have hupperTakes :
      Takes Plain (Parser.optional (after (mark .range) (Parser.optional integer))) :=
    ((Takes.mark (by decide)).plain_both integer_takes.optional).map.optional
  exact (Alike.exactly _ _ _).after (Takes.mark (by decide))
    (((Alike.token _ _ _).both integer_takes hupper).before
      (integer_takes.plain_both hupperTakes) (Alike.exactly _ _ _))

/-- Bounds out of order are reported where they stand. -/
theorem ofWritten_error_span (written : UInt32 × Option (Option UInt32)) (span : Span)
    (e : ParseError) (h : ofWritten written span = .error e) : e.span = span := by
  match written with
  | (_, none) => cases h
  | (_, some none) => cases h
  | (min, some (some max)) =>
    unfold ofWritten at h
    simp only at h
    split at h
    · cases h
    · cases h
      rfl

theorem parser_alike (n : Nat) : Alike n parser parser := by
  refine (Alike.firstOf (Alike.exactly _ _ _).map (Alike.forall₂_self fun p hp => ?_)).labelled
  simp only [List.mem_cons, List.not_mem_nil, or_false] at hp
  rcases hp with rfl | rfl | rfl
  · exact (Alike.exactly _ _ _).map
  · exact (Alike.exactly _ _ _).map
  · exact (bounds_alike n).checked bounds_takes ofWritten_error_span

end Quantifier

namespace Expr

variable {Leaf : Type} {n : Nat} {term term' inner inner' : Parser (Expr Leaf)}

theorem layers_alike (h : Alike n term term') (htakes : Takes (Opens Token.opensTerm) term') :
    Alike n (layers term) (layers term') := by
  have hseparator : Alike n (both (after (mark .percent) term) Quantifier.parser)
      (both (after (mark .percent) term') Quantifier.parser) :=
    ((Alike.exactly _ _ _).after (Takes.mark (by decide)) h).both
      ((Takes.mark (by decide)).plain_both htakes.plain).map (Quantifier.parser_alike n)
  have hseparated : Alike n (separatedParser term) (separatedParser term') :=
    (h.both htakes.plain (hseparator.many (separator_takes htakes))).map
  have hquantified : Alike n (quantifiedParser term) (quantifiedParser term') :=
    (hseparated.both (separatedParser_takes htakes).plain
      (Quantifier.parser_alike n).optional).map
  have hsequence : Alike n (sequenceParser term) (sequenceParser term') :=
    (hquantified.many1 (quantifiedParser_takes htakes)).map
  have hmore : Alike n (after (mark .bar) (sequenceParser term))
      (after (mark .bar) (sequenceParser term')) :=
    (Alike.exactly _ _ _).after (Takes.mark (by decide)) hsequence
  exact (hsequence.both (sequenceParser_takes htakes).plain
    (hmore.many (alternative_takes htakes))).map

theorem group_alike (h : Alike n inner inner') (htakes : Takes Plain inner') :
    Alike (n + 1) (group inner) (group inner') :=
  Alike.behind_mark (by decide) (h.before htakes (Alike.exactly _ _ _))

end Expr

namespace Pattern

theorem word_alike (n : Nat) (w : Word) : Alike n (word w) (word w) :=
  (Alike.exactly _ _ _).labelled

theorem literalRun_alike (n : Nat) : Alike n literalRun literalRun := by
  have hmore : Alike n (after (mark .bar) literal) (after (mark .bar) literal) :=
    (Alike.exactly _ _ _).after (Takes.mark (by decide)) (Alike.token _ _ _)
  have htakes : Takes (Opens fun _ => true) (after (mark .bar) literal) :=
    (Takes.opening rfl (by decide)).after literal_takes.plain
  exact ((Alike.token _ _ _).both literal_takes.plain (hmore.many htakes)).map

theorem keyword_alike (n : Nat) : Alike n keyword keyword := by
  refine Alike.firstOf ((word_alike n _).after (word_takes _) (literalRun_alike n)).map
    (Alike.forall₂_self fun p hp => ?_)
  rw [List.mem_singleton.mp hp]
  exact (Alike.token _ _ _).map

theorem numberKind_alike (n : Nat) : Alike n numberKind numberKind := by
  refine Alike.firstOf (word_alike n _).map (Alike.forall₂_self fun p hp => ?_)
  simp only [List.mem_cons, List.not_mem_nil, or_false] at hp
  rcases hp with rfl | rfl
  · exact (word_alike n _).map
  · exact (word_alike n _).map

theorem directive_alike (n : Nat) : Alike n directive directive := by
  refine (Alike.exactly _ _ _).after (Takes.mark (by decide))
    (Alike.firstOf (word_alike n _).map (Alike.forall₂_self fun p hp => ?_))
  simp only [List.mem_cons, List.not_mem_nil, or_false] at hp
  rcases hp with rfl | rfl
  · exact (word_alike n _).after (word_takes _) (keyword_alike n)
  · exact (word_alike n _).after (word_takes _) (numberKind_alike n).map

theorem termForms_alike {n : Nat} {inner inner' : Parser Pattern} (h : Alike n inner inner')
    (htakes : Takes Plain inner') : Alike (n + 1) (termForms inner) (termForms inner') := by
  refine Alike.firstOf (Expr.group_alike h htakes) (Alike.forall₂_self fun p hp => ?_)
  simp only [List.mem_cons, List.not_mem_nil, or_false] at hp
  rcases hp with rfl | rfl | rfl | rfl
  · exact (Alike.token _ _ _).map
  · exact (directive_alike _).map
  · exact (Alike.token _ _ _).map
  · refine ((literalRun_alike _).checked literalRun_takes fun texts span e h => ?_).map
    -- A run that has no leaf is reported where it stands.
    split at h
    · cases h
    · cases h
      rfl

/-- Depths make no difference to lists shorter than both. -/
theorem nested_alike (depth depth' : Nat) :
    Alike (min depth depth') (nested depth) (nested depth') := by
  induction depth generalizing depth' with
  | zero =>
    rw [Nat.zero_min]
    exact Alike.zero _ _
  | succ depth ih =>
    cases depth' with
    | zero =>
      rw [Nat.min_zero]
      exact Alike.zero _ _
    | succ depth' =>
      rw [Nat.succ_min_succ]
      have hterm : Alike (min depth depth' + 1)
          (labelled .tokenExpression (termForms (nested depth)))
          (labelled .tokenExpression (termForms (nested depth'))) :=
        (termForms_alike (ih depth') (nested_takes depth').plain).labelled
      exact Expr.layers_alike hterm (termForms_takes (nested_takes depth').plain).labelled

theorem parser_alike (n : Nat) : Alike n parser parser := by
  constructor
  · intro stop stop' tokens later w _
    refine (nested_alike _ _).same w ?_
    rw [List.length_append]
    omega
  · intro stop tokens _
    refine (nested_alike (tokens.length + 1) (tokens.length + 1)).located stop ?_
    rw [Nat.min_self]
    exact Nat.lt_succ_self _

theorem depth_alike (depth : Nat) : Alike depth (nested depth) parser := by
  constructor
  · intro stop stop' tokens later w hlen
    exact (nested_alike _ _).same w (by omega)
  · exact (parser_alike depth).located

/-- A token expression is layers over terms, with token expressions in their parentheses. -/
theorem parser_eq : parser = Expr.layers (labelled .tokenExpression (termForms parser)) := by
  funext stop tokens
  have hterm : Alike (tokens.length + 1)
      (labelled .tokenExpression (termForms (nested tokens.length)))
      (labelled .tokenExpression (termForms parser)) :=
    (termForms_alike (depth_alike tokens.length) parser_takes.plain).labelled
  exact (Expr.layers_alike hterm (termForms_takes parser_takes.plain).labelled).apply_eq stop
    (Nat.lt_succ_self _)

end Pattern

namespace Rule

theorem term_alike {n : Nat} {inner inner' : Parser Rule} (h : Alike n inner inner')
    (htakes : Takes Plain inner') : Alike (n + 1) (term inner) (term inner') := by
  refine (Alike.firstOf (Expr.group_alike h htakes)
    (Alike.forall₂_self fun p hp => ?_)).labelled
  simp only [List.mem_cons, List.not_mem_nil, or_false] at hp
  rcases hp with rfl | rfl
  · exact (Alike.token _ _ _).map
  · exact (Pattern.termForms_alike (Pattern.parser_alike n) Pattern.parser_takes.plain).map

/-- Depths make no difference to lists shorter than both. -/
theorem nested_alike (depth depth' : Nat) :
    Alike (min depth depth') (nested depth) (nested depth') := by
  induction depth generalizing depth' with
  | zero =>
    rw [Nat.zero_min]
    exact Alike.zero _ _
  | succ depth ih =>
    cases depth' with
    | zero =>
      rw [Nat.min_zero]
      exact Alike.zero _ _
    | succ depth' =>
      rw [Nat.succ_min_succ]
      exact Expr.layers_alike (term_alike (ih depth') (nested_takes depth').plain)
        (term_takes (nested_takes depth').plain)

theorem parser_alike (n : Nat) : Alike n parser parser := by
  constructor
  · intro stop stop' tokens later w _
    refine (nested_alike _ _).same w ?_
    rw [List.length_append]
    omega
  · intro stop tokens _
    refine (nested_alike (tokens.length + 1) (tokens.length + 1)).located stop ?_
    rw [Nat.min_self]
    exact Nat.lt_succ_self _

theorem depth_alike (depth : Nat) : Alike depth (nested depth) parser := by
  constructor
  · intro stop stop' tokens later w hlen
    exact (nested_alike _ _).same w (by omega)
  · exact (parser_alike depth).located

/-- A rule expression is layers over terms, with rule expressions in their parentheses. -/
theorem parser_eq : parser = Expr.layers (term parser) := by
  funext stop tokens
  exact (Expr.layers_alike
    (term_alike (depth_alike tokens.length) parser_takes.plain)
    (term_takes parser_takes.plain)).apply_eq stop (Nat.lt_succ_self _)

end Rule

namespace Declaration

/-- Plain tokens and a semicolon behind them. -/
def Closed (tokens : List Lexeme) : Prop :=
  ∃ before semicolon, tokens = before ++ [semicolon] ∧ Plain before ∧
    semicolon.node = .mark .semicolon

theorem semicolon_takes :
    Takes (fun read => ∃ t, read = [t] ∧ t.node = .mark .semicolon) (mark .semicolon) := by
  intro stop tokens value rest h
  obtain ⟨t, rfl, ht⟩ := succeeds_exactly.mp h
  exact ⟨[t], rfl, t, rfl, ht⟩

theorem before_semicolon_takes {α : Type} {p : Parser α} (h : Takes Plain p) :
    Takes Closed (before p (mark .semicolon)) := by
  refine (h.join semicolon_takes ?_).map
  intro a b ha hb
  obtain ⟨t, rfl, ht⟩ := hb
  exact ⟨a, t, rfl, ha, ht⟩

theorem tokenHead_takes :
    Takes Plain (both (before Pattern.tokenName (mark .colon)) Pattern.parser) :=
  (Pattern.tokenName_takes.before (Takes.mark (by decide))).plain.plain_both
    Pattern.parser_takes.plain

theorem ruleHead_takes : Takes Plain (both (before header (mark .colon)) Rule.parser) :=
  (header_takes.plain_both (Takes.mark (by decide))).map.plain_both Rule.parser_takes.plain

theorem bodies_takes : Takes Closed (firstOf tokenParser [ruleParser]) := by
  refine Takes.firstOf (before_semicolon_takes tokenHead_takes).map fun p hp => ?_
  rw [List.mem_singleton.mp hp]
  exact (before_semicolon_takes ruleHead_takes).map

/-- A declaration takes everything up to the first semicolon and the semicolon. -/
theorem parser_takes : Takes Closed parser := bodies_takes.spanned

theorem twoWords_alike (n : Nat) (a b : Word) (v w : Bool) :
    Alike n (firstOf (map (fun _ => v) (Pattern.word a)) [map (fun _ => w) (Pattern.word b)])
      (firstOf (map (fun _ => v) (Pattern.word a)) [map (fun _ => w) (Pattern.word b)]) := by
  refine Alike.firstOf (Pattern.word_alike n a).map (Alike.forall₂_self fun p hp => ?_)
  rw [List.mem_singleton.mp hp]
  exact (Pattern.word_alike n b).map

theorem header_alike (n : Nat) : Alike n header header := by
  have hskip : Alike n skipStrategy skipStrategy :=
    ((twoWords_alike n _ _ _ _).both (twoWords_takes _ _ _ _)
      (twoWords_alike n _ _ _ _).optional).optional.map
  have hname : Alike n (map Header.main (Parser.optional Rule.ruleName))
      (map Header.main (Parser.optional Rule.ruleName)) :=
    (Alike.token _ _ _).optional.map
  refine Alike.firstOf ((Alike.exactly _ _ _).after (Takes.mark (by decide))
    (Alike.firstOf ((Pattern.word_alike n _).after (Pattern.word_takes _) hname)
      (Alike.forall₂_self fun p hp => ?_))) (Alike.forall₂_self fun p hp => ?_)
  · rw [List.mem_singleton.mp hp]
    exact (Pattern.word_alike n _).after (Pattern.word_takes _) hskip.map
  · rw [List.mem_singleton.mp hp]
    exact (Alike.token _ _ _).map

/-- What becomes of a declaration is settled by its tokens up to the first semicolon. -/
theorem parser_alike (n : Nat) : Alike n parser parser := by
  have htoken : Alike n tokenParser tokenParser :=
    ((((Alike.token _ _ _).before Pattern.tokenName_takes.plain (Alike.exactly _ _ _)).both
      (Pattern.tokenName_takes.before (Takes.mark (by decide))).plain
      (Pattern.parser_alike n)).before tokenHead_takes (Alike.exactly _ _ _)).map
  have hrule : Alike n ruleParser ruleParser :=
    ((((header_alike n).before header_takes (Alike.exactly _ _ _)).both
      (header_takes.plain_both (Takes.mark (by decide))).map
      (Rule.parser_alike n)).before ruleHead_takes (Alike.exactly _ _ _)).map
  exact (Alike.firstOf htoken (.cons hrule .nil)).spanned bodies_takes

end Declaration
end GrammarText
