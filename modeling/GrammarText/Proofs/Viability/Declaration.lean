/-
Where the error of a declaration points.  The tokens before it begin some declaration and with the
next one they no longer do, unless the error is about a value.
-/
import GrammarText.Proofs.Grammar.Recognition
import GrammarText.Proofs.Parser.Blame
import GrammarText.Proofs.Viability.Expressions

namespace GrammarText

open Computability GrammarText.Parser

namespace Grammar

variable {α β : Type} {S S' : Token → Prop} {A B D : Language Token} {n stop : Nat}
  {P Q : Language Token → Prop}

/-- What a branch may go on with need not be a branch, for it may read nothing. -/
theorem Branch.both {p : Parser α} {q : Parser β} (hp : Branch n stop Q p S A)
    (hspells : Takes (Spells B) q)
    (hq : ∀ ⦃m next K⦄, m < n → P K → Exact m next K →
      Q (B * K) ∧ Exact m (q.andThen stop next) (B * K)) :
    Branch n stop P (Parser.both p q) S (A * B) := by
  refine ⟨spells_both hp.spells hspells, hp.starts.mul B, fun m next K hm hP hK => ?_⟩
  obtain ⟨hQ, hbehind⟩ := hq hm hP hK
  rw [andThen_both, mul_assoc]
  exact hp.exact hm hQ hbehind

/-- One of two words. -/
theorem twoWords_branch {a b : Word} (hab : a.text ≠ b.text) (v w : α) :
    Branch n stop P (firstOf (map (fun _ => v) (Pattern.word a))
      [map (fun _ => w) (Pattern.word b)])
      (fun t => t = .ruleName a.text ∨ t = .ruleName b.text)
      (Shape.word a.text + Shape.word b.text) :=
  Branch.firstOf ((word_branch n stop P a).map _) ((word_branch n stop P b).map _).only
    (by rintro t rfl h; exact hab (Token.ruleName.inj h))

/-- A branch that may be left out before a colon. -/
theorem optional_exact {p : Parser α} (hp : Branch (n + 1) stop P p S A)
    (hS : ¬ S (.mark .colon)) {next : Continuation} {K : Language Token} (hP : P K)
    (hheads : Heads (· = .mark .colon) K) (hK : Exact n next K) :
    Exact n ((Parser.optional p).andThen stop next) ((1 + A) * K) :=
  hK.optional ((hp.exact (Nat.lt_succ_self n) hP hK).mono (Nat.le_succ n)) hp.spells hp.starts
    hheads fun _ ht h => hS (h ▸ ht)

theorem strategy_branch (n stop : Nat) : Branch n stop (Heads (· = .mark .colon))
    (both Declaration.side (Parser.optional Declaration.greed))
    (fun t => t = .ruleName "before" ∨ t = .ruleName "after")
    ((Shape.word "before" + Shape.word "after") *
      (1 + (Shape.word "greedy" + Shape.word "lazy"))) :=
  (twoWords_branch (P := fun _ => True) (by decide) _ _).both
    (spells_optional (spells_firstOf (spells_word _).map (spells_word _).map))
    fun _ _ _ _ hP hK => ⟨trivial,
      optional_exact (twoWords_branch (by decide) _ _) (by rintro (h | h) <;> cases h) hP hP hK⟩

theorem header_branch (n stop : Nat) : Branch n stop (Heads (· = .mark .colon))
    Declaration.header (fun t => t = .mark .dollar ∨ ∃ name, t = .ruleName name) Shape.header := by
  have hmain : Branch n stop (Heads (· = .mark .colon))
      (after (Pattern.word .main) (map Declaration.Header.main (Parser.optional Rule.ruleName)))
      (· = .ruleName "main") (Shape.word "main" * (1 + Shape.ruleName)) := by
    refine ((word_branch n stop (fun _ => True) .main).both
      (spells_optional Rule.ruleName_spells).map fun m next K _ hP hK => ⟨trivial, ?_⟩).map _
    rw [andThen_map]
    exact optional_exact (ruleName_branch (m + 1) stop (Heads (· = .mark .colon))) nofun hP hP hK
  have hskip : Branch n stop (Heads (· = .mark .colon))
      (after (Pattern.word .skip) (map Declaration.Header.skip Declaration.skipStrategy))
      (· = .ruleName "skip") (Shape.word "skip" * Shape.strategy) := by
    refine ((word_branch n stop (fun _ => True) .skip).both
      Declaration.skipStrategy_spells.map fun m next K _ hP hK => ⟨trivial, ?_⟩).map _
    unfold Declaration.skipStrategy
    rw [andThen_map, andThen_map]
    exact optional_exact (strategy_branch (m + 1) stop) nofun hP hP hK
  have hwords := Branch.firstOf hmain hskip.only (by rintro t rfl h; revert h; decide)
  exact Branch.firstOf ((Branch.mark n stop (fun _ => True) .dollar).after hwords)
    ((ruleName_branch n stop _).map _).only (by rintro t rfl ⟨_, h⟩; cases h)

/-- A body between a colon and a semicolon. -/
theorem body_branch {Leaf : Type} {p : Parser α} {body : Parser (Expr Leaf)}
    (hp : Branch n stop (Heads (· = .mark .colon)) p S A)
    (hbody : ∀ m, Branch m stop (Heads fun t => t.closes = true) body S' B) :
    Branch n stop (fun _ => True)
      (before (both (before p (mark .colon)) body) (mark .semicolon)) S
      (A * Shape.mark .colon * B * Shape.mark .semicolon) := by
  have hcolon : Branch n stop (fun _ => True) (before p (mark .colon)) S
      (A * Shape.mark .colon) :=
    (hp.both (spells_mark _) fun m _ _ _ _ hK =>
      ⟨(starts_one.mul _).heads, (hK.mark .colon).mono (Nat.le_succ m)⟩).map _
  have hinside : Branch n stop (Heads fun t => t.closes = true)
      (both (before p (mark .colon)) body) S (A * Shape.mark .colon * B) :=
    hcolon.both (hbody 0).spells fun m _ _ _ hP hK =>
      ⟨trivial, ((hbody (m + 1)).exact (Nat.lt_succ_self m) hP hK).mono (Nat.le_succ m)⟩
  refine (hinside.both (spells_mark _) fun m _ K _ _ hK =>
    ⟨(starts_one.mul K).heads.imp fun t ht => ?_, (hK.mark .semicolon).mono (Nat.le_succ m)⟩).map _
  subst ht
  rfl

theorem declaration_branch (n stop : Nat) : Branch n stop (fun _ => True)
    (firstOf Declaration.tokenParser [Declaration.ruleParser])
    (fun t => (∃ name, t = .tokenName name) ∨ t = .mark .dollar ∨ ∃ name, t = .ruleName name)
    Shape.declaration :=
  Branch.firstOf ((body_branch (tokenName_branch n stop _) fun m => pattern_branch m stop).map _)
    ((body_branch (header_branch n stop) fun m => rule_branch m stop).map _).only
    (by rintro t ⟨_, rfl⟩ h; rcases h with h | ⟨_, h⟩ <;> cases h)

/-- A declaration fails where neither of its kinds can be read. -/
theorem failed_of_run {tokens : List Lexeme} {e : ParseError}
    (h : run Declaration.parser stop tokens = .error e) :
    ∃ s, firstOf Declaration.tokenParser [Declaration.ruleParser] stop tokens = .failed s ∧
      e = s.error := by
  unfold run Declaration.parser spanned at h
  cases hb : firstOf Declaration.tokenParser [Declaration.ruleParser] stop tokens with
  | done value rest s =>
    rw [hb] at h
    cases h
  | failed s =>
    rw [hb] at h
    cases h
    exact ⟨s, rfl, rfl⟩

theorem run_of_failed {tokens : List Lexeme} {s : Setback}
    (hs : firstOf Declaration.tokenParser [Declaration.ruleParser] stop tokens = .failed s) :
    run Declaration.parser stop tokens = .error s.error := by
  unfold run Declaration.parser spanned
  rw [hs]

/-- What is wrong with the tokens where an error lies, and what it says of them. -/
theorem setback_points {tokens : List Lexeme} {s : Setback}
    (hs : firstOf Declaration.tokenParser [Declaration.ruleParser] stop tokens = .failed s)
    (hfault : s.error.fault = .unexpected) :
    ∃ read left, tokens = read ++ left ∧ left.length = s.left ∧
      Begun Shape.declaration (nodes read) ∧ Stuck Shape.declaration (nodes read) (nodes left) ∧
      Accuses stop s.error left := by
  have hexact := (declaration_branch (tokens.length + 1) stop).exact (Nat.lt_succ_self _)
    trivial .ended
  rw [mul_one] at hexact
  obtain ⟨read, left, rfl, hbegun, hrank⟩ :=
    hexact.fails (Nat.lt_succ_self _) (andThen_of_failed hs)
  have hodd : s.rank = 2 * s.left + 1 := by
    unfold Setback.rank
    rw [ParseError.isSpecific_eq_false.mpr hfault]
    rfl
  rcases hrank with ⟨hrank, hstuck⟩ | ⟨hrank, -⟩
  · obtain ⟨left', hleft', hlen, haccuses⟩ :=
      (Declaration.bodies_composed _).blames stop (Nat.lt_succ_self _) s (by rw [hs]; rfl)
    obtain rfl : left' = left :=
      (List.suffix_of_suffix_length_le hleft' (List.suffix_append read left)
        (by omega)).eq_of_length (by omega)
    exact ⟨read, left', rfl, hlen, hbegun, hstuck, haccuses⟩
  · omega

/-- How far from the end an error lies tells what was read before it. -/
theorem stuck_of_failed {read left : List Lexeme} {s : Setback}
    (hs : firstOf Declaration.tokenParser [Declaration.ruleParser] stop (read ++ left) = .failed s)
    (hfault : s.error.fault = .unexpected) (hleft : s.left = left.length) :
    Viable (nodes read) ∧ Stuck Shape.declaration (nodes read) (nodes left) ∧
      Accuses stop s.error left := by
  obtain ⟨read', left', htokens, hleft', hpoints⟩ := setback_points hs hfault
  obtain ⟨rfl, rfl⟩ := List.append_inj' htokens (by omega)
  exact hpoints

/-- What is wrong with the tokens where a declaration fails, and what the error says of it. -/
theorem declaration_setback {tokens : List Lexeme} {e : ParseError}
    (h : run Declaration.parser stop tokens = .error e) (hfault : e.fault = .unexpected) :
    ∃ read left, tokens = read ++ left ∧ Begun Shape.declaration (nodes read) ∧
      Stuck Shape.declaration (nodes read) (nodes left) ∧ Accuses stop e left := by
  obtain ⟨s, hs, rfl⟩ := failed_of_run h
  obtain ⟨read, left, htokens, -, hpoints⟩ := setback_points hs hfault
  exact ⟨read, left, htokens, hpoints⟩

/-- A declaration is read, or one error says why not.  Unless it is about a value it points at the
first token with which the tokens are no longer the beginning of a declaration, or at the end if
there is no such token. -/
theorem declaration_error_points_at_first_impossible_token (stop : Nat) (tokens : List Lexeme) :
    (∃ d, run Declaration.parser stop tokens = .ok d) ∨
      ∃ e, run Declaration.parser stop tokens = .error e ∧
        (e.fault = .unexpected → ∃ i ≤ tokens.length, Viable (nodes (tokens.take i)) ∧
          ((∃ t, tokens[i]? = some t ∧ ¬ Viable (nodes (tokens.take (i + 1))) ∧
              e.span = t.span ∧ e.found = some t.node) ∨
            (i = tokens.length ∧ e.span = ⟨stop, stop⟩ ∧ e.found = none))) := by
  cases h : run Declaration.parser stop tokens with
  | ok d => exact .inl ⟨d, rfl⟩
  | error e =>
    refine .inr ⟨e, rfl, fun hfault => ?_⟩
    obtain ⟨read, left, rfl, hbegun, hstuck, haccuses⟩ := declaration_setback h hfault
    refine ⟨read.length, by rw [List.length_append]; omega, ?_, ?_⟩
    · rw [List.take_left]
      exact hbegun
    · cases left with
      | nil =>
        obtain ⟨hspan, hfound⟩ := haccuses hfault
        exact .inr ⟨by rw [List.append_nil], hspan, hfound⟩
      | cons t more =>
        obtain ⟨hspan, hfound⟩ := haccuses hfault
        refine .inl ⟨t, by rw [List.getElem?_append_right (Nat.le_refl _), Nat.sub_self]; rfl, ?_,
          hspan, hfound⟩
        rw [List.take_length_add_append, List.take_one, List.head?_cons, nodes_append]
        exact hstuck

/- The language is that of the grammar but for the checks of values. -/

theorem Declares.mem_declaration {tokens : List Token} {d : Declaration}
    (h : Declares tokens d []) : tokens ∈ Shape.declaration := by
  obtain ⟨lexemes, rfl⟩ := exists_nodes_eq tokens
  obtain ⟨read, hread, hmem⟩ := Declaration.parser_spells (h.succeeds 0)
  rw [List.append_nil] at hread
  rwa [hread]

/-- A word of the language of declarations fails over a value if it fails at all. -/
theorem fault_of_mem_declaration {tokens : List Lexeme} (h : nodes tokens ∈ Shape.declaration)
    {e : ParseError} (he : run Declaration.parser stop tokens = .error e) :
    e.fault ≠ .unexpected := by
  intro hfault
  obtain ⟨read, left, rfl, -, hstuck, -⟩ := declaration_setback he hfault
  rw [nodes_append] at h
  cases left with
  | nil =>
    rw [nodes_nil, List.append_nil] at h
    exact hstuck h
  | cons t more =>
    exact hstuck ⟨nodes more, by rwa [List.append_assoc]⟩

end Grammar
end GrammarText
