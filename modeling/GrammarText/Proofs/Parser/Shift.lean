/-
Parsers do not look at offsets.  On the same tokens at other offsets, in a source with another end,
they do the same, and their errors lie at the other offsets.
-/
import GrammarText.Proofs.Lexer.Lookahead
import GrammarText.Proofs.Parser.Composed

namespace GrammarText

/-- A range with both of its offsets moved. -/
def Span.map (move : Nat → Nat) (s : Span) : Span :=
  ⟨move s.start, move s.stop⟩

def ParseError.shift (e : ParseError) (distance : Nat) : ParseError :=
  { e with span := e.span.shift distance }

/-- The same error about another range. -/
def ParseError.relocate (e : ParseError) (move : Span → Span) : ParseError :=
  { e with span := move e.span }

theorem ParseError.withLabel_relocate (name : Expectation) (e : ParseError) (move : Span → Span) :
    (e.withLabel name).relocate move = (e.relocate move).withLabel name := by
  unfold withLabel
  have hspecific : (e.relocate move).isSpecific = e.isSpecific := rfl
  have hlabel : (e.relocate move).label = e.label := rfl
  rw [hspecific, hlabel]
  split <;> rfl

theorem ParseError.merge_relocate (a b : ParseError) (move : Span → Span) :
    (a.merge b).relocate move = (a.relocate move).merge (b.relocate move) := by
  unfold merge
  have hspecific : ∀ e : ParseError, (e.relocate move).isSpecific = e.isSpecific := fun _ => rfl
  rw [hspecific, hspecific]
  split
  · rfl
  · split <;> rfl

namespace Setback

def relocate (s : Setback) (move : Span → Span) : Setback :=
  ⟨s.left, s.error.relocate move⟩

theorem furthest_relocate (a b : Setback) (move : Span → Span) :
    (a.furthest b).relocate move = (a.relocate move).furthest (b.relocate move) := by
  have hleft : ∀ s : Setback, (s.relocate move).left = s.left := fun _ => rfl
  unfold furthest
  rw [hleft, hleft]
  split
  · rfl
  · split
    · rfl
    · exact congrArg (Setback.mk a.left) (ParseError.merge_relocate ..)

theorem max_relocate (a : Setback) (b : Option Setback) (move : Span → Span) :
    (a.max b).relocate move = (a.relocate move).max (b.map (·.relocate move)) := by
  cases b with
  | none => rfl
  | some b => exact furthest_relocate a b move

theorem latest_relocate (a b : Option Setback) (move : Span → Span) :
    (latest a b).map (·.relocate move) =
      latest (a.map (·.relocate move)) (b.map (·.relocate move)) := by
  cases a with
  | none => rfl
  | some a =>
    cases b with
    | none => rfl
    | some b => exact congrArg some (furthest_relocate b a move)

end Setback

/-- What is made of the same tokens at other ranges. -/
def Outcome.relocate {α : Type} (move : Span → Span) : Outcome α → Outcome α
  | .done value rest setback =>
      .done value (rest.map (·.relocate move)) (setback.map (·.relocate move))
  | .failed setback => .failed (setback.relocate move)

namespace Parser

variable {α β : Type}

theorem spanBetween_relocate (stop : Nat) (tokens rest : List Lexeme) (move : Nat → Nat) :
    spanBetween (move stop) (tokens.map (·.relocate (.map move)))
        (rest.map (·.relocate (.map move))) =
      (spanBetween stop tokens rest).map move := by
  unfold spanBetween
  rw [List.length_map, List.length_map, ← List.map_take, List.getLast?_map]
  cases tokens with
  | nil => rfl
  | cons first more =>
    cases ((first :: more).take ((first :: more).length - rest.length)).getLast? <;> rfl

/-- On fewer than `n` tokens the parser does the same at other offsets. -/
def Moves (n : Nat) (p : Parser α) : Prop :=
  ∀ (stop : Nat) (move : Nat → Nat) ⦃tokens⦄, tokens.length < n →
    p (move stop) (tokens.map (·.relocate (.map move))) = (p stop tokens).relocate (.map move)

theorem Moves.exactly (n : Nat) (wanted : Expectation) (expected : Token) :
    Moves n (exactly wanted expected) := by
  intro stop move tokens _
  cases tokens with
  | nil => rfl
  | cons t rest =>
    have hnode : (t.relocate (.map move)).node = t.node := rfl
    rw [List.map_cons]
    unfold Parser.exactly
    simp only [hnode]
    by_cases ht : t.node = expected
    · rw [if_pos ht, if_pos ht]
      rfl
    · rw [if_neg ht, if_neg ht, List.length_map]
      rfl

theorem Moves.both {n : Nat} {p : Parser α} {q : Parser β} (hp : Moves n p)
    (hq : ∀ stop move mid, (∃ tokens value, tokens.length < n ∧
      Succeeds p stop tokens value mid) →
      q (move stop) (mid.map (·.relocate (.map move))) = (q stop mid).relocate (.map move)) :
    Moves n (both p q) := by
  intro stop move tokens hlen
  unfold Parser.both
  rw [hp stop move hlen]
  cases ha : p stop tokens with
  | failed s => rfl
  | done a mid s =>
    simp only [Outcome.relocate]
    rw [hq stop move mid ⟨tokens, a, hlen, s, ha⟩]
    cases hb : q stop mid with
    | failed s' => exact congrArg Outcome.failed (Setback.max_relocate s' s _).symm
    | done b rest s' => exact congrArg (Outcome.done _ _) (Setback.latest_relocate s s' _).symm

theorem Moves.collect {n : Nat} {p : Parser α} (hp : Moves n p) (hc : Composed n p)
    {stop limit : Nat} {move : Nat → Nat}
    {tokens : List Lexeme} (hlen : tokens.length < n) :
    collect p (move stop) limit (tokens.map (·.relocate (.map move))) =
      ((collect p stop limit tokens).1,
        (collect p stop limit tokens).2.1.map (·.relocate (.map move)),
        (collect p stop limit tokens).2.2.map (·.relocate (.map move))) := by
  induction limit generalizing tokens with
  | zero => rfl
  | succ limit ih =>
    unfold Parser.collect
    rw [hp stop move hlen]
    cases ha : p stop tokens with
    | failed s => rfl
    | done a mid s =>
      simp only [Outcome.relocate]
      rw [ih (hc.length_lt hlen ⟨s, ha⟩)]
      simp only [Setback.latest_relocate]

theorem Composed.moves {n : Nat} {p : Parser α} (h : Composed n p) : Moves n p := by
  induction h with
  | zero => exact fun _ _ _ hlen => absurd hlen (Nat.not_lt_zero _)
  | token n wanted read =>
    intro stop move tokens _
    cases tokens with
    | nil => rfl
    | cons t rest =>
      have hnode : (t.relocate (.map move)).node = t.node := rfl
      rw [List.map_cons]
      unfold Parser.token
      simp only [hnode]
      cases read t.node with
      | none =>
        rw [List.length_map]
        rfl
      | some value => rfl
  | exactly n wanted expected => exact .exactly n wanted expected
  | @map n α β p f h ih =>
    intro stop move tokens hlen
    unfold Parser.map
    rw [ih stop move hlen]
    cases p stop tokens <;> rfl
  | both hp hq ihp ihq =>
    refine ihp.both fun stop move mid h => ?_
    obtain ⟨tokens, value, hlen, hs⟩ := h
    exact ihq stop move (hp.length_lt hlen hs)
  | behind wanted expected hq ih =>
    refine (Moves.exactly _ wanted expected).both fun stop move mid h => ?_
    obtain ⟨tokens, value, hlen, hs⟩ := h
    obtain ⟨t, rfl, -⟩ := succeeds_exactly.mp hs
    exact ih stop move (Nat.lt_of_succ_lt_succ hlen)
  | @choose n α p o others hp hothers ihp ihothers =>
    intro stop move tokens hlen
    unfold Parser.firstOf
    rw [ihp stop move hlen]
    cases p stop tokens with
    | done value rest s => rfl
    | failed s =>
      simp only [Outcome.relocate]
      rw [ihothers stop move hlen]
      cases Parser.firstOf o others stop tokens with
      | done value rest later =>
        exact congrArg (Outcome.done _ _) (Setback.latest_relocate (some s) later _).symm
      | failed later => exact congrArg Outcome.failed (Setback.furthest_relocate later s _).symm
  | @optional n α p h ih =>
    intro stop move tokens hlen
    unfold Parser.optional
    rw [ih stop move hlen]
    cases p stop tokens <;> rfl
  | @many n α p h ih =>
    intro stop move tokens hlen
    unfold Parser.many
    rw [List.length_map, ih.collect h hlen]
    rfl
  | @labelled n α p name h ih =>
    intro stop move tokens hlen
    unfold Parser.labelled
    rw [ih stop move hlen]
    cases p stop tokens with
    | done value rest s =>
      cases s with
      | none => rfl
      | some s =>
        exact congrArg (fun e => Outcome.done value _ (some ⟨s.left, e⟩))
          (ParseError.withLabel_relocate name s.error _).symm
    | failed s =>
      exact congrArg (fun e => Outcome.failed ⟨s.left, e⟩)
        (ParseError.withLabel_relocate name s.error _).symm
  | @checked n α β p check hcheck h ih =>
    intro stop move tokens hlen
    unfold Parser.checked
    rw [ih stop move hlen]
    cases p stop tokens with
    | failed s => rfl
    | done value rest s =>
      simp only [Outcome.relocate]
      rw [spanBetween_relocate]
      rcases hcheck value with ⟨result, hok⟩ | ⟨fault, -, herror⟩
      · rw [hok, hok]
      · rw [herror, herror, List.length_map]
        rfl

end Parser

open GrammarText.Parser

/-- A declaration at other offsets is the same declaration, and so is what is wrong with one. -/
theorem Declaration.run_relocate (stop : Nat) (move : Nat → Nat) (tokens : List Lexeme) :
    run Declaration.parser (move stop) (tokens.map (·.relocate (.map move))) =
      match run Declaration.parser stop tokens with
      | .ok d => .ok (d.relocate (.map move))
      | .error e => .error (e.relocate (.map move)) := by
  have hbodies := (Declaration.bodies_composed (tokens.length + 1)).moves stop move
    (Nat.lt_succ_self _)
  unfold run Declaration.parser spanned
  rw [hbodies]
  cases firstOf tokenParser [ruleParser] stop tokens with
  | failed s => rfl
  | done value rest s =>
    simp only [Outcome.relocate]
    rw [spanBetween_relocate]
    rfl

/-- A declaration further on is the same declaration, and so is what is wrong with one. -/
theorem Declaration.run_shift (stop distance : Nat) (tokens : List Lexeme) :
    run Declaration.parser (stop + distance) (tokens.map (·.shift distance)) =
      match run Declaration.parser stop tokens with
      | .ok d => .ok (d.shift distance)
      | .error e => .error (e.shift distance) :=
  run_relocate stop (· + distance) tokens

/-- What an error says but for the place. -/
def ParseError.bare (e : ParseError) : ParseError :=
  e.relocate fun _ => ⟨0, 0⟩

/-- What becomes of tokens depends on what they are and on no offset. -/
theorem Declaration.run_of_nodes_eq {tokens tokens' : List Lexeme}
    (h : nodes tokens = nodes tokens') (stop stop' : Nat) :
    ((run Declaration.parser stop tokens).map Spanned.node).mapError ParseError.bare =
      ((run Declaration.parser stop' tokens').map Spanned.node).mapError ParseError.bare := by
  have hnowhere : ∀ stop tokens, ((run Declaration.parser stop tokens).map
      Spanned.node).mapError ParseError.bare = (run Declaration.parser 0 ((nodes tokens).map
        fun t => ⟨t, ⟨0, 0⟩⟩)).map Spanned.node := by
    intro stop tokens
    have hrun := run_relocate stop (fun _ => 0) tokens
    have hmap : tokens.map (·.relocate (.map fun _ => 0)) =
        (nodes tokens).map fun t => ⟨t, ⟨0, 0⟩⟩ := by
      rw [nodes, List.map_map]
      rfl
    rw [hmap] at hrun
    rw [hrun]
    cases run Declaration.parser stop tokens <;> rfl
  rw [hnowhere, hnowhere, h]

end GrammarText
