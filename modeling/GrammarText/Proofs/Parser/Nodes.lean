/-
What parsers do on tokens whose ranges do not matter.  `Reads p tokens value rest` says that `p`
succeeds on every list of lexemes with these tokens, and `Refuses p tokens` that it fails on every
one.  A parser that is shown to read a text does so by lemmas of these two forms, one for each way
to combine parsers.
-/
import GrammarText.Proofs.Parser.Reading

namespace GrammarText

/-- The tokens of lexemes. -/
def nodes (lexemes : List Lexeme) : List Token :=
  lexemes.map Spanned.node

@[simp] theorem nodes_nil : nodes [] = [] := rfl

@[simp] theorem nodes_cons (t : Lexeme) (rest : List Lexeme) :
    nodes (t :: rest) = t.node :: nodes rest := rfl

@[simp] theorem nodes_append (a b : List Lexeme) : nodes (a ++ b) = nodes a ++ nodes b :=
  List.map_append ..

theorem nodes_length (lexemes : List Lexeme) : (nodes lexemes).length = lexemes.length :=
  List.length_map ..

theorem nodes_take (count : Nat) (lexemes : List Lexeme) :
    nodes (lexemes.take count) = (nodes lexemes).take count :=
  List.map_take ..

theorem nodes_drop (count : Nat) (lexemes : List Lexeme) :
    nodes (lexemes.drop count) = (nodes lexemes).drop count :=
  List.map_drop ..

theorem nodes_eq_cons {lexemes : List Lexeme} {t : Token} {rest : List Token} :
    nodes lexemes = t :: rest ↔ ∃ u more, lexemes = u :: more ∧ u.node = t ∧ nodes more = rest :=
  List.map_eq_cons_iff

/-- Every list of tokens is that of some lexemes. -/
theorem exists_nodes_eq (tokens : List Token) : ∃ lexemes, nodes lexemes = tokens := by
  refine ⟨tokens.map fun t => ⟨t, default⟩, ?_⟩
  rw [nodes, List.map_map]
  exact List.map_id tokens

namespace Parser

variable {α β : Type}

/-- On lexemes with these tokens the parser succeeds with the value and leaves `rest`. -/
def Reads (p : Parser α) (tokens : List Token) (value : α) (rest : List Token) : Prop :=
  ∀ (stop : Nat) ⦃lexemes⦄, nodes lexemes = tokens →
    ∃ remaining, nodes remaining = rest ∧ Succeeds p stop lexemes value remaining

/-- On lexemes with these tokens the parser fails. -/
def Refuses (p : Parser α) (tokens : List Token) : Prop :=
  ∀ ⦃stop lexemes⦄, nodes lexemes = tokens → Fails p stop lexemes

theorem Refuses.of_not_succeeds {p : Parser α} {tokens : List Token}
    (h : ∀ ⦃stop lexemes value rest⦄, nodes lexemes = tokens →
      ¬ Succeeds p stop lexemes value rest) : Refuses p tokens := by
  intro stop lexemes hl
  rcases succeeds_or_fails p stop lexemes with ⟨value, rest, hv⟩ | hf
  · exact absurd hv (h hl)
  · exact hf

/-- A parser refuses what starts with a token that nothing it takes starts with. -/
theorem Takes.refuses {S : Token → Bool} {p : Parser α} (h : Takes (Opens S) p)
    {tokens : List Token} (hhead : ∀ t more, tokens = t :: more → S t = false) :
    Refuses p tokens := by
  refine .of_not_succeeds fun stop lexemes value rest hl hv => ?_
  obtain ⟨read, rfl, ⟨⟨t, more, rfl, ht⟩, -⟩⟩ := h hv
  rw [hhead t.node _ hl.symm] at ht
  cases ht

namespace Refuses

variable {p : Parser α} {q : Parser β} {tokens : List Token}

theorem token {wanted : Expectation} {read : Token → Option α}
    (h : ∀ t more, tokens = t :: more → read t = none) :
    Refuses (Parser.token wanted read) tokens := by
  refine .of_not_succeeds fun stop lexemes value rest hl hv => ?_
  obtain ⟨t, rfl, ht⟩ := succeeds_token.mp hv
  rw [h t.node _ hl.symm] at ht
  cases ht

theorem exactly {wanted : Expectation} {expected : Token}
    (h : ∀ more, tokens ≠ expected :: more) : Refuses (Parser.exactly wanted expected) tokens := by
  refine .of_not_succeeds fun stop lexemes value rest hl hv => ?_
  obtain ⟨t, rfl, rfl⟩ := succeeds_exactly.mp hv
  exact h _ hl.symm

theorem map {f : α → β} (h : Refuses p tokens) : Refuses (Parser.map f p) tokens := by
  refine .of_not_succeeds fun stop lexemes value rest hl hv => ?_
  obtain ⟨a, ha, -⟩ := succeeds_map.mp hv
  exact ha.not_fails (h hl)

theorem both (h : Refuses p tokens) : Refuses (Parser.both p q) tokens := by
  refine .of_not_succeeds fun stop lexemes value rest hl hv => ?_
  obtain ⟨mid, ha, -⟩ := succeeds_both.mp hv
  exact ha.not_fails (h hl)

theorem firstOf {others : List (Parser α)} (h : Refuses p tokens)
    (hothers : ∀ o ∈ others, Refuses o tokens) : Refuses (Parser.firstOf p others) tokens := by
  induction others generalizing p with
  | nil => exact h
  | cons o more ih =>
    refine .of_not_succeeds fun stop lexemes value rest hl hv => ?_
    rcases succeeds_firstOf_cons.mp hv with hp | ⟨-, ho⟩
    · exact hp.not_fails (h hl)
    · exact ho.not_fails (ih (hothers o (List.mem_cons_self ..))
        (fun o' ho' => hothers o' (List.mem_cons_of_mem _ ho')) hl)

theorem labelled {name : Expectation} (h : Refuses p tokens) :
    Refuses (Parser.labelled name p) tokens :=
  fun _ _ hl => fails_labelled.mpr (h hl)

end Refuses

namespace Reads

variable {p : Parser α} {q : Parser β} {tokens mid rest : List Token} {a : α} {b : β}

/-- A parser does one thing with a list of tokens. -/
theorem unique {a' : α} {rest' : List Token} (h : Reads p tokens a rest)
    (h' : Reads p tokens a' rest') : a = a' ∧ rest = rest' := by
  obtain ⟨lexemes, hl⟩ := exists_nodes_eq tokens
  obtain ⟨r, rfl, hs⟩ := h 0 hl
  obtain ⟨r', rfl, hs'⟩ := h' 0 hl
  obtain ⟨rfl, rfl⟩ := hs.unique hs'
  exact ⟨rfl, rfl⟩

/-- The head of what is read opens what the parser takes. -/
theorem opens {S : Token → Bool} (h : Reads p tokens a rest) (htakes : Takes (Opens S) p) :
    ∃ t more, tokens = t :: more ∧ S t = true := by
  obtain ⟨lexemes, hl⟩ := exists_nodes_eq tokens
  obtain ⟨r, rfl, hs⟩ := h 0 hl
  obtain ⟨read, rfl, ⟨⟨t, more, rfl, ht⟩, -⟩⟩ := htakes hs
  exact ⟨t.node, _, hl.symm, ht⟩

theorem token {wanted : Expectation} {f : Token → Option α} {t : Token} (h : f t = some a) :
    Reads (Parser.token wanted f) (t :: rest) a rest := by
  intro stop lexemes hl
  obtain ⟨u, more, rfl, rfl, rfl⟩ := nodes_eq_cons.mp hl
  exact ⟨more, rfl, succeeds_token.mpr ⟨u, rfl, h⟩⟩

theorem exactly {wanted : Expectation} {expected : Token} :
    Reads (Parser.exactly wanted expected) (expected :: rest) () rest := by
  intro stop lexemes hl
  obtain ⟨u, more, rfl, rfl, rfl⟩ := nodes_eq_cons.mp hl
  exact ⟨more, rfl, succeeds_exactly.mpr ⟨u, rfl, rfl⟩⟩

theorem mark {m : Mark} : Reads (Parser.mark m) (.mark m :: rest) () rest :=
  exactly

theorem map {f : α → β} (h : Reads p tokens a rest) : Reads (Parser.map f p) tokens (f a) rest := by
  intro stop lexemes hl
  obtain ⟨remaining, hr, hs⟩ := h stop hl
  exact ⟨remaining, hr, succeeds_map.mpr ⟨a, hs, rfl⟩⟩

theorem both (hp : Reads p tokens a mid) (hq : Reads q mid b rest) :
    Reads (Parser.both p q) tokens (a, b) rest := by
  intro stop lexemes hl
  obtain ⟨remaining, hr, hs⟩ := hp stop hl
  obtain ⟨remaining', hr', hs'⟩ := hq stop hr
  exact ⟨remaining', hr', succeeds_both.mpr ⟨remaining, hs, hs'⟩⟩

theorem before (hp : Reads p tokens a mid) (hq : Reads q mid b rest) :
    Reads (Parser.before p q) tokens a rest :=
  (hp.both hq).map

theorem after (hp : Reads p tokens a mid) (hq : Reads q mid b rest) :
    Reads (Parser.after p q) tokens b rest :=
  (hp.both hq).map

/-- The first parser of a choice reads. -/
theorem head {others : List (Parser α)} (h : Reads p tokens a rest) :
    Reads (Parser.firstOf p others) tokens a rest := by
  cases others with
  | nil => exact h
  | cons o more =>
    intro stop lexemes hl
    obtain ⟨remaining, hr, hs⟩ := h stop hl
    exact ⟨remaining, hr, succeeds_firstOf_cons.mpr (.inl hs)⟩

/-- The first parser of a choice refuses, so that the others decide. -/
theorem tail {o : Parser α} {others : List (Parser α)} (hp : Refuses p tokens)
    (h : Reads (Parser.firstOf o others) tokens a rest) :
    Reads (Parser.firstOf p (o :: others)) tokens a rest := by
  intro stop lexemes hl
  obtain ⟨remaining, hr, hs⟩ := h stop hl
  exact ⟨remaining, hr, succeeds_firstOf_cons.mpr (.inr ⟨hp hl, hs⟩)⟩

theorem optional (h : Reads p tokens a rest) :
    Reads (Parser.optional p) tokens (some a) rest := by
  intro stop lexemes hl
  obtain ⟨remaining, hr, hs⟩ := h stop hl
  exact ⟨remaining, hr, succeeds_optional.mpr (.inl ⟨a, rfl, hs⟩)⟩

theorem absent (h : Refuses p tokens) : Reads (Parser.optional p) tokens none tokens := by
  intro stop lexemes hl
  exact ⟨lexemes, hl, succeeds_optional.mpr (.inr ⟨rfl, rfl, h hl⟩)⟩

theorem many_nil {S : Token → Bool} (htakes : Takes (Opens S) p) (h : Refuses p tokens) :
    Reads (Parser.many p) tokens [] tokens := by
  intro stop lexemes hl
  exact ⟨lexemes, hl, htakes.succeeds_many.mpr (.inl ⟨rfl, rfl, h hl⟩)⟩

theorem many_cons {S : Token → Bool} {values : List α} (htakes : Takes (Opens S) p)
    (h : Reads p tokens a mid) (hmany : Reads (Parser.many p) mid values rest) :
    Reads (Parser.many p) tokens (a :: values) rest := by
  intro stop lexemes hl
  obtain ⟨remaining, hr, hs⟩ := h stop hl
  obtain ⟨remaining', hr', hs'⟩ := hmany stop hr
  exact ⟨remaining', hr',
    htakes.succeeds_many.mpr (.inr ⟨a, values, remaining, rfl, hs, hs'⟩)⟩

theorem many1 {values : List α} (h : Reads p tokens a mid)
    (hmany : Reads (Parser.many p) mid values rest) :
    Reads (Parser.many1 p) tokens (a :: values) rest :=
  (h.both hmany).map

theorem labelled {name : Expectation} (h : Reads p tokens a rest) :
    Reads (Parser.labelled name p) tokens a rest := by
  intro stop lexemes hl
  obtain ⟨remaining, hr, hs⟩ := h stop hl
  exact ⟨remaining, hr, succeeds_labelled.mpr hs⟩

theorem checked {check : α → Span → Except ParseError β} (h : Reads p tokens a rest)
    (hcheck : ∀ span, check a span = .ok b) : Reads (Parser.checked check p) tokens b rest := by
  intro stop lexemes hl
  obtain ⟨remaining, hr, hs⟩ := h stop hl
  exact ⟨remaining, hr, succeeds_checked.mpr ⟨a, hs, hcheck _⟩⟩

end Reads
end Parser
end GrammarText
