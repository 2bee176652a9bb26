/-
What parsers take off the front of the tokens.  A parser of an expression never takes a semicolon,
and one that may be repeated takes at least one token.  Both are said at once by `Opens S`: the
tokens taken start with one in `S` and have no semicolon among them.
-/
import GrammarText.Declaration.Parser
import GrammarText.Proofs.Parser.Success

namespace GrammarText

/-- The tokens that may start a term of a pattern or of a rule. -/
def Token.opensTerm : Token → Bool
  | tokenName _ | ruleName _ | literal _ | regex _ => true
  | mark .openParen | mark .dollar => true
  | _ => false

/-- The tokens that may start a quantifier. -/
def Token.opensQuantifier : Token → Bool
  | mark .question | mark .star | mark .plus | mark .openBrace => true
  | _ => false

namespace Parser

variable {α β : Type}

/-- No semicolon is among the tokens. -/
def Plain (tokens : List Lexeme) : Prop :=
  ∀ t ∈ tokens, t.node ≠ .mark .semicolon

/-- The tokens start with one in `S` and have no semicolon among them. -/
def Opens (S : Token → Bool) (tokens : List Lexeme) : Prop :=
  (∃ t more, tokens = t :: more ∧ S t.node = true) ∧ Plain tokens

/-- Every success of the parser takes tokens with the property off the front of the list. -/
def Takes (P : List Lexeme → Prop) (p : Parser α) : Prop :=
  ∀ ⦃stop tokens value rest⦄, Succeeds p stop tokens value rest →
    ∃ read, tokens = read ++ rest ∧ P read

theorem plain_nil : Plain [] := fun _ h => absurd h List.not_mem_nil

theorem Plain.append {a b : List Lexeme} (ha : Plain a) (hb : Plain b) : Plain (a ++ b) := by
  intro t ht
  rcases List.mem_append.mp ht with h | h
  · exact ha t h
  · exact hb t h

theorem Opens.append {S : Token → Bool} {a b : List Lexeme} (ha : Opens S a) (hb : Plain b) :
    Opens S (a ++ b) := by
  obtain ⟨⟨t, more, rfl, ht⟩, hplain⟩ := ha
  exact ⟨⟨t, more ++ b, rfl, ht⟩, hplain.append hb⟩

theorem Opens.length_pos {S : Token → Bool} {a : List Lexeme} (h : Opens S a) :
    0 < a.length := by
  obtain ⟨⟨t, more, rfl, -⟩, -⟩ := h
  exact Nat.succ_pos _

namespace Takes

variable {P Q : List Lexeme → Prop} {S : Token → Bool} {p : Parser α} {q : Parser β}

theorem imp (h : Takes P p) (hPQ : ∀ read, P read → Q read) : Takes Q p := by
  intro stop tokens value rest hp
  obtain ⟨read, hread, hP⟩ := h hp
  exact ⟨read, hread, hPQ read hP⟩

theorem plain (h : Takes (Opens S) p) : Takes Plain p := h.imp fun _ hr => hr.2

theorem token {wanted : Expectation} {read : Token → Option α}
    (h : ∀ t value, read t = some value → S t = true ∧ t ≠ .mark .semicolon) :
    Takes (Opens S) (Parser.token wanted read) := by
  intro stop tokens value rest hp
  obtain ⟨t, rfl, hv⟩ := succeeds_token.mp hp
  obtain ⟨hS, hne⟩ := h t.node value hv
  exact ⟨[t], rfl, ⟨t, [], rfl, hS⟩, fun u hu => by rwa [List.mem_singleton.mp hu]⟩

theorem exactly {wanted : Expectation} {expected : Token} (hS : S expected = true)
    (hne : expected ≠ .mark .semicolon) : Takes (Opens S) (Parser.exactly wanted expected) := by
  intro stop tokens value rest hp
  obtain ⟨t, rfl, ht⟩ := succeeds_exactly.mp hp
  refine ⟨[t], rfl, ⟨t, [], rfl, by rw [ht]; exact hS⟩, fun u hu => ?_⟩
  rw [List.mem_singleton.mp hu, ht]
  exact hne

theorem map {f : α → β} (h : Takes P p) : Takes P (Parser.map f p) := by
  intro stop tokens value rest hp
  obtain ⟨a, ha, -⟩ := succeeds_map.mp hp
  exact h ha

/-- What two parsers in turn take is what the first takes followed by what the second takes. -/
theorem join {R : List Lexeme → Prop} (hp : Takes P p) (hq : Takes Q q)
    (hR : ∀ a b, P a → Q b → R (a ++ b)) : Takes R (both p q) := by
  intro stop tokens value rest h
  obtain ⟨mid, ha, hb⟩ := succeeds_both.mp h
  obtain ⟨read, rfl, hread⟩ := hp ha
  obtain ⟨more, rfl, hmore⟩ := hq hb
  exact ⟨read ++ more, (List.append_assoc _ _ _).symm, hR read more hread hmore⟩

theorem both (hp : Takes (Opens S) p) (hq : Takes Plain q) :
    Takes (Opens S) (Parser.both p q) :=
  hp.join hq fun _ _ ha hb => ha.append hb

theorem before (hp : Takes (Opens S) p) (hq : Takes Plain q) :
    Takes (Opens S) (Parser.before p q) :=
  (hp.both hq).map

theorem after (hp : Takes (Opens S) p) (hq : Takes Plain q) :
    Takes (Opens S) (Parser.after p q) :=
  (hp.both hq).map

theorem plain_both (hp : Takes Plain p) (hq : Takes Plain q) : Takes Plain (Parser.both p q) :=
  hp.join hq fun _ _ ha hb => ha.append hb

theorem firstOf {others : List (Parser α)} (hp : Takes P p) (hothers : ∀ o ∈ others, Takes P o) :
    Takes P (Parser.firstOf p others) := by
  induction others generalizing p with
  | nil => exact hp
  | cons o more ih =>
    intro stop tokens value rest h
    rcases succeeds_firstOf_cons.mp h with hv | ⟨-, hv⟩
    · exact hp hv
    · exact ih (hothers o (List.mem_cons_self ..))
        (fun o' ho' => hothers o' (List.mem_cons_of_mem _ ho')) hv

theorem optional (hp : Takes Plain p) : Takes Plain (Parser.optional p) := by
  intro stop tokens value rest h
  rcases succeeds_optional.mp h with ⟨a, -, ha⟩ | ⟨-, rfl, -⟩
  · exact hp ha
  · exact ⟨[], rfl, plain_nil⟩

theorem collect (hp : Takes Plain p) (stop limit : Nat) (tokens : List Lexeme) :
    ∃ read, tokens = read ++ (Parser.collect p stop limit tokens).2.1 ∧ Plain read := by
  induction limit generalizing tokens with
  | zero => exact ⟨[], rfl, plain_nil⟩
  | succ limit ih =>
    rcases succeeds_or_fails p stop tokens with ⟨value, mid, hv⟩ | hf
    · obtain ⟨read, rfl, hread⟩ := hp hv
      obtain ⟨more, hmore, hplain⟩ := ih mid
      refine ⟨read ++ more, ?_, hread.append hplain⟩
      rw [(collect_of_succeeds limit hv).2, List.append_assoc, ← hmore]
    · exact ⟨[], (collect_of_fails limit hf).2.symm, plain_nil⟩

theorem many (hp : Takes Plain p) : Takes Plain (Parser.many p) := by
  intro stop tokens value rest h
  obtain ⟨-, rfl⟩ := succeeds_many.mp h
  exact collect hp stop _ tokens

theorem many1 (hp : Takes (Opens S) p) : Takes (Opens S) (Parser.many1 p) :=
  (hp.both hp.plain.many).map

theorem labelled {name : Expectation} (h : Takes P p) : Takes P (Parser.labelled name p) :=
  fun _ _ _ _ hp => h (succeeds_labelled.mp hp)

theorem checked {check : α → Span → Except ParseError β} (h : Takes P p) :
    Takes P (Parser.checked check p) := by
  intro stop tokens value rest hp
  obtain ⟨a, ha, -⟩ := succeeds_checked.mp hp
  exact h ha

theorem spanned (h : Takes P p) : Takes P (Parser.spanned p) :=
  fun _ _ _ _ hp => h (succeeds_spanned.mp hp).1

theorem length_lt (h : Takes (Opens S) p) {stop : Nat} {tokens rest : List Lexeme} {value : α}
    (hp : Succeeds p stop tokens value rest) : rest.length < tokens.length := by
  obtain ⟨read, rfl, hread⟩ := h hp
  have hpos := hread.length_pos
  rw [List.length_append]
  omega

/-- Limits that the tokens cannot exhaust make no difference to a repetition. -/
theorem collect_limit (h : Takes (Opens S) p) (stop : Nat) {limit limit' : Nat}
    {tokens : List Lexeme} (hlimit : tokens.length < limit) (hlimit' : tokens.length < limit') :
    Parser.collect p stop limit tokens = Parser.collect p stop limit' tokens := by
  induction limit generalizing limit' tokens with
  | zero => omega
  | succ limit ih =>
    cases limit' with
    | zero => omega
    | succ limit' =>
      unfold Parser.collect
      cases hv : p stop tokens with
      | failed setback => rfl
      | done value rest setback =>
        have hlt := h.length_lt ⟨_, hv⟩
        have hrest : rest.length < limit := by omega
        have hrest' : rest.length < limit' := by omega
        simp only [ih hrest hrest']

/-- A repetition ends where its parser fails.  Else it goes on behind the first success. -/
theorem succeeds_many (h : Takes (Opens S) p) {stop : Nat} {tokens rest : List Lexeme}
    {values : List α} :
    Succeeds (Parser.many p) stop tokens values rest ↔
      (values = [] ∧ rest = tokens ∧ Fails p stop tokens) ∨
        ∃ value later mid, values = value :: later ∧ Succeeds p stop tokens value mid ∧
          Succeeds (Parser.many p) stop mid later rest := by
  rw [Parser.succeeds_many]
  rcases succeeds_or_fails p stop tokens with ⟨value, mid, hv⟩ | hf
  · obtain ⟨hvalues, hrest⟩ := collect_of_succeeds tokens.length hv
    have hlt := h.length_lt hv
    rw [hvalues, hrest, h.collect_limit stop hlt (Nat.lt_succ_self mid.length)]
    constructor
    · intro ⟨hvs, hr⟩
      exact .inr ⟨value, _, mid, hvs.symm, hv, Parser.succeeds_many.mpr ⟨rfl, hr⟩⟩
    · intro hor
      rcases hor with ⟨-, -, hf⟩ | ⟨value', later, mid', rfl, hv', hlater⟩
      · exact absurd hf hv.not_fails
      · obtain ⟨rfl, rfl⟩ := hv.unique hv'
        obtain ⟨rfl, rfl⟩ := Parser.succeeds_many.mp hlater
        exact ⟨rfl, rfl⟩
  · obtain ⟨hvalues, hrest⟩ := collect_of_fails tokens.length hf
    rw [hvalues, hrest]
    constructor
    · intro ⟨hvs, hr⟩
      exact .inl ⟨hvs.symm, hr.symm, hf⟩
    · intro hor
      rcases hor with ⟨rfl, rfl, -⟩ | ⟨_, _, _, -, hv, -⟩
      · exact ⟨rfl, rfl⟩
      · exact absurd hf hv.not_fails

/-- A mark other than the semicolon is plain, whatever it may start. -/
theorem mark {m : Mark} (hm : m ≠ .semicolon) : Takes Plain (Parser.mark m) :=
  (exactly (S := fun _ => true) rfl (by simpa using hm)).plain

theorem opening {m : Mark} (hS : S (.mark m) = true) (hm : m ≠ .semicolon) :
    Takes (Opens S) (Parser.mark m) :=
  exactly hS (by simpa using hm)

end Takes
end Parser

open GrammarText.Parser

/- The parsers of the grammar, each with the tokens that may start what it reads. -/

namespace Quantifier

theorem integer_takes : Takes Plain integer := by
  refine (Takes.token (S := fun _ => true) fun t value h => ?_).plain
  cases t with
  | integer n => exact ⟨rfl, Token.noConfusion⟩
  | _ => cases h

theorem bounds_takes : Takes (Opens Token.opensQuantifier) bounds := by
  have hupper : Takes Plain (Parser.optional (after (mark .range) (Parser.optional integer))) :=
    ((Takes.mark (by decide)).plain_both integer_takes.optional).map.optional
  have hinside := (integer_takes.plain_both hupper).plain_both (Takes.mark (m := .closeBrace) nofun)
  exact (Takes.opening rfl (by decide)).after hinside.map

theorem parser_takes : Takes (Opens Token.opensQuantifier) parser := by
  refine (Takes.firstOf (Takes.opening rfl (by decide)).map fun p hp => ?_).labelled
  simp only [List.mem_cons, List.not_mem_nil, or_false] at hp
  rcases hp with rfl | rfl | rfl
  · exact (Takes.opening rfl (by decide)).map
  · exact (Takes.opening rfl (by decide)).map
  · exact bounds_takes.checked

end Quantifier

namespace Expr

variable {Leaf : Type} {term inner : Parser (Expr Leaf)}

/-- A separator with its quantifier. -/
theorem separator_takes (h : Takes (Opens Token.opensTerm) term) :
    Takes (Opens fun t => t = .mark .percent)
      (both (after (mark .percent) term) Quantifier.parser) :=
  ((Takes.opening (by simp) (by decide)).after h.plain).both Quantifier.parser_takes.plain

theorem separatedParser_takes (h : Takes (Opens Token.opensTerm) term) :
    Takes (Opens Token.opensTerm) (separatedParser term) :=
  (h.both (separator_takes h).plain.many).map

theorem quantifiedParser_takes (h : Takes (Opens Token.opensTerm) term) :
    Takes (Opens Token.opensTerm) (quantifiedParser term) :=
  ((separatedParser_takes h).both Quantifier.parser_takes.plain.optional).map

theorem sequenceParser_takes (h : Takes (Opens Token.opensTerm) term) :
    Takes (Opens Token.opensTerm) (sequenceParser term) :=
  (quantifiedParser_takes h).many1.map

theorem alternative_takes (h : Takes (Opens Token.opensTerm) term) :
    Takes (Opens fun t => t = .mark .bar) (after (mark .bar) (sequenceParser term)) :=
  (Takes.opening (by simp) (by decide)).after (sequenceParser_takes h).plain

theorem layers_takes (h : Takes (Opens Token.opensTerm) term) :
    Takes (Opens Token.opensTerm) (layers term) :=
  ((sequenceParser_takes h).both (alternative_takes h).plain.many).map

theorem group_takes (h : Takes Plain inner) : Takes (Opens Token.opensTerm) (group inner) :=
  (Takes.opening rfl (by decide)).after (h.plain_both (Takes.mark (by decide))).map

theorem tooDeep_takes {P : List Lexeme → Prop} : Takes P (tooDeep : Parser (Expr Leaf)) := by
  intro stop tokens value rest hs
  obtain ⟨setback, h⟩ := hs
  cases h

end Expr

namespace Pattern

theorem word_takes (w : Word) : Takes Plain (word w) :=
  (Takes.exactly (S := fun _ => true) rfl (by simp)).labelled.plain

theorem tokenName_takes : Takes (Opens Token.opensTerm) tokenName := by
  refine Takes.token fun t value h => ?_
  cases t with
  | tokenName name => exact ⟨rfl, Token.noConfusion⟩
  | _ => cases h

theorem literal_takes : Takes (Opens Token.opensTerm) literal := by
  refine Takes.token fun t value h => ?_
  cases t with
  | literal text => exact ⟨rfl, Token.noConfusion⟩
  | _ => cases h

theorem regex_takes : Takes (Opens Token.opensTerm) regex := by
  refine Takes.token fun t value h => ?_
  cases t with
  | regex body => exact ⟨rfl, Token.noConfusion⟩
  | _ => cases h

theorem literalRun_takes : Takes (Opens Token.opensTerm) literalRun := by
  have hmore : Takes Plain (after (mark .bar) literal) :=
    ((Takes.mark (by decide)).plain_both literal_takes.plain).map
  exact (literal_takes.both hmore.many).map

theorem keyword_takes : Takes Plain keyword := by
  refine Takes.firstOf ((word_takes _).plain_both literalRun_takes.plain).map.map fun p hp => ?_
  rw [List.mem_singleton.mp hp]
  exact literal_takes.plain.map

theorem numberKind_takes : Takes Plain numberKind := by
  refine Takes.firstOf (word_takes _).map fun p hp => ?_
  simp only [List.mem_cons, List.not_mem_nil, or_false] at hp
  rcases hp with rfl | rfl
  · exact (word_takes _).map
  · exact (word_takes _).map

theorem directive_takes : Takes (Opens Token.opensTerm) directive := by
  refine (Takes.opening rfl (by decide)).after (Takes.firstOf (word_takes _).map fun p hp => ?_)
  simp only [List.mem_cons, List.not_mem_nil, or_false] at hp
  rcases hp with rfl | rfl
  · exact ((word_takes _).plain_both keyword_takes).map
  · exact ((word_takes _).plain_both numberKind_takes.map).map

theorem termForms_takes {inner : Parser Pattern} (h : Takes Plain inner) :
    Takes (Opens Token.opensTerm) (termForms inner) := by
  refine Takes.firstOf (Expr.group_takes h) fun p hp => ?_
  simp only [List.mem_cons, List.not_mem_nil, or_false] at hp
  rcases hp with rfl | rfl | rfl | rfl
  · exact tokenName_takes.map
  · exact directive_takes.map
  · exact regex_takes.map
  · exact literalRun_takes.checked.map

theorem nested_takes (depth : Nat) : Takes (Opens Token.opensTerm) (nested depth) := by
  induction depth with
  | zero => exact Expr.tooDeep_takes
  | succ depth ih => exact Expr.layers_takes (termForms_takes ih.plain).labelled

theorem parser_takes : Takes (Opens Token.opensTerm) parser := by
  intro stop tokens value rest hs
  obtain ⟨setback, h⟩ := hs
  exact nested_takes (tokens.length + 1) ⟨setback, h⟩

end Pattern

namespace Rule

theorem ruleName_takes : Takes (Opens Token.opensTerm) ruleName := by
  refine Takes.token fun t value h => ?_
  cases t with
  | ruleName name => exact ⟨rfl, Token.noConfusion⟩
  | _ => cases h

theorem term_takes {inner : Parser Rule} (h : Takes Plain inner) :
    Takes (Opens Token.opensTerm) (term inner) := by
  refine (Takes.firstOf (Expr.group_takes h) fun p hp => ?_).labelled
  simp only [List.mem_cons, List.not_mem_nil, or_false] at hp
  rcases hp with rfl | rfl
  · exact ruleName_takes.map
  · exact (Pattern.termForms_takes Pattern.parser_takes.plain).map

theorem nested_takes (depth : Nat) : Takes (Opens Token.opensTerm) (nested depth) := by
  induction depth with
  | zero => exact Expr.tooDeep_takes
  | succ depth ih => exact Expr.layers_takes (term_takes ih.plain)

theorem parser_takes : Takes (Opens Token.opensTerm) parser := by
  intro stop tokens value rest hs
  obtain ⟨setback, h⟩ := hs
  exact nested_takes (tokens.length + 1) ⟨setback, h⟩

end Rule

namespace Declaration

/-- The side and the greed of a skip strategy are each one of two words. -/
theorem twoWords_takes (a b : Word) (v w : Bool) : Takes Plain
    (firstOf (map (fun _ => v) (Pattern.word a)) [map (fun _ => w) (Pattern.word b)]) := by
  refine Takes.firstOf (Pattern.word_takes a).map fun p hp => ?_
  rw [List.mem_singleton.mp hp]
  exact (Pattern.word_takes b).map

theorem header_takes : Takes Plain header := by
  have hskip : Takes Plain skipStrategy :=
    ((twoWords_takes _ _ _ _).plain_both (twoWords_takes _ _ _ _).optional).optional.map
  have hmain := (Pattern.word_takes .main).plain_both
    (Rule.ruleName_takes.plain.optional.map (f := Header.main))
  refine Takes.firstOf ((Takes.mark (by decide)).plain_both
    (Takes.firstOf hmain.map fun p hp => ?_)).map fun p hp => ?_
  · rw [List.mem_singleton.mp hp]
    exact ((Pattern.word_takes .skip).plain_both hskip.map).map
  · rw [List.mem_singleton.mp hp]
    exact Rule.ruleName_takes.plain.map

end Declaration
end GrammarText
