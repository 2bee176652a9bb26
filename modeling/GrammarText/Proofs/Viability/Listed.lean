/-
What an error lists.  Each description in an error stands for some tokens, and it is right where one
of them goes on with what was read.  A label describes a construct by its name, and it replaces what
was listed in every error that has no name yet, be it at the start of the construct or inside.  So
beside the descriptions it is followed behind which tokens an error may arise that has no name.
-/
import GrammarText.Proofs.Viability.Declaration

namespace GrammarText

open Computability GrammarText.Parser

namespace Grammar

/-- The tokens that a description stands for.  The name of a construct stands for those that can
begin one. -/
def Describes : Expectation → Token → Prop
  | .endOfInput, _ => False
  | .tokenName, t => ∃ name, t = .tokenName name
  | .ruleName, t => ∃ name, t = .ruleName name
  | .word w, t => t = .ruleName w.text
  | .literal, t => ∃ text, t = .literal text
  | .regex, t => ∃ body, t = .regex body
  | .integer, t => ∃ value, t = .integer value
  | .mark m, t => t = .mark m
  | .tokenExpression, t => Begun (Shape.expression Shape.patternAtom) [t]
  | .ruleExpression, t => Begun (Shape.expression Shape.ruleAtom) [t]
  | .quantifier, t => Begun Shape.quantifier [t]

/-- One of the tokens that the description stands for may come next. -/
def Accepted (K : Language Token) (x : Expectation) (read : List Token) : Prop :=
  ∃ t, Describes x t ∧ Begun K (read ++ [t])

/-- The terms that end in a run of literals. -/
def Shape.literals : Language Token :=
  run + mark .dollar * (word "keyword" * (word "choice" * run))

/-- Where the name of a construct replaces what was wanted inside of it, although none can come
next: a quantifier between the braces of another, and an expression behind the literals of a
separator. -/
def Misnamed : Expectation → List Token → Prop
  | .quantifier, read => ∃ before inside,
      read = before ++ .mark .openBrace :: inside ∧ .mark .closeBrace ∉ inside
  | .tokenExpression, read | .ruleExpression, read => ∃ before separator,
      read = before ++ .mark .percent :: separator ∧ separator ∈ Shape.literals
  | _, _ => False

/-- The description is right, or it is one of those that labels get wrong. -/
def Listed (K : Language Token) (x : Expectation) (read : List Token) : Prop :=
  Misnamed x read ∨ Accepted K x read

variable {A B D K : Language Token} {x : Expectation} {read : List Token}

theorem Accepted.mono (hAB : A ≤ B) (h : Accepted A x read) : Accepted B x read := by
  obtain ⟨t, ht, hbegun⟩ := h
  exact ⟨t, ht, hbegun.mono hAB⟩

theorem Begun.behind {a v : List Token} (ha : a ∈ A) (h : Begun B v) :
    Begun (A * B) (a ++ v) := by
  obtain ⟨later, hw⟩ := h
  exact ⟨later, by rw [List.append_assoc]; exact Language.append_mem_mul ha hw⟩

theorem Accepted.behind {a : List Token} (ha : a ∈ A) (h : Accepted B x read) :
    Accepted (A * B) x (a ++ read) := by
  obtain ⟨t, ht, hbegun⟩ := h
  exact ⟨t, ht, by rw [List.append_assoc]; exact hbegun.behind ha⟩

theorem Misnamed.behind (a : List Token) (h : Misnamed x read) : Misnamed x (a ++ read) := by
  cases x with
  | quantifier | tokenExpression | ruleExpression =>
    obtain ⟨before, inside, rfl, hinside⟩ := h
    exact ⟨a ++ before, inside, by rw [List.append_assoc], hinside⟩
  | _ => exact h.elim

namespace Listed

theorem mono (hAB : A ≤ B) (h : Listed A x read) : Listed B x read :=
  h.imp_right fun h => h.mono hAB

theorem behind {a : List Token} (ha : a ∈ A) (h : Listed B x read) :
    Listed (A * B) x (a ++ read) :=
  h.imp (fun h => h.behind a) fun h => h.behind ha

theorem mul (h : Listed A x read) (hB : ∃ w, w ∈ B) : Listed (A * B) x read :=
  h.imp_right fun ⟨t, ht, hbegun⟩ => ⟨t, ht, hbegun.mul hB⟩

end Listed

variable {α β : Type} {ok ok' okp okq : Expectation → List Token → Prop}
  {N N' M : Language Token} {tokens rest : List Lexeme} {a b s : Setback}

/-- An ordinary error stands behind tokens where `ok` holds of all that it lists.  If it has no name
they make a word of `N`. -/
def Explains (ok : Expectation → List Token → Prop) (N : Language Token) (tokens : List Lexeme)
    (s : Setback) : Prop :=
  s.error.fault = .unexpected → ∃ read left, tokens = read ++ left ∧ left.length = s.left ∧
    (∀ x ∈ s.error.expected, ok x (nodes read)) ∧ (s.error.label = none → nodes read ∈ N)

namespace Explains

theorem imp (h : Explains ok N tokens s) (hok : ∀ x read, ok x read → ok' x read) (hN : N ≤ N') :
    Explains ok' N' tokens s := by
  intro hfault
  obtain ⟨read, left, htokens, hlen, hall, hlabel⟩ := h hfault
  exact ⟨read, left, htokens, hlen, fun x hx => hok x _ (hall x hx), fun h => hN (hlabel h)⟩

/-- An error at the first of the tokens. -/
theorem here (hleft : s.left = tokens.length) (hok : ∀ x ∈ s.error.expected, ok x [])
    (hN : [] ∈ N) : Explains ok N tokens s :=
  fun _ => ⟨[], tokens, rfl, hleft.symm, hok, fun _ => hN⟩

theorem atHead {wanted : Expectation} {stop : Nat} (h : AtHead wanted stop tokens s)
    (hok : ok wanted []) : Explains ok 1 tokens s := by
  refine here h.left (fun x hx => ?_) rfl
  rcases h.expected with heq | heq <;> rw [heq] at hx
  · cases hx
  · rwa [List.mem_singleton.mp hx]

/-- An error behind tokens that have been read. -/
theorem behind {taken : List Lexeme} (h : Explains okq M rest s) (htokens : tokens = taken ++ rest)
    (htaken : Spells A taken) (hok : ∀ x a r, a ∈ A → okq x r → ok x (a ++ r)) :
    Explains ok (A * M) tokens s := by
  intro hfault
  obtain ⟨read, left, rfl, hlen, hall, hlabel⟩ := h hfault
  refine ⟨taken ++ read, left, by rw [htokens, List.append_assoc], hlen, fun x hx => ?_,
    fun h => ?_⟩
  · rw [nodes_append]
    exact hok x _ _ htaken (hall x hx)
  · rw [nodes_append]
    exact Language.append_mem_mul htaken (hlabel h)

theorem furthest (ha : Explains ok N tokens a) (hb : Explains ok N tokens b) :
    Explains ok N tokens (a.furthest b) := by
  rcases a.furthest_cases b with heq | heq | ⟨hsame, hfault, hfault', heq⟩
  · rwa [heq]
  · rwa [heq]
  obtain ⟨read, left, rfl, hlen, hall, hlabel⟩ := ha hfault
  obtain ⟨read', left', htokens, hlen', hall', -⟩ := hb hfault'
  -- Both stand at the same place, so what was read before it is the same.
  obtain ⟨rfl, -⟩ := List.append_inj' htokens (by omega)
  rw [heq, ParseError.merge_of_unexpected hfault hfault']
  refine fun _ => ⟨read, left, rfl, hlen, fun x hx => ?_, fun h => ?_⟩
  · exact (Expectation.mem_union_iff.mp hx).elim (hall x) (hall' x)
  · exact hlabel (Option.or_eq_none_iff.mp h).1

/-- A name is listed instead where the error has none. -/
theorem withLabel {name : Expectation} (h : Explains ok N tokens s)
    (hok : ∀ x read, ok x read → ok' x read) (hname : ∀ read ∈ N, ok' name read) :
    Explains ok' 0 tokens (s.withLabel name) := by
  intro hfault
  have hordinary := (s.error.withLabel_fault name).symm.trans hfault
  obtain ⟨read, left, htokens, hlen, hall, hlabel⟩ := h hordinary
  refine ⟨read, left, htokens, hlen, ?_⟩
  show (∀ x ∈ (s.error.withLabel name).expected, _) ∧ ((s.error.withLabel name).label = none → _)
  cases hl : s.error.label with
  | none =>
    rw [ParseError.withLabel_of_unnamed hl hordinary]
    refine ⟨fun x hx => ?_, nofun⟩
    rw [List.mem_singleton.mp hx]
    exact hname _ (hlabel hl)
  | some other =>
    rw [ParseError.withLabel_of_label hl]
    exact ⟨fun x hx => hok x _ (hall x hx), fun h => nomatch hl.symm.trans h⟩

end Explains

/-- Every error of the parser, be it of a success or of a failure, is explained. -/
def Lists (ok : Expectation → List Token → Prop) (N : Language Token) (p : Parser α) : Prop :=
  ∀ stop tokens, ∀ s ∈ (p stop tokens).setback, Explains ok N tokens s

variable {p : Parser α} {q : Parser β}

namespace Lists

theorem imp (h : Lists ok N p) (hok : ∀ x read, ok x read → ok' x read) (hN : N ≤ N') :
    Lists ok' N' p :=
  fun stop tokens s hs => (h stop tokens s hs).imp hok hN

theorem exactly {wanted : Expectation} {expected : Token} (hok : ok wanted []) :
    Lists ok 1 (Parser.exactly wanted expected) :=
  fun _ _ s hs => .atHead (setback_exactly s hs) hok

theorem token {wanted : Expectation} {read : Token → Option α} (hok : ok wanted []) :
    Lists ok 1 (Parser.token wanted read) :=
  fun _ _ s hs => .atHead (setback_token s hs) hok

theorem map {f : α → β} (h : Lists ok N p) : Lists ok N (Parser.map f p) :=
  fun stop tokens => setback_map f (h stop tokens)

theorem both (hp : Lists okp N p) (hq : Lists okq M q) (hspells : Takes (Spells A) p)
    (hfirst : ∀ x r, okp x r → ok x r) (hsecond : ∀ x a r, a ∈ A → okq x r → ok x (a ++ r)) :
    Lists ok (N + A * M) (Parser.both p q) := by
  intro stop tokens
  refine setback_both (fun _ _ ha hb => ha.furthest hb)
    (fun s hs => (hp stop tokens s hs).imp hfirst le_sup_left) fun value mid hdone s hs => ?_
  obtain ⟨taken, htokens, htaken⟩ := hspells hdone
  exact ((hq stop mid s hs).behind htokens htaken hsecond).imp (fun _ _ => id) le_sup_right

theorem firstOf {o : Parser α} {others : List (Parser α)} (hp : Lists ok N p)
    (ho : Lists ok M (Parser.firstOf o others)) :
    Lists ok (N + M) (Parser.firstOf p (o :: others)) :=
  fun stop tokens => setback_firstOf (fun _ _ ha hb => ha.furthest hb)
    (fun s hs => (hp stop tokens s hs).imp (fun _ _ => id) le_sup_left)
    fun s hs => (ho stop tokens s hs).imp (fun _ _ => id) le_sup_right

theorem optional (h : Lists ok N p) : Lists ok N (Parser.optional p) :=
  fun stop tokens => setback_optional (h stop tokens)

theorem many (h : Lists okp N p) (hspells : Takes (Spells D) p)
    (hok : ∀ x a r, a ∈ D∗ → okp x r → ok x (a ++ r)) : Lists ok (D∗ * N) (Parser.many p) := by
  intro stop tokens
  -- The repetition gets to the places behind words of the repeated language.
  refine setback_many (fun _ _ ha hb => ha.furthest hb)
    (fun mid => ∃ taken, tokens = taken ++ mid ∧ nodes taken ∈ D∗)
    ⟨[], rfl, Language.nil_mem_kstar _⟩ ?_
  rintro mid ⟨taken, rfl, htaken⟩
  refine ⟨fun s hs => (h stop mid s hs).behind rfl htaken hok, fun value rest hdone => ?_⟩
  obtain ⟨more, rfl, hmore⟩ := hspells hdone
  refine ⟨taken ++ more, by rw [List.append_assoc], ?_⟩
  rw [nodes_append]
  exact (kstar_mul_le_kstar : D∗ * D ≤ D∗) (Language.append_mem_mul htaken hmore)

theorem labelled {name : Expectation} (h : Lists ok N p) (hok : ∀ x read, ok x read → ok' x read)
    (hname : ∀ read ∈ N, ok' name read) : Lists ok' 0 (Parser.labelled name p) :=
  fun stop tokens =>
    setback_labelled (fun _ hs => hs.withLabel hok hname) (h stop tokens)

theorem checked {check : α → Span → Except ParseError β} (h : Lists ok N p)
    (hcheck : ChecksValue check) : Lists ok N (Parser.checked check p) := by
  intro stop tokens
  refine setback_checked (fun value rest span e _ he hfault => ?_) (h stop tokens)
  rcases hcheck value with ⟨result, hresult⟩ | ⟨fault, hother, herror⟩
  · rw [hresult] at he
    cases he
  · rw [herror] at he
    cases he
    exact absurd hfault hother

end Lists

/-- A parser of a language all of whose errors list what the language goes on with, and have names
but behind the words of `N`. -/
structure Informs (A N : Language Token) (p : Parser α) : Prop where
  spells : Takes (Spells A) p
  inhabited : ∃ w, w ∈ A
  lists : Lists (Listed A) N p

namespace Informs

theorem weaken (h : Informs A N p) (hN : N ≤ M) : Informs A M p :=
  ⟨h.spells, h.inhabited, h.lists.imp (fun _ _ => id) hN⟩

theorem exactly {wanted : Expectation} {expected : Token} (h : Describes wanted expected) :
    Informs (Shape.one (· = expected)) 1 (Parser.exactly wanted expected) :=
  ⟨spells_exactly _ _, ⟨_, _, rfl, rfl⟩, .exactly (.inr ⟨expected, h, [], _, rfl, rfl⟩)⟩

theorem mark (m : Mark) : Informs (Shape.mark m) 1 (Parser.mark m) :=
  .exactly rfl

theorem token {wanted : Expectation} {read : Token → Option α} {S : Token → Prop} {t : Token}
    (hspells : Takes (Spells (Shape.one S)) (Parser.token wanted read)) (ht : S t)
    (h : Describes wanted t) : Informs (Shape.one S) 1 (Parser.token wanted read) :=
  ⟨hspells, ⟨_, _, ht, rfl⟩, .token (.inr ⟨t, h, [], t, ht, rfl⟩)⟩

theorem map {f : α → β} (h : Informs A N p) : Informs A N (Parser.map f p) :=
  ⟨h.spells.map, h.inhabited, h.lists.map⟩

theorem both (hp : Informs A N p) (hq : Informs B M q) :
    Informs (A * B) (N + A * M) (Parser.both p q) := by
  obtain ⟨a, ha⟩ := hp.inhabited
  obtain ⟨b, hb⟩ := hq.inhabited
  exact ⟨spells_both hp.spells hq.spells, ⟨a ++ b, Language.append_mem_mul ha hb⟩,
    hp.lists.both hq.lists hp.spells (fun _ _ h => h.mul ⟨b, hb⟩) fun _ _ _ ha h => h.behind ha⟩

theorem before (hp : Informs A N p) (hq : Informs B M q) :
    Informs (A * B) (N + A * M) (Parser.before p q) :=
  (hp.both hq).map

theorem after (hp : Informs A N p) (hq : Informs B M q) :
    Informs (A * B) (N + A * M) (Parser.after p q) :=
  (hp.both hq).map

/-- A choice with one parser alone. -/
theorem only (h : Informs A N p) : Informs A N (Parser.firstOf p []) :=
  h

theorem firstOf {o : Parser α} {others : List (Parser α)} (hp : Informs A N p)
    (ho : Informs B M (Parser.firstOf o others)) :
    Informs (A + B) (N + M) (Parser.firstOf p (o :: others)) := by
  obtain ⟨a, ha⟩ := hp.inhabited
  refine ⟨spells_firstOf hp.spells ho.spells, ⟨a, .inl ha⟩, ?_⟩
  exact (hp.lists.imp (fun _ _ h => h.mono le_sup_left) le_rfl).firstOf
    (ho.lists.imp (fun _ _ h => h.mono le_sup_right) le_rfl)

theorem optional (h : Informs A N p) : Informs (1 + A) N (Parser.optional p) :=
  ⟨spells_optional h.spells, ⟨[], .inl rfl⟩,
    h.lists.optional.imp (fun _ _ h => h.mono le_sup_right) le_rfl⟩

theorem many (h : Informs A N p) : Informs A∗ (A∗ * N) (Parser.many p) := by
  refine ⟨spells_many h.spells, ⟨[], Language.nil_mem_kstar _⟩,
    h.lists.many h.spells fun x a r ha hr => ?_⟩
  exact (hr.behind ha).mono kstar_mul_le_kstar

theorem labelled {name : Expectation} (h : Informs A N p) (hname : ∀ read ∈ N, Listed A name read) :
    Informs A 0 (Parser.labelled name p) :=
  ⟨h.spells.labelled, h.inhabited, h.lists.labelled (fun _ _ => id) hname⟩

theorem checked {check : α → Span → Except ParseError β} (h : Informs A N p)
    (hcheck : ChecksValue check) : Informs A N (Parser.checked check p) :=
  ⟨h.spells.checked, h.inhabited, h.lists.checked hcheck⟩

end Informs

end Grammar
end GrammarText
