/-
The combinators one by one.  If the outcomes of the parts can be forecast, that of the whole can.
-/
import GrammarText.Proofs.Viability.Forecast

namespace GrammarText

open Computability GrammarText.Parser

namespace Parser

/-- A repetition is one round of it and the rest of the rounds. -/
theorem many_of_done {α : Type} {p : Parser α} {S : Token → Bool} (htakes : Takes (Opens S) p)
    {stop : Nat} {tokens mid rest : List Lexeme} {value : α} {values : List α}
    {s later : Option Setback} (h : p stop tokens = .done value mid s)
    (hmany : many p stop mid = .done values rest later) :
    many p stop tokens = .done (value :: values) rest (Setback.latest s later) := by
  have hless := htakes.length_lt ⟨s, h⟩
  have hcollect := htakes.collect_limit stop hless (Nat.lt_succ_self mid.length)
  unfold many at hmany ⊢
  rw [collect, h]
  simp only [hcollect]
  simp only [Outcome.done.injEq] at hmany
  obtain ⟨rfl, rfl, rfl⟩ := hmany
  rfl

theorem many_of_failed {α : Type} {p : Parser α} {stop : Nat} {tokens : List Lexeme} {s : Setback}
    (h : p stop tokens = .failed s) : many p stop tokens = .done [] tokens (some s) := by
  unfold many
  rw [collect, h]

end Parser

namespace Grammar

/- Outcomes.  What comes of a combinator follows the outcomes of its parts. -/

namespace Forecast.Of

variable {α β : Type} {p o : Parser α} {q : Parser β} {others : List (Parser α)} {stop : Nat}
  {tokens read next : List Lexeme} {value : α} {value' : β} {rest rest' : List Lexeme}
  {k k' : Outlook} {f g : Option Outlook}

theorem map_done (h : Of next (.done value rest f) (p stop tokens)) (make : α → β) :
    Of next (.done (make value) rest f) (map make p stop tokens) := by
  obtain ⟨s, hs, hf⟩ := h
  exact ⟨s, by rw [map, hs], hf⟩

theorem map_failed (h : Of next (.failed k) (p stop tokens)) (make : α → β) :
    Of next (.failed k) (map make p stop tokens) := by
  obtain ⟨s, hs, hk⟩ := h
  exact ⟨s, by rw [map, hs], hk⟩

theorem both_done (h : Of next (.done value rest f) (p stop tokens))
    (h' : Of next (.done value' rest' g) (q stop (rest ++ next))) :
    Of next (.done (value, value') rest' (Outlook.latest f g)) (both p q stop tokens) := by
  obtain ⟨s, hs, hf⟩ := h
  obtain ⟨s', hs', hg⟩ := h'
  exact ⟨Setback.latest s s', by simp only [both, hs, hs'], hf.latest hg⟩

theorem both_failed (h : Of next (.failed k) (p stop tokens)) :
    Of next (.failed k) (both p q stop tokens) := by
  obtain ⟨s, hs, hk⟩ := h
  exact ⟨s, by rw [both, hs], hk⟩

/-- The second parser fails behind the first. -/
theorem both_later (h : Of next (.done value rest f) (p stop tokens))
    (h' : Of next (.failed k) (q stop (rest ++ next))) :
    Of next (.failed (k.max f)) (both p q stop tokens) := by
  obtain ⟨s, hs, hf⟩ := h
  obtain ⟨s', hs', hk⟩ := h'
  exact ⟨s'.max s, by simp only [both, hs, hs'], hk.max hf⟩

theorem before_failed (h : Of next (.failed k) (p stop tokens)) :
    Of next (.failed k) (before p q stop tokens) :=
  h.both_failed.map_failed _

theorem before_later (h : Of next (.done value rest f) (p stop tokens))
    (h' : Of next (.failed k) (q stop (rest ++ next))) :
    Of next (.failed (k.max f)) (before p q stop tokens) :=
  (h.both_later h').map_failed _

theorem after_done (h : Of next (.done value rest f) (p stop tokens))
    (h' : Of next (.done value' rest' g) (q stop (rest ++ next))) :
    Of next (.done value' rest' (Outlook.latest f g)) (after p q stop tokens) :=
  (h.both_done h').map_done Prod.snd

theorem after_failed (h : Of next (.failed k) (p stop tokens)) :
    Of next (.failed k) (after p q stop tokens) :=
  h.both_failed.map_failed _

theorem firstOf_done (h : Of next (.done value rest f) (p stop tokens)) :
    Of next (.done value rest f) (firstOf p (o :: others) stop tokens) := by
  obtain ⟨s, hs, hf⟩ := h
  exact ⟨s, by rw [firstOf, hs], hf⟩

/-- The first parser of a choice fails and another succeeds. -/
theorem firstOf_later (h : Of next (.failed k) (p stop tokens))
    (h' : Of next (.done value rest g) (firstOf o others stop tokens)) :
    Of next (.done value rest (Outlook.latest (some k) g))
      (firstOf p (o :: others) stop tokens) := by
  obtain ⟨s, hs, hk⟩ := h
  obtain ⟨s', hs', hg⟩ := h'
  refine ⟨Setback.latest (some s) s', by simp only [firstOf, hs, hs'], ?_⟩
  exact Outlook.OfOption.latest (f := some k) (o := some s) hk hg

theorem firstOf_failed (h : Of next (.failed k) (p stop tokens))
    (h' : Of next (.failed k') (firstOf o others stop tokens)) :
    Of next (.failed (k'.furthest k)) (firstOf p (o :: others) stop tokens) := by
  obtain ⟨s, hs, hk⟩ := h
  obtain ⟨s', hs', hk'⟩ := h'
  exact ⟨s'.furthest s, by simp only [firstOf, hs, hs'], hk'.furthest hk⟩

theorem optional_done (h : Of next (.done value rest f) (p stop tokens)) :
    Of next (.done (some value) rest f) (Parser.optional p stop tokens) := by
  obtain ⟨s, hs, hf⟩ := h
  exact ⟨s, by rw [Parser.optional, hs], hf⟩

theorem optional_failed (h : Of next (.failed k) (p stop (read ++ next))) :
    Of next (.done none read (some k)) (Parser.optional p stop (read ++ next)) := by
  obtain ⟨s, hs, hk⟩ := h
  exact ⟨some s, by rw [Parser.optional, hs], hk⟩

theorem many_done {S : Token → Bool} (htakes : Takes (Opens S) p) {values : List α}
    (h : Of next (.done value rest f) (p stop tokens))
    (h' : Of next (.done values rest' g) (many p stop (rest ++ next))) :
    Of next (.done (value :: values) rest' (Outlook.latest f g)) (many p stop tokens) := by
  obtain ⟨s, hs, hf⟩ := h
  obtain ⟨s', hs', hg⟩ := h'
  exact ⟨Setback.latest s s', many_of_done htakes hs hs', hf.latest hg⟩

theorem many_failed (h : Of next (.failed k) (p stop (read ++ next))) :
    Of next (.done [] read (some k)) (many p stop (read ++ next)) := by
  obtain ⟨s, hs, hk⟩ := h
  exact ⟨some s, many_of_failed hs, hk⟩

theorem labelled_done (h : Of next (.done value rest f) (p stop tokens)) (name : Expectation) :
    Of next (.done value rest (f.map (Outlook.withLabel name))) (labelled name p stop tokens) := by
  obtain ⟨s, hs, hf⟩ := h
  refine ⟨s.map (Setback.withLabel name), by rw [labelled, hs], ?_⟩
  cases f <;> cases s
  · trivial
  · exact hf
  · exact hf
  · exact Outlook.Of.withLabel hf name

theorem labelled_failed (h : Of next (.failed k) (p stop tokens)) (name : Expectation) :
    Of next (.failed (k.withLabel name)) (labelled name p stop tokens) := by
  obtain ⟨s, hs, hk⟩ := h
  exact ⟨s.withLabel name, by rw [labelled, hs], Outlook.Of.withLabel hk name⟩

theorem exactly_done {wanted : Expectation} {expected : Token} {t : Lexeme}
    (h : t.node = expected) :
    Of next (.done () rest none) (exactly wanted expected stop (t :: (rest ++ next))) :=
  ⟨none, if_pos h, trivial⟩

theorem exactly_inside {wanted : Expectation} {expected : Token} {t : Lexeme}
    (h : t.node ≠ expected) : Of next (.failed (.inside rest.length))
      (exactly wanted expected stop (t :: (rest ++ next))) := by
  refine ⟨_, if_neg h, ?_⟩
  show (rest ++ next).length + 1 = rest.length + 1 + next.length
  rw [List.length_append]
  omega

/-- One particular token is listed at the end as before another token. -/
theorem exactly_failed {wanted : Expectation} {expected : Token}
    (h : Barred (Shape.one (· = expected)) [] (nodes next)) :
    Of next (.failed (.behind ⟨.unexpected, none, {wanted}, ∅⟩))
      (exactly wanted expected stop next) := by
  cases next with
  | nil => exact ⟨_, rfl, rfl, rfl, rfl, fun _ x => by simp [ParseError.unexpected]⟩
  | cons t rest =>
    have ht : t.node ≠ expected := fun heq => h ⟨[], t.node, heq, rfl⟩
    exact ⟨_, if_neg ht, rfl, rfl, rfl, fun _ x => by simp [ParseError.unexpected]⟩

theorem token_inside {wanted : Expectation} {make : Token → Option α} {t : Lexeme}
    (h : make t.node = none) : Of next (.failed (.inside rest.length))
      (token wanted make stop (t :: (rest ++ next))) := by
  refine ⟨⟨(rest ++ next).length + 1, .unexpected t.span [wanted] (some t.node)⟩, ?_, ?_⟩
  · simp only [token, h]
  · show (rest ++ next).length + 1 = rest.length + 1 + next.length
    rw [List.length_append]
    omega

/-- One token of a kind is not listed at the end. -/
theorem token_failed {wanted : Expectation} {make : Token → Option α} {S : Token → Prop}
    (hS : ∀ t, (make t).isSome ↔ S t) (h : Barred (Shape.one S) [] (nodes next)) :
    Of next (.failed (.behind ⟨.unexpected, none, ∅, {wanted}⟩)) (token wanted make stop next) := by
  cases next with
  | nil => exact ⟨_, rfl, rfl, rfl, rfl, fun _ x => by simp [ParseError.unexpected]⟩
  | cons t rest =>
    have hnone : make t.node = none := by
      rw [← Option.not_isSome_iff_eq_none, hS]
      exact fun ht => h ⟨[], t.node, ht, rfl⟩
    refine ⟨⟨rest.length + 1, .unexpected t.span [wanted] (some t.node)⟩, ?_, rfl, rfl, rfl,
      fun _ x => by simp [ParseError.unexpected]⟩
    simp only [token, hnone]

end Forecast.Of

/- Accounts. -/

/-- A property of the errors behind some tokens, in terms of their label and of what is left out of
them at the end. -/
abbrev Account : Type :=
  List Token → Option Expectation → Set Expectation → Prop

namespace Account

/-- An error behind the tokens lies where a word of the language has begun.  Unless it is about a
value it is accounted for, and at the end it lists no kind of token. -/
def Allows (a : Account) (D : Language Token) (read : List Token) (n : Notice) : Prop :=
  Begun D read ∧ (n.fault = .unexpected →
    a read n.label n.omitted ∧ ∀ x ∈ n.listed, x.isKind = false)

/-- What is said of two errors is said of the one that comes of them. -/
def Joint (a : Account) : Prop :=
  ∀ read l l' o o', a read l o → a read l' o' → a read (l <|> l') (o ∪ o')

/-- What is said behind some more tokens. -/
def past (a : Account) (before : List Token) : Account :=
  fun read => a (before ++ read)

/-- What is said everywhere but behind some tokens. -/
def except (a : Account) (before : List Token) : Account :=
  fun read l o => read ≠ before → a read l o

variable {a b : Account} {A B D : Language Token} {read read' : List Token} {n : Notice}

theorem Joint.past (h : a.Joint) (before : List Token) : (a.past before).Joint :=
  fun read => h (before ++ read)

theorem Joint.except (h : a.Joint) (before : List Token) : (a.except before).Joint :=
  fun _ _ _ _ _ ho ho' hread => h _ _ _ _ _ (ho hread) (ho' hread)

theorem except_self (before : List Token) (l : Option Expectation) (o : Set Expectation) :
    a.except before before l o :=
  fun h => absurd rfl h

theorem Allows.imp (h : a.Allows A read n) (hbegun : Begun A read → Begun B read')
    (hab : ∀ l o, Begun A read → a read l o → b read' l o) : b.Allows B read' n :=
  ⟨hbegun h.1, fun hfault => (h.2 hfault).imp_left (hab _ _ h.1)⟩

theorem Joint.allows (h : a.Joint) (n n' : Notice) (hn : a.Allows D read n)
    (hn' : a.Allows D read n') : a.Allows D read (n.merge n') := by
  refine ⟨hn.1, fun hfault => ?_⟩
  unfold Notice.merge at hfault ⊢
  by_cases hvalue : n.fault ≠ .unexpected
  · rw [if_pos hvalue] at hfault ⊢
    exact absurd hfault hvalue
  by_cases hvalue' : n'.fault ≠ .unexpected
  · rw [if_neg hvalue, if_pos hvalue'] at hfault ⊢
    exact absurd hfault hvalue'
  rw [if_neg hvalue, if_neg hvalue']
  obtain ⟨haccount, hlisted⟩ := hn.2 (not_not.mp hvalue)
  obtain ⟨haccount', hlisted'⟩ := hn'.2 (not_not.mp hvalue')
  exact ⟨h _ _ _ _ _ haccount haccount', fun x hx => hx.elim (hlisted x) (hlisted' x)⟩

theorem Allows.withLabel {name : Expectation} (hname : name.isKind = false)
    (hnew : ∀ o, Begun D read → a read none o → b read (some name) ∅)
    (hkept : ∀ l o, Begun D read → a read (some l) o → b read (some l) o)
    (h : a.Allows D read n) : b.Allows D read (n.withLabel name) := by
  refine ⟨h.1, fun hfault => ?_⟩
  unfold Notice.withLabel at hfault ⊢
  by_cases hunnamed : n.label = none ∧ n.fault = .unexpected
  · obtain ⟨haccount, -⟩ := h.2 hunnamed.2
    rw [hunnamed.1] at haccount
    rw [if_pos hunnamed]
    exact ⟨hnew _ h.1 haccount, fun x hx => Set.mem_singleton_iff.mp hx ▸ hname⟩
  · rw [if_neg hunnamed] at hfault ⊢
    obtain ⟨l, hl⟩ := Option.ne_none_iff_exists'.mp fun h => hunnamed ⟨h, hfault⟩
    obtain ⟨haccount, hlisted⟩ := h.2 hfault
    rw [hl] at haccount ⊢
    exact ⟨hkept _ _ h.1 haccount, hlisted⟩

end Account

/-- The parser reads words of the language, and on fewer than `n` tokens its outcome can be forecast
for whatever comes behind them without being read. -/
structure Foresees (n : Nat) (a : Account) (D : Language Token) {α : Type} (p : Parser α) :
    Prop where
  spells : Takes (Spells D) p
  inhabited : ∃ w, w ∈ D
  forecast : ∀ read : List Lexeme, read.length < n → ∃ f : Forecast α,
    f.Within (a.Allows D (nodes read)) ∧
      ∀ stop next, Barred D (nodes read) (nodes next) → f.Of next (p stop (read ++ next))

variable {α β : Type} {n m : Nat} {a b c : Account} {A B D : Language Token} {p : Parser α}
  {q : Parser β}

/-- What a forecast leaves stands behind a word of the language. -/
theorem exists_read (hspells : Takes (Spells D) p) {read rest : List Lexeme} {value : α}
    {f : Option Outlook} (h : ∀ stop next, Barred D (nodes read) (nodes next) →
      Forecast.Of next (.done value rest f) (p stop (read ++ next))) :
    ∃ taken, read = taken ++ rest ∧ nodes taken ∈ D := by
  obtain ⟨s, hs, -⟩ := h 0 [] trivial
  obtain ⟨taken, htaken, hmem⟩ := hspells ⟨s, hs⟩
  rw [List.append_nil, List.append_nil] at htaken
  exact ⟨taken, htaken, hmem⟩

namespace Foresees

theorem imp (h : Foresees n a D p)
    (hab : ∀ read l o, Begun D read → a read l o → b read l o) : Foresees n b D p := by
  refine ⟨h.spells, h.inhabited, fun read hlen => ?_⟩
  obtain ⟨f, hwithin, hf⟩ := h.forecast read hlen
  exact ⟨f, hwithin.imp fun k hk => hk.imp id (hab _), hf⟩

/-- At one place it is known what the error says, and elsewhere it is accounted for. -/
theorem elsewhere (before : List Token) (k : Notice) (h : Foresees n (a.except before) D p)
    (hk : a.Allows D before k)
    (hp : ∀ read : List Lexeme, nodes read = before → ∀ stop next, Barred D before (nodes next) →
      Forecast.Of next (.failed (.behind k)) (p stop (read ++ next))) : Foresees n a D p := by
  refine ⟨h.spells, h.inhabited, fun read hlen => ?_⟩
  by_cases hread : nodes read = before
  · subst hread
    exact ⟨.failed (.behind k), hk, hp read rfl⟩
  · obtain ⟨f, hwithin, hf⟩ := h.forecast read hlen
    exact ⟨f, hwithin.imp fun k hk => hk.imp id fun _ _ _ haccount => haccount hread, hf⟩

theorem exactly (n : Nat) {wanted : Expectation} {expected : Token}
    (hwanted : wanted.isKind = false) (ha : a [] none ∅) :
    Foresees n a (Shape.one (· = expected)) (Parser.exactly wanted expected) := by
  have hword : [expected] ∈ Shape.one (· = expected) := ⟨expected, rfl, rfl⟩
  refine ⟨spells_exactly _ _, ⟨_, hword⟩, fun read _ => ?_⟩
  cases read with
  | nil =>
    exact ⟨.failed (.behind ⟨.unexpected, none, {wanted}, ∅⟩), ⟨⟨[expected], hword⟩, fun _ =>
      ⟨ha, fun x hx => Set.mem_singleton_iff.mp hx ▸ hwanted⟩⟩,
      fun _ _ hbarred => .exactly_failed hbarred⟩
  | cons t rest =>
    by_cases ht : t.node = expected
    · exact ⟨.done () rest none, nofun, fun _ _ _ => .exactly_done ht⟩
    · exact ⟨.failed (.inside rest.length), trivial, fun _ _ _ => .exactly_inside ht⟩

theorem mark (n : Nat) (m : Mark) (ha : a [] none ∅) :
    Foresees n a (Shape.mark m) (Parser.mark m) :=
  exactly n rfl ha

theorem token (n : Nat) {wanted : Expectation} {make : Token → Option α} {S : Token → Prop}
    (hS : ∀ t, (make t).isSome ↔ S t) {t : Token} (ht : S t) (ha : a [] none {wanted}) :
    Foresees n a (Shape.one S) (Parser.token wanted make) := by
  have hword : [t] ∈ Shape.one S := ⟨t, ht, rfl⟩
  refine ⟨spells_token _ fun t value h => (hS t).mp (by rw [h]; rfl), ⟨_, hword⟩,
    fun read _ => ?_⟩
  cases read with
  | nil =>
    exact ⟨.failed (.behind ⟨.unexpected, none, ∅, {wanted}⟩), ⟨⟨[t], hword⟩, fun _ => ⟨ha, nofun⟩⟩,
      fun _ _ hbarred => .token_failed hS hbarred⟩
  | cons u rest =>
    cases hmake : make u.node with
    | some value =>
      refine ⟨.done value rest none, nofun, fun stop next _ => ⟨none, ?_, trivial⟩⟩
      simp only [List.cons_append, Parser.token, hmake]
    | none => exact ⟨.failed (.inside rest.length), trivial, fun _ _ _ => .token_inside hmake⟩

theorem map (h : Foresees n a D p) (make : α → β) : Foresees n a D (Parser.map make p) := by
  refine ⟨h.spells.map, h.inhabited, fun read hlen => ?_⟩
  obtain ⟨f, hwithin, hf⟩ := h.forecast read hlen
  cases f with
  | done value rest o =>
    exact ⟨.done (make value) rest o, hwithin, fun stop next hbarred =>
      (hf stop next hbarred).map_done make⟩
  | failed k =>
    exact ⟨.failed k, hwithin, fun stop next hbarred => (hf stop next hbarred).map_failed make⟩

/-- The second parser is put to what the first leaves, which is less by a word of the first. -/
theorem both (hc : c.Joint) (hp : Foresees n a A p) (hq : Foresees m b B q)
    (hm : ∀ w ∈ A, n ≤ m + w.length) (hfirst : ∀ read l o, a read l o → c read l o)
    (hsecond : ∀ w ∈ A, ∀ read l o, b read l o → c (w ++ read) l o) :
    Foresees n c (A * B) (Parser.both p q) := by
  refine ⟨spells_both hp.spells hq.spells, ?_, fun read hlen => ?_⟩
  · obtain ⟨v, hv⟩ := hp.inhabited
    obtain ⟨w, hw⟩ := hq.inhabited
    exact ⟨v ++ w, Language.append_mem_mul hv hw⟩
  have hallows : ∀ k, a.Allows A (nodes read) k → c.Allows (A * B) (nodes read) k :=
    fun k hk => hk.imp (·.mul hq.inhabited) fun _ _ _ => hfirst _ _ _
  obtain ⟨f, hwithin, hf⟩ := hp.forecast read hlen
  cases f with
  | failed k =>
    exact ⟨.failed k, Outlook.Within.imp hwithin hallows, fun stop next hbarred =>
      (hf stop next (hbarred.left hq.inhabited)).both_failed⟩
  | done value rest o =>
    obtain ⟨taken, rfl, htaken⟩ := exists_read hp.spells hf
    have hrest : rest.length < m := by
      have := hm _ htaken
      rw [nodes_length] at this
      rw [List.length_append] at hlen
      omega
    have hbehind : ∀ k, b.Allows B (nodes rest) k →
        c.Allows (A * B) (nodes (taken ++ rest)) k := by
      intro k hk
      rw [nodes_append]
      exact hk.imp (·.behind htaken) fun _ _ _ => hsecond _ htaken _ _ _
    have ho : ∀ k ∈ o, k.Within (c.Allows (A * B) (nodes (taken ++ rest))) :=
      fun k hk => (hwithin k hk).imp hallows
    have hlater : ∀ next, Barred (A * B) (nodes (taken ++ rest)) next →
        Barred B (nodes rest) next := by
      intro next hbarred
      rw [nodes_append] at hbarred
      exact hbarred.behind htaken
    obtain ⟨g, hwithin', hg⟩ := hq.forecast rest hrest
    cases g with
    | failed k' =>
      exact ⟨.failed (k'.max o), Outlook.Within.max hc.allows (hwithin'.imp hbehind) ho,
        fun stop next hbarred => (hf stop next (hbarred.left hq.inhabited)).both_later
          (hg stop next (hlater _ hbarred))⟩
    | done value' rest' o' =>
      exact ⟨.done (value, value') rest' (Outlook.latest o o'), Outlook.Within.latest hc.allows ho
        fun k hk => (hwithin' k hk).imp hbehind,
        fun stop next hbarred => (hf stop next (hbarred.left hq.inhabited)).both_done
          (hg stop next (hlater _ hbarred))⟩

/-- The second parser stands behind one particular token. -/
theorem behind (ha : a.Joint) {t : Token} (hp : Foresees n a (Shape.one (· = t)) p)
    (hq : Foresees m (a.past [t]) B q) (hm : n ≤ m + 1) :
    Foresees n a (Shape.one (· = t) * B) (Parser.both p q) := by
  refine .both ha hp hq ?_ (fun _ _ _ => id) ?_
  · rintro w ⟨t, -, rfl⟩
    exact hm
  · rintro w ⟨t, rfl, rfl⟩ read l o h
    exact h

theorem firstOf (ha : a.Joint) {o : Parser α} {others : List (Parser α)} (hp : Foresees n a A p)
    (ho : Foresees n a B (Parser.firstOf o others)) :
    Foresees n a (A + B) (Parser.firstOf p (o :: others)) := by
  obtain ⟨w, hw⟩ := hp.inhabited
  refine ⟨spells_firstOf hp.spells ho.spells, ⟨w, .inl hw⟩, fun read hlen => ?_⟩
  have hleft : ∀ k, a.Allows A (nodes read) k → a.Allows (A + B) (nodes read) k :=
    fun k hk => hk.imp (·.mono le_sup_left) fun _ _ _ => id
  have hright : ∀ k, a.Allows B (nodes read) k → a.Allows (A + B) (nodes read) k :=
    fun k hk => hk.imp (·.mono le_sup_right) fun _ _ _ => id
  obtain ⟨f, hwithin, hf⟩ := hp.forecast read hlen
  cases f with
  | done value rest k =>
    exact ⟨.done value rest k, fun k hk => (hwithin k hk).imp hleft, fun stop next hbarred =>
      (hf stop next (hbarred.mono le_sup_left)).firstOf_done⟩
  | failed k =>
    have hk : k.Within (a.Allows (A + B) (nodes read)) := Outlook.Within.imp hwithin hleft
    obtain ⟨g, hwithin', hg⟩ := ho.forecast read hlen
    cases g with
    | done value rest k' =>
      exact ⟨.done value rest (Outlook.latest (some k) k'), Outlook.Within.latest ha.allows
        (fun _ h => Option.some.inj h ▸ hk) fun _ h => (hwithin' _ h).imp hright,
        fun stop next hbarred => (hf stop next (hbarred.mono le_sup_left)).firstOf_later
          (hg stop next (hbarred.mono le_sup_right))⟩
    | failed k' =>
      exact ⟨.failed (k'.furthest k), Outlook.Within.furthest ha.allows (hwithin'.imp hright) hk,
        fun stop next hbarred => (hf stop next (hbarred.mono le_sup_left)).firstOf_failed
          (hg stop next (hbarred.mono le_sup_right))⟩

theorem only (h : Foresees n a D p) : Foresees n a D (Parser.firstOf p []) :=
  h

theorem optional (h : Foresees n a D p) : Foresees n a (1 + D) (Parser.optional p) := by
  refine ⟨spells_optional h.spells, ⟨[], .inl rfl⟩, fun read hlen => ?_⟩
  have hallows : ∀ k, a.Allows D (nodes read) k → a.Allows (1 + D) (nodes read) k :=
    fun k hk => hk.imp (·.mono le_sup_right) fun _ _ _ => id
  obtain ⟨f, hwithin, hf⟩ := h.forecast read hlen
  cases f with
  | done value rest k =>
    exact ⟨.done (some value) rest k, fun k hk => (hwithin k hk).imp hallows,
      fun stop next hbarred => (hf stop next (hbarred.mono le_sup_right)).optional_done⟩
  | failed k =>
    exact ⟨.done none read (some k), fun _ h => Option.some.inj h ▸
      Outlook.Within.imp hwithin hallows,
      fun stop next hbarred => (hf stop next (hbarred.mono le_sup_right)).optional_failed⟩

/-- A repetition, round by round.  It always succeeds, and so does its forecast. -/
theorem many (ha : a.Joint) {S : Token → Bool} (htakes : Takes (Opens S) p)
    (h : Foresees n a D p) (hlater : ∀ w ∈ D, ∀ read l o, a read l o → a (w ++ read) l o) :
    Foresees n a D∗ (Parser.many p) := by
  have hround : D * D∗ ≤ D∗ := mul_kstar_le_kstar
  have hdone : ∀ k, ∀ read : List Lexeme, read.length = k → read.length < n →
      ∃ values rest o, (∀ k ∈ o, k.Within (a.Allows D∗ (nodes read))) ∧
        ∀ stop next, Barred D∗ (nodes read) (nodes next) →
          Forecast.Of next (.done values rest o) (Parser.many p stop (read ++ next)) := by
    intro k
    -- A round reads a token, so the rounds behind it are put to fewer.
    induction k using Nat.strongRecOn with
    | ind k ih =>
      intro read hk hlen
      have hallows : ∀ k, a.Allows D (nodes read) k → a.Allows D∗ (nodes read) k :=
        fun k hk => hk.imp (·.mono le_kstar) fun _ _ _ => id
      obtain ⟨f, hwithin, hf⟩ := h.forecast read hlen
      cases f with
      | failed k =>
        exact ⟨[], read, some k, fun _ h => Option.some.inj h ▸
          Outlook.Within.imp hwithin hallows,
          fun stop next hbarred => (hf stop next (hbarred.mono le_kstar)).many_failed⟩
      | done value rest o =>
        obtain ⟨taken, rfl, htaken⟩ := exists_read h.spells hf
        have hless : rest.length < k := by
          obtain ⟨s, hs, -⟩ := hf 0 [] trivial
          have := htakes.length_lt ⟨s, hs⟩
          simp only [List.append_nil] at this
          omega
        obtain ⟨values, rest', o', hwithin', hg⟩ :=
          ih _ hless rest rfl (by omega)
        have hbehind : ∀ k, a.Allows D∗ (nodes rest) k →
            a.Allows D∗ (nodes (taken ++ rest)) k := by
          intro k hk
          rw [nodes_append]
          exact hk.imp (fun h => (h.behind htaken).mono hround) fun _ _ _ => hlater _ htaken _ _ _
        refine ⟨value :: values, rest', Outlook.latest o o', Outlook.Within.latest ha.allows
          (fun k hk => (hwithin k hk).imp hallows) fun k hk => (hwithin' k hk).imp hbehind,
          fun stop next hbarred => ?_⟩
        have hrest := hbarred.mono hround
        rw [nodes_append] at hrest
        exact (hf stop next (hbarred.mono le_kstar)).many_done htakes
          (hg stop next (hrest.behind htaken))
  refine ⟨spells_many h.spells, ⟨[], Language.nil_mem_kstar _⟩, fun read hlen => ?_⟩
  obtain ⟨values, rest, o, hwithin, hf⟩ := hdone _ read rfl hlen
  exact ⟨.done values rest o, hwithin, hf⟩

/-- A label takes the place of what is listed in an error that has none, and leaves nothing out. -/
theorem labelled (h : Foresees n a D p) {name : Expectation} (hname : name.isKind = false)
    (hnew : ∀ read o, Begun D read → a read none o → b read (some name) ∅)
    (hkept : ∀ read l o, Begun D read → a read (some l) o → b read (some l) o) :
    Foresees n b D (Parser.labelled name p) := by
  refine ⟨h.spells.labelled, h.inhabited, fun read hlen => ?_⟩
  have hwithin' : ∀ k : Outlook, k.Within (a.Allows D (nodes read)) →
      (k.withLabel name).Within (b.Allows D (nodes read)) := by
    intro k hk
    cases k with
    | inside ahead => trivial
    | behind k => exact Account.Allows.withLabel hname (hnew _) (hkept _) hk
  obtain ⟨f, hwithin, hf⟩ := h.forecast read hlen
  cases f with
  | done value rest o =>
    refine ⟨.done value rest (o.map (Outlook.withLabel name)), fun k hk => ?_,
      fun stop next hbarred => (hf stop next hbarred).labelled_done name⟩
    obtain ⟨k', hk', rfl⟩ := Option.map_eq_some_iff.mp hk
    exact hwithin' k' (hwithin k' hk')
  | failed k =>
    exact ⟨.failed (k.withLabel name), hwithin' k hwithin, fun stop next hbarred =>
      (hf stop next hbarred).labelled_failed name⟩

/-- The error of a check lies behind the value, which may be all that was read. -/
theorem checked {check : α → Span → Except ParseError β} (hcheck : ChecksValue check)
    (h : Foresees n a D p) : Foresees n a D (Parser.checked check p) := by
  refine ⟨h.spells.checked, h.inhabited, fun read hlen => ?_⟩
  obtain ⟨f, hwithin, hf⟩ := h.forecast read hlen
  cases f with
  | failed k =>
    refine ⟨.failed k, hwithin, fun stop next hbarred => ?_⟩
    obtain ⟨s, hs, hk⟩ := hf stop next hbarred
    exact ⟨s, by rw [Parser.checked, hs], hk⟩
  | done value rest o =>
    rcases hcheck value with ⟨result, hok⟩ | ⟨fault, hfault, herror⟩
    · refine ⟨.done result rest o, hwithin, fun stop next hbarred => ?_⟩
      obtain ⟨s, hs, ho⟩ := hf stop next hbarred
      exact ⟨s, by simp only [Parser.checked, hs, hok], ho⟩
    · obtain ⟨taken, rfl, htaken⟩ := exists_read h.spells hf
      cases rest with
      | nil =>
        refine ⟨.failed (.behind ⟨fault, none, ∅, ∅⟩), ⟨⟨[], ?_⟩, fun h => absurd h hfault⟩,
          fun stop next hbarred => ?_⟩
        · rwa [List.append_nil, List.append_nil]
        · obtain ⟨s, hs, -⟩ := hf stop next hbarred
          refine ⟨_, by simp only [Parser.checked, hs, herror]; rfl, rfl, rfl, rfl, ?_⟩
          exact fun h => absurd h hfault
      | cons t rest =>
        refine ⟨.failed (.inside rest.length), trivial, fun stop next hbarred => ?_⟩
        obtain ⟨s, hs, -⟩ := hf stop next hbarred
        refine ⟨_, by simp only [Parser.checked, hs, herror]; rfl, ?_⟩
        show (t :: rest ++ next).length = rest.length + 1 + next.length
        rw [List.length_append, List.length_cons]

end Foresees
end Grammar
end GrammarText
