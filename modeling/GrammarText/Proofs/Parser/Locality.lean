/-
Parsers look no further than the first semicolon, and how deep the parentheses may nest makes no
difference as long as it is no less than the number of tokens.

Both are statements of one kind: a parser on a longer list does what a parser, the same or one made
for another depth, does on the part of it up to the first semicolon, and the errors it reports there
start where a token of that part does.  `Alike n p q` says so for parts of fewer than `n` tokens.
Two parsers for different depths are alike up to the smaller depth, so that the depth goes away:
`Pattern.parser` and `Rule.parser` satisfy the equations of a recursive grammar, and they are alike
with themselves on lists of any length.
-/
import GrammarText.Proofs.Parser.Reading
import GrammarText.Proofs.Parser.Setback
import Mathlib.Data.List.Forall2

namespace GrammarText

namespace Setback

/-- The setback when more tokens stand behind those that were left. -/
def behind (count : Nat) (s : Setback) : Setback :=
  { s with left := s.left + count }

@[simp] theorem behind_left (count : Nat) (s : Setback) :
    (s.behind count).left = s.left + count := rfl

@[simp] theorem behind_zero (s : Setback) : s.behind 0 = s := rfl

theorem furthest_behind (a b : Setback) (count : Nat) :
    (a.behind count).furthest (b.behind count) = (a.furthest b).behind count := by
  simp only [furthest, behind, Nat.add_lt_add_iff_right]
  split
  · rfl
  · split <;> rfl

theorem max_behind (a : Setback) (b : Option Setback) (count : Nat) :
    (a.behind count).max (b.map (behind count)) = (a.max b).behind count := by
  cases b with
  | none => rfl
  | some b => exact furthest_behind a b count

theorem latest_behind (a b : Option Setback) (count : Nat) :
    latest (a.map (behind count)) (b.map (behind count)) = (latest a b).map (behind count) := by
  cases a with
  | none => cases b <;> rfl
  | some a =>
    cases b with
    | none => rfl
    | some b => exact congrArg some (furthest_behind b a count)

end Setback

/-- The outcome when more tokens stand behind those that were given. -/
def Outcome.extend {α : Type} (later : List Lexeme) : Outcome α → Outcome α
  | .done value rest setback =>
      .done value (rest ++ later) (setback.map (Setback.behind later.length))
  | .failed setback => .failed (setback.behind later.length)

@[simp] theorem Outcome.extend_nil {α : Type} (o : Outcome α) : o.extend [] = o := by
  cases o with
  | done value rest setback => cases setback <;> simp [extend, Setback.behind]
  | failed setback => rfl

/-- Every error of the outcome starts at a place with the property. -/
def Outcome.Within {α : Type} (P : Nat → Prop) : Outcome α → Prop
  | .done _ _ setback => ∀ s, setback = some s → P s.error.span.start
  | .failed setback => P setback.error.span.start

namespace Setback

variable {P : Nat → Prop}

theorem furthest_within {a b : Setback} (ha : P a.error.span.start) (hb : P b.error.span.start) :
    P (a.furthest b).error.span.start := by
  rcases a.furthest_cases b with heq | heq | ⟨-, hfault, hfault', heq⟩ <;> rw [heq]
  · exact ha
  · exact hb
  · rw [ParseError.merge_of_unexpected hfault hfault']
    exact ha

theorem max_within {a : Setback} {b : Option Setback} (ha : P a.error.span.start)
    (hb : ∀ s, b = some s → P s.error.span.start) : P (a.max b).error.span.start :=
  max_of (Q := fun s => P s.error.span.start) (fun _ _ => furthest_within) ha hb

theorem latest_within {a b : Option Setback} (ha : ∀ s, a = some s → P s.error.span.start)
    (hb : ∀ s, b = some s → P s.error.span.start) :
    ∀ s, latest a b = some s → P s.error.span.start :=
  latest_of (Q := fun s => P s.error.span.start) (fun _ _ => furthest_within) ha hb

end Setback

namespace Parser

variable {α β : Type}

/-- `tokens` is a whole list, or the part of one up to its first semicolon, and `later` is what
stands behind.  The end of the source matters only to a whole list. -/
inductive Window (stop : Nat) : Nat → List Lexeme → List Lexeme → Prop where
  | whole (tokens : List Lexeme) : Window stop stop tokens []
  | cut (stop' : Nat) {before : List Lexeme} {semicolon : Lexeme} (later : List Lexeme)
      (plain : Plain before) (isSemicolon : semicolon.node = .mark .semicolon) :
      Window stop stop' (before ++ [semicolon]) later

/-- Only a whole list can be empty. -/
theorem Window.of_nil {stop stop' : Nat} {tokens later : List Lexeme}
    (w : Window stop stop' tokens later) (h : tokens = []) : stop = stop' ∧ later = [] := by
  cases w with
  | whole => exact ⟨rfl, rfl⟩
  | cut => simp at h

/-- The window moves along as plain tokens are read. -/
theorem Window.drop {stop stop' : Nat} {read rest later : List Lexeme}
    (w : Window stop stop' (read ++ rest) later) (hread : Plain read) :
    Window stop stop' rest later := by
  generalize hall : read ++ rest = all at w
  cases w with
  | whole => exact .whole rest
  | @cut _ before semicolon _ plain isSemicolon =>
    rcases List.append_eq_append_iff.mp hall with ⟨kept, rfl, rfl⟩ | ⟨more, rfl, h⟩
    · exact .cut stop' later (fun t ht => plain t (List.mem_append_right _ ht)) isSemicolon
    · cases more with
      | nil =>
        rw [List.nil_append] at h
        rw [← h]
        have hcut : Window stop stop' ([] ++ [semicolon]) later :=
          .cut stop' later plain_nil isSemicolon
        exact hcut
      | cons t more =>
        obtain ⟨rfl, -⟩ := List.cons.inj h
        exact absurd isSemicolon (hread semicolon (by simp))

/-- The places at which an error may start: the tokens and the end. -/
def Place (stop : Nat) (tokens : List Lexeme) (offset : Nat) : Prop :=
  offset = stop ∨ ∃ t ∈ tokens, t.span.start = offset

theorem Place.append {stop offset : Nat} {rest : List Lexeme} (h : Place stop rest offset)
    (read : List Lexeme) : Place stop (read ++ rest) offset := by
  rcases h with h | ⟨t, ht, hstart⟩
  · exact .inl h
  · exact .inr ⟨t, List.mem_append_right _ ht, hstart⟩

theorem place_spanBetween (stop : Nat) (tokens rest : List Lexeme) :
    Place stop tokens (spanBetween stop tokens rest).start := by
  unfold spanBetween
  split
  · exact .inr ⟨_, List.mem_cons_self .., rfl⟩
  · exact .inr ⟨_, List.mem_cons_self .., rfl⟩
  · exact .inl rfl

/-- On fewer than `n` tokens every error of the parser is at a place of theirs. -/
def Located (n : Nat) (p : Parser α) : Prop :=
  ∀ (stop : Nat) ⦃tokens⦄, tokens.length < n → (p stop tokens).Within (Place stop tokens)

namespace Located

variable {n : Nat} {p : Parser α} {q : Parser β}

theorem token (n : Nat) (wanted : Expectation) (read : Token → Option α) :
    Located n (Parser.token wanted read) := by
  intro stop tokens _
  cases tokens with
  | nil => exact .inl rfl
  | cons t rest =>
    unfold Parser.token
    simp only
    split
    · exact fun _ h => nomatch h
    · exact .inr ⟨t, List.mem_cons_self .., rfl⟩

theorem exactly (n : Nat) (wanted : Expectation) (expected : Token) :
    Located n (Parser.exactly wanted expected) := by
  intro stop tokens _
  cases tokens with
  | nil => exact .inl rfl
  | cons t rest =>
    unfold Parser.exactly
    simp only
    split
    · exact fun _ h => nomatch h
    · exact .inr ⟨t, List.mem_cons_self .., rfl⟩

theorem map {f : α → β} (h : Located n p) : Located n (Parser.map f p) := by
  intro stop tokens hlen
  have := h stop hlen
  unfold Parser.map
  cases hp : p stop tokens <;> rw [hp] at this <;> exact this

theorem join {m : Nat} {P : List Lexeme → Prop} (hp : Located n p) (htakes : Takes P p)
    (hP : ∀ read, P read → m ≤ read.length) (hq : Located (n - m) q) :
    Located n (Parser.both p q) := by
  intro stop tokens hlen
  have hfirst := hp stop hlen
  unfold Parser.both
  cases ha : p stop tokens with
  | failed setback =>
    rw [ha] at hfirst
    exact hfirst
  | done a rest setback =>
    rw [ha] at hfirst
    obtain ⟨read, rfl, hread⟩ := htakes ⟨_, ha⟩
    have hm := hP read hread
    have hrest : rest.length < n - m := by
      rw [List.length_append] at hlen
      omega
    have hlater := hq stop hrest
    simp only
    cases hb : q stop rest with
    | failed later =>
      rw [hb] at hlater
      exact Setback.max_within (hlater.append read) hfirst
    | done b rest' later =>
      rw [hb] at hlater
      exact Setback.latest_within hfirst fun s hs => (hlater s hs).append read

theorem firstOf_cons {o : Parser α} {others : List (Parser α)} (hp : Located n p)
    (hothers : Located n (Parser.firstOf o others)) :
    Located n (Parser.firstOf p (o :: others)) := by
  intro stop tokens hlen
  have hfirst := hp stop hlen
  have hlater := hothers stop hlen
  unfold Parser.firstOf
  cases ha : p stop tokens with
  | done value rest setback =>
    rw [ha] at hfirst
    exact hfirst
  | failed setback =>
    rw [ha] at hfirst
    simp only
    cases hb : Parser.firstOf o others stop tokens with
    | done value rest later =>
      rw [hb] at hlater
      exact Setback.latest_within (fun s hs => Option.some.inj hs ▸ hfirst) hlater
    | failed later =>
      rw [hb] at hlater
      exact Setback.furthest_within (P := Place stop tokens) hlater hfirst

theorem optional (hp : Located n p) : Located n (Parser.optional p) := by
  intro stop tokens hlen
  have hfirst := hp stop hlen
  unfold Parser.optional
  cases ha : p stop tokens with
  | done value rest setback =>
    rw [ha] at hfirst
    exact hfirst
  | failed setback =>
    rw [ha] at hfirst
    exact fun s hs => Option.some.inj hs ▸ hfirst

theorem collect (hp : Located n p) {P : List Lexeme → Prop} (htakes : Takes P p)
    {stop limit : Nat} {tokens : List Lexeme} (hlen : tokens.length < n) :
    ∀ s, (Parser.collect p stop limit tokens).2.2 = some s →
      Place stop tokens s.error.span.start := by
  induction limit generalizing tokens with
  | zero => exact fun _ h => nomatch h
  | succ limit ih =>
    have hfirst := hp stop hlen
    unfold Parser.collect
    cases ha : p stop tokens with
    | failed setback =>
      rw [ha] at hfirst
      exact fun s hs => Option.some.inj hs ▸ hfirst
    | done value rest setback =>
      rw [ha] at hfirst
      obtain ⟨read, rfl, -⟩ := htakes ⟨_, ha⟩
      have hrest : rest.length < n := by
        rw [List.length_append] at hlen
        omega
      exact Setback.latest_within hfirst fun s hs => (ih hrest s hs).append read

theorem many (hp : Located n p) {P : List Lexeme → Prop} (htakes : Takes P p) :
    Located n (Parser.many p) := by
  intro stop tokens hlen
  have hall : ∀ s, (Parser.collect p stop (tokens.length + 1) tokens).2.2 = some s →
      Place stop tokens s.error.span.start := hp.collect htakes hlen
  exact hall

theorem labelled {name : Expectation} (hp : Located n p) :
    Located n (Parser.labelled name p) := by
  intro stop tokens hlen
  have hfirst := hp stop hlen
  unfold Parser.labelled
  cases ha : p stop tokens with
  | done value rest setback =>
    rw [ha] at hfirst
    intro s hs
    obtain ⟨s', hs', rfl⟩ := Option.map_eq_some_iff.mp hs
    show Place stop tokens (s'.error.withLabel name).span.start
    rw [ParseError.withLabel_span]
    exact hfirst s' hs'
  | failed setback =>
    rw [ha] at hfirst
    show Place stop tokens (setback.error.withLabel name).span.start
    rw [ParseError.withLabel_span]
    exact hfirst

theorem spanned (hp : Located n p) : Located n (Parser.spanned p) := by
  intro stop tokens hlen
  have hfirst := hp stop hlen
  unfold Parser.spanned
  cases ha : p stop tokens <;> rw [ha] at hfirst <;> exact hfirst

theorem checked {check : α → Span → Except ParseError β} (hp : Located n p)
    (hcheck : ∀ a span e, check a span = .error e → e.span = span) :
    Located n (Parser.checked check p) := by
  intro stop tokens hlen
  have hfirst := hp stop hlen
  unfold Parser.checked
  cases ha : p stop tokens with
  | failed setback =>
    rw [ha] at hfirst
    exact hfirst
  | done value rest setback =>
    rw [ha] at hfirst
    simp only
    cases hc : check value (spanBetween stop tokens rest) with
    | ok v => exact hfirst
    | error e =>
      show Place stop tokens e.span.start
      rw [hcheck _ _ _ hc]
      exact place_spanBetween stop tokens rest

end Located

/-- On every window of fewer than `n` tokens `p` does on the long list what `q` does inside, and
the errors are inside. -/
structure Alike (n : Nat) (p q : Parser α) : Prop where
  same : ∀ ⦃stop stop' : Nat⦄ ⦃tokens later : List Lexeme⦄, Window stop stop' tokens later →
    tokens.length < n → p stop (tokens ++ later) = (q stop' tokens).extend later
  located : Located n q

namespace Alike

variable {n : Nat} {p p' : Parser α} {q q' : Parser β}

theorem zero (p q : Parser α) : Alike 0 p q :=
  ⟨fun _ _ _ _ _ hlen => absurd hlen (Nat.not_lt_zero _),
    fun _ _ hlen => absurd hlen (Nat.not_lt_zero _)⟩

/-- On the same tokens and with the same end, alike parsers do the same. -/
theorem apply_eq (h : Alike n p p') (stop : Nat) {tokens : List Lexeme} (hlen : tokens.length < n) :
    p stop tokens = p' stop tokens := by
  have hwhole : Window stop stop tokens [] := .whole tokens
  have := h.same hwhole hlen
  rwa [List.append_nil, Outcome.extend_nil] at this

theorem token (n : Nat) (wanted : Expectation) (read : Token → Option α) :
    Alike n (Parser.token wanted read) (Parser.token wanted read) := by
  refine ⟨?_, .token n wanted read⟩
  intro stop stop' tokens later w _
  cases tokens with
  | nil =>
    obtain ⟨rfl, rfl⟩ := w.of_nil rfl
    rfl
  | cons t rest =>
    cases hv : read t.node with
    | none =>
      simp only [List.cons_append, Parser.token, hv, Outcome.extend, Setback.behind,
        List.length_append]
      rw [Nat.add_right_comm]
    | some value => simp [Parser.token, hv, Outcome.extend]

theorem exactly (n : Nat) (wanted : Expectation) (expected : Token) :
    Alike n (Parser.exactly wanted expected) (Parser.exactly wanted expected) := by
  refine ⟨?_, .exactly n wanted expected⟩
  intro stop stop' tokens later w _
  cases tokens with
  | nil =>
    obtain ⟨rfl, rfl⟩ := w.of_nil rfl
    rfl
  | cons t rest =>
    by_cases ht : t.node = expected
    · simp [Parser.exactly, ht, Outcome.extend]
    · simp only [List.cons_append, Parser.exactly, ht, if_false, Outcome.extend, Setback.behind,
        List.length_append]
      rw [Nat.add_right_comm]

theorem map {f : α → β} (h : Alike n p p') : Alike n (Parser.map f p) (Parser.map f p') := by
  refine ⟨?_, h.located.map⟩
  intro stop stop' tokens later w hlen
  unfold Parser.map
  rw [h.same w hlen]
  cases p' stop' tokens <;> rfl

/-- The second parser starts where the first has stopped, `m` tokens further on at least. -/
theorem join {m : Nat} {P : List Lexeme → Prop} (hp : Alike n p p') (htakes : Takes P p')
    (hP : ∀ read, P read → Plain read ∧ m ≤ read.length) (hq : Alike (n - m) q q') :
    Alike n (both p q) (both p' q') := by
  refine ⟨?_, hp.located.join htakes (fun read hread => (hP read hread).2) hq.located⟩
  intro stop stop' tokens later w hlen
  unfold both
  rw [hp.same w hlen]
  cases ha : p' stop' tokens with
  | failed setback => rfl
  | done a rest setback =>
    obtain ⟨read, rfl, hread⟩ := htakes ⟨_, ha⟩
    obtain ⟨hplain, hm⟩ := hP read hread
    have hrest : rest.length < n - m := by
      rw [List.length_append] at hlen
      omega
    simp only [Outcome.extend]
    rw [hq.same (w.drop hplain) hrest]
    cases q' stop' rest with
    | failed later => simp only [Outcome.extend, Setback.max_behind]
    | done b rest' later => simp only [Outcome.extend, Setback.latest_behind]

theorem both (hp : Alike n p p') (htakes : Takes Plain p') (hq : Alike n q q') :
    Alike n (Parser.both p q) (Parser.both p' q') :=
  hp.join (m := 0) htakes (fun _ h => ⟨h, Nat.zero_le _⟩) hq

theorem after (hp : Alike n p p') (htakes : Takes Plain p') (hq : Alike n q q') :
    Alike n (Parser.after p q) (Parser.after p' q') :=
  (hp.both htakes hq).map

theorem before (hp : Alike n p p') (htakes : Takes Plain p') (hq : Alike n q q') :
    Alike n (Parser.before p q) (Parser.before p' q') :=
  (hp.both htakes hq).map

theorem firstOf {others others' : List (Parser α)} (hp : Alike n p p')
    (hothers : List.Forall₂ (Alike n) others others') :
    Alike n (Parser.firstOf p others) (Parser.firstOf p' others') := by
  induction hothers generalizing p p' with
  | nil => exact hp
  | cons ho _ ih =>
    refine ⟨?_, hp.located.firstOf_cons (ih ho).located⟩
    intro stop stop' tokens later w hlen
    unfold Parser.firstOf
    rw [hp.same w hlen]
    cases p' stop' tokens with
    | done value rest setback => rfl
    | failed setback =>
      simp only [Outcome.extend]
      rw [(ih ho).same w hlen]
      cases Parser.firstOf _ _ stop' tokens with
      | done value rest later =>
        exact congrArg _ (Setback.latest_behind (some setback) later _)
      | failed later => exact congrArg _ (Setback.furthest_behind later setback _)

theorem optional (hp : Alike n p p') : Alike n (Parser.optional p) (Parser.optional p') := by
  refine ⟨?_, hp.located.optional⟩
  intro stop stop' tokens later w hlen
  unfold Parser.optional
  rw [hp.same w hlen]
  cases p' stop' tokens <;> rfl

/-- A repetition stops where its parser fails, as long as its limit exceeds the tokens. -/
theorem collect {S : Token → Bool} (hp : Alike n p p') (htakes : Takes (Opens S) p')
    {stop stop' limit limit' : Nat} {tokens later : List Lexeme}
    (w : Window stop stop' tokens later) (hlen : tokens.length < n)
    (hlimit : tokens.length < limit) (hlimit' : tokens.length < limit') :
    Parser.collect p stop limit (tokens ++ later) =
      ((Parser.collect p' stop' limit' tokens).1,
        (Parser.collect p' stop' limit' tokens).2.1 ++ later,
        (Parser.collect p' stop' limit' tokens).2.2.map (Setback.behind later.length)) := by
  induction limit' generalizing limit tokens with
  | zero => omega
  | succ limit' ih =>
    cases limit with
    | zero => omega
    | succ limit =>
      unfold Parser.collect
      rw [hp.same w hlen]
      cases hv : p' stop' tokens with
      | failed setback => rfl
      | done value rest setback =>
        obtain ⟨read, rfl, hread⟩ := htakes ⟨_, hv⟩
        have hpos := hread.length_pos
        rw [List.length_append] at hlen hlimit hlimit'
        simp only [Outcome.extend]
        rw [ih (w.drop hread.2) (by omega) (by omega) (by omega)]
        simp only [Setback.latest_behind]

theorem many {S : Token → Bool} (hp : Alike n p p') (htakes : Takes (Opens S) p') :
    Alike n (Parser.many p) (Parser.many p') := by
  refine ⟨?_, hp.located.many htakes⟩
  intro stop stop' tokens later w hlen
  have hlimit : tokens.length < (tokens ++ later).length + 1 := by
    rw [List.length_append]
    omega
  simp only [Parser.many]
  rw [hp.collect htakes w hlen hlimit (Nat.lt_succ_self _)]
  rfl

theorem many1 {S : Token → Bool} (hp : Alike n p p') (htakes : Takes (Opens S) p') :
    Alike n (Parser.many1 p) (Parser.many1 p') :=
  (hp.both htakes.plain (hp.many htakes)).map

theorem labelled {name : Expectation} (hp : Alike n p p') :
    Alike n (Parser.labelled name p) (Parser.labelled name p') := by
  refine ⟨?_, hp.located.labelled⟩
  intro stop stop' tokens later w hlen
  have hlabel : ∀ s : Setback,
      (s.behind later.length).withLabel name = (s.withLabel name).behind later.length :=
    fun _ => rfl
  unfold Parser.labelled
  rw [hp.same w hlen]
  cases p' stop' tokens with
  | done value rest setback => cases setback <;> simp [Outcome.extend, hlabel]
  | failed setback => exact congrArg _ (hlabel setback)

end Alike

/-- The range of what was read depends on nothing behind it. -/
theorem spanBetween_window {stop stop' : Nat} {read rest later : List Lexeme}
    (w : Window stop stop' (read ++ rest) later) :
    spanBetween stop (read ++ rest ++ later) (rest ++ later) =
      spanBetween stop' (read ++ rest) rest := by
  have htake : (read ++ rest ++ later).take
      ((read ++ rest ++ later).length - (rest ++ later).length) = read := by
    rw [List.append_assoc, List.length_append, Nat.add_sub_cancel, List.take_left']
    rfl
  have htake' : (read ++ rest).take ((read ++ rest).length - rest.length) = read := by
    rw [List.length_append, Nat.add_sub_cancel, List.take_left']
    rfl
  unfold spanBetween
  rw [htake, htake']
  cases hall : read ++ rest with
  | cons t more => cases read.getLast? <;> rfl
  | nil =>
    rw [hall] at w
    obtain ⟨rfl, rfl⟩ := w.of_nil rfl
    rfl

namespace Alike

variable {n : Nat} {P : List Lexeme → Prop} {p p' : Parser α}

theorem spanned (hp : Alike n p p') (htakes : Takes P p') :
    Alike n (Parser.spanned p) (Parser.spanned p') := by
  refine ⟨?_, hp.located.spanned⟩
  intro stop stop' tokens later w hlen
  unfold Parser.spanned
  rw [hp.same w hlen]
  cases hv : p' stop' tokens with
  | failed setback => rfl
  | done value rest setback =>
    obtain ⟨read, rfl, -⟩ := htakes ⟨_, hv⟩
    simp only [Outcome.extend, spanBetween_window w]

theorem checked {check : α → Span → Except ParseError β} (hp : Alike n p p')
    (htakes : Takes P p') (hcheck : ∀ a span e, check a span = .error e → e.span = span) :
    Alike n (Parser.checked check p) (Parser.checked check p') := by
  refine ⟨?_, hp.located.checked hcheck⟩
  intro stop stop' tokens later w hlen
  unfold Parser.checked
  rw [hp.same w hlen]
  cases hv : p' stop' tokens with
  | failed setback => rfl
  | done value rest setback =>
    obtain ⟨read, rfl, -⟩ := htakes ⟨_, hv⟩
    simp only [Outcome.extend, spanBetween_window w]
    cases check value (spanBetween stop' (read ++ rest) rest) with
    | ok v => rfl
    | error e => simp only [Setback.behind, List.length_append]

end Alike
end Parser
end GrammarText
