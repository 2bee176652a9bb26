/-
How far a parse gets.  A parse that fails is known by one number, the rank of its furthest error:
twice the tokens left behind it, and one more unless it is about a value.  What a parser does is
looked at together with what follows, a continuation, for only the two of them together say whether
a token was out of place.

`Exact n next K` says that on fewer than `n` tokens the continuation `next` is right about the
language `K`: it fails at the first token with which no word of `K` goes on, or over a value.
-/
import GrammarText.Proofs.Parser.Reading
import GrammarText.Proofs.Parser.Nodes
import GrammarText.Proofs.Viability.Shape

namespace GrammarText

open GrammarText.Parser

namespace Setback

/-- Of two setbacks the one of the smaller rank is reported. -/
def rank (s : Setback) : Nat :=
  2 * s.left + if s.error.isSpecific then 0 else 1

theorem rank_furthest (a b : Setback) : (a.furthest b).rank = min a.rank b.rank := by
  have hmerge : (a.error.merge b.error).isSpecific =
      (a.error.isSpecific || b.error.isSpecific) := by
    unfold ParseError.merge
    by_cases ha : a.error.isSpecific
    · rw [if_pos ha, ha, Bool.true_or]
    · by_cases hb : b.error.isSpecific
      · rw [if_neg ha, if_pos hb, hb, Bool.or_true]
      · rw [if_neg ha, if_neg hb, Bool.eq_false_iff.mpr hb, Bool.or_false]
        rfl
  unfold furthest rank
  by_cases hab : a.left < b.left
  · rw [if_pos hab]
    split <;> split <;> omega
  · by_cases hba : b.left < a.left
    · rw [if_neg hab, if_pos hba]
      split <;> split <;> omega
    · rw [if_neg hab, if_neg hba]
      simp only [hmerge, Bool.or_eq_true]
      by_cases ha : a.error.isSpecific <;> by_cases hb : b.error.isSpecific <;> simp [ha, hb] <;>
        omega

theorem rank_withLabel (name : Expectation) (s : Setback) : (s.withLabel name).rank = s.rank := by
  unfold rank withLabel ParseError.withLabel
  simp only
  split <;> rfl

/-- What becomes of a later rank beside an error that was not in the way at first. -/
def against : Option Setback → Option Nat → Option Nat
  | none, rank => rank
  | some s, rank => rank.map (min s.rank)

theorem against_latest (a b : Option Setback) (rank : Option Nat) :
    against (latest a b) rank = against a (against b rank) := by
  cases a with
  | none => rfl
  | some a =>
    cases b with
    | none => rfl
    | some b =>
      cases rank with
      | none => rfl
      | some r =>
        show some (min (b.furthest a).rank r) = some (min a.rank (min b.rank r))
        rw [rank_furthest]
        congr 1
        omega

theorem against_rank (a : Option Setback) (s : Setback) :
    against a (some s.rank) = some (s.max a).rank := by
  cases a with
  | none => rfl
  | some a => exact congrArg some ((Nat.min_comm _ _).trans (s.rank_furthest a).symm)

end Setback

/-- How a parse goes on with the tokens that are left.  It is nothing to a parse that succeeds and
the rank of its error to one that fails. -/
abbrev Continuation : Type :=
  List Lexeme → Option Nat

/-- An outcome and what follows. -/
def Outcome.andThen {α : Type} (next : Continuation) : Outcome α → Option Nat
  | .failed s => some s.rank
  | .done _ rest s => Setback.against s (next rest)

namespace Parser

variable {α β : Type} {stop : Nat} {next : Continuation}

/-- A parser and what follows. -/
def andThen (p : Parser α) (stop : Nat) (next : Continuation) : Continuation :=
  fun tokens => (p stop tokens).andThen next

theorem andThen_of_done {p : Parser α} {tokens rest : List Lexeme} {value : α}
    {s : Option Setback} (h : p stop tokens = .done value rest s) :
    p.andThen stop next tokens = Setback.against s (next rest) := by
  unfold andThen
  rw [h]
  rfl

theorem andThen_of_failed {p : Parser α} {tokens : List Lexeme} {s : Setback}
    (h : p stop tokens = .failed s) : p.andThen stop next tokens = some s.rank := by
  unfold andThen
  rw [h]
  rfl

theorem andThen_map (f : α → β) (p : Parser α) :
    (map f p).andThen stop next = p.andThen stop next := by
  funext tokens
  unfold andThen map
  cases p stop tokens <;> rfl

theorem andThen_labelled (name : Expectation) (p : Parser α) :
    (labelled name p).andThen stop next = p.andThen stop next := by
  funext tokens
  unfold andThen labelled
  cases p stop tokens with
  | failed s => exact congrArg some (s.rank_withLabel name)
  | done value rest s =>
    cases s with
    | none => rfl
    | some s =>
      simp only [Option.map_some, Outcome.andThen, Setback.against, Setback.rank_withLabel]

theorem andThen_both (p : Parser α) (q : Parser β) :
    (both p q).andThen stop next = p.andThen stop (q.andThen stop next) := by
  funext tokens
  unfold andThen both
  cases p stop tokens with
  | failed s => rfl
  | done a mid s =>
    simp only [Outcome.andThen]
    cases hq : q stop mid with
    | failed later => exact (Setback.against_rank s later).symm
    | done b rest later => exact Setback.against_latest s later (next rest)

theorem andThen_before (p : Parser α) (q : Parser β) :
    (before p q).andThen stop next = p.andThen stop (q.andThen stop next) := by
  unfold before
  rw [andThen_map, andThen_both]

theorem andThen_after (p : Parser α) (q : Parser β) :
    (after p q).andThen stop next = p.andThen stop (q.andThen stop next) := by
  unfold after
  rw [andThen_map, andThen_both]

end Parser

namespace Grammar

/-- Some word of the language begins so. -/
def Begun (K : Language Token) (tokens : List Token) : Prop :=
  ∃ later, tokens ++ later ∈ K

variable {K A B D : Language Token}

theorem Begun.of_append {v w : List Token} (h : Begun K (v ++ w)) : Begun K v := by
  obtain ⟨later, h⟩ := h
  exact ⟨w ++ later, by rwa [← List.append_assoc]⟩

theorem Begun.mono (hAB : A ≤ B) {v : List Token} (h : Begun A v) : Begun B v := by
  obtain ⟨later, h⟩ := h
  exact ⟨later, hAB h⟩

theorem begun_add {v : List Token} : Begun (A + B) v ↔ Begun A v ∨ Begun B v := by
  unfold Begun
  simp only [Language.mem_add, exists_or]

theorem Begun.mul {v : List Token} (h : Begun D v) (hK : ∃ w, w ∈ K) : Begun (D * K) v := by
  obtain ⟨later, h⟩ := h
  obtain ⟨w, hw⟩ := hK
  exact ⟨later ++ w, by rw [← List.append_assoc]; exact Language.append_mem_mul h hw⟩

theorem mem_one_mul {S : Token → Prop} {w : List Token} :
    w ∈ Shape.one S * K ↔ ∃ t rest, w = t :: rest ∧ S t ∧ rest ∈ K := by
  rw [Language.mem_mul]
  constructor
  · intro h
    obtain ⟨a, ⟨t, ht, rfl⟩, b, hb, rfl⟩ := h
    exact ⟨t, b, rfl, ht, hb⟩
  · intro h
    obtain ⟨t, rest, rfl, ht, hrest⟩ := h
    exact ⟨[t], ⟨t, ht, rfl⟩, rest, hrest, rfl⟩

theorem begun_one_mul {S : Token → Prop} {t : Token} {v : List Token} :
    Begun (Shape.one S * K) (t :: v) ↔ S t ∧ Begun K v := by
  unfold Begun
  simp only [List.cons_append, mem_one_mul, List.cons.injEq]
  constructor
  · intro h
    obtain ⟨later, u, rest, ⟨rfl, rfl⟩, ht, hrest⟩ := h
    exact ⟨ht, later, hrest⟩
  · intro h
    obtain ⟨ht, later, hrest⟩ := h
    exact ⟨later, t, v ++ later, ⟨rfl, rfl⟩, ht, hrest⟩

/-- No word of the language begins with what was read and what comes next, be it the end. -/
def Stuck (K : Language Token) (read : List Token) : List Token → Prop
  | [] => read ∉ K
  | t :: _ => ¬ Begun K (read ++ [t])

theorem Stuck.add {read left : List Token} (hA : Stuck A read left) (hB : Stuck B read left) :
    Stuck (A + B) read left := by
  cases left with
  | nil => exact fun h => h.elim hA hB
  | cons t more => exact fun h => (begun_add.mp h).elim hA hB

theorem Stuck.one_mul {S : Token → Prop} {t : Token} {read left : List Token}
    (h : Stuck K read left) : Stuck (Shape.one S * K) (t :: read) left := by
  cases left with
  | nil =>
    intro hword
    obtain ⟨u, rest, heq, -, hrest⟩ := mem_one_mul.mp hword
    obtain ⟨-, rfl⟩ := List.cons.inj heq
    exact h hrest
  | cons u more => exact fun hword => h (begun_one_mul.mp hword).2

/-- The rank is that of an error where no word of the language goes on, or of an error over a value
behind tokens with which one does. -/
def Points (K : Language Token) (tokens : List Lexeme) (rank : Nat) : Prop :=
  ∃ read left, tokens = read ++ left ∧ Begun K (nodes read) ∧
    ((rank = 2 * left.length + 1 ∧ Stuck K (nodes read) (nodes left)) ∨
      (rank = 2 * left.length ∧ read ≠ []))

/-- On fewer than `n` tokens the continuation is right about the language.  If it fails its error is
where it should be, and if it succeeds a word of the language begins with the first token, unless
the language does not ask for one. -/
structure Exact (n : Nat) (next : Continuation) (K : Language Token) : Prop where
  inhabited : ∃ w, w ∈ K
  fails : ∀ ⦃tokens⦄ ⦃rank⦄, tokens.length < n → next tokens = some rank → Points K tokens rank
  succeeds : ∀ ⦃tokens⦄, tokens.length < n → next tokens = none →
    [] ∈ K ∨ ∃ t rest, tokens = t :: rest ∧ Begun K [t.node]

theorem Points.nil {rank : Nat} (h : Points K [] rank) : rank = 1 ∧ [] ∉ K := by
  obtain ⟨read, left, hall, -, hrank⟩ := h
  obtain ⟨rfl, rfl⟩ := List.append_eq_nil_iff.mp hall.symm
  rcases hrank with h | ⟨-, h⟩
  · exact h
  · exact absurd rfl h

theorem points_nil (h : ∃ w, w ∈ K) (hnil : [] ∉ K) : Points K [] 1 :=
  ⟨[], [], rfl, h, .inl ⟨rfl, hnil⟩⟩

/-- An error at the first token. -/
theorem points_head {t : Lexeme} {rest : List Lexeme} (h : ∃ w, w ∈ K)
    (ht : ¬ Begun K [t.node]) : Points K (t :: rest) (2 * (rest.length + 1) + 1) :=
  ⟨[], t :: rest, rfl, h, .inl ⟨rfl, ht⟩⟩

/-- Either the first token is out of place or the error lies further on. -/
theorem Points.head {t : Lexeme} {rest : List Lexeme} {rank : Nat} (h : Points K (t :: rest) rank) :
    (rank = 2 * (rest.length + 1) + 1 ∧ ¬ Begun K [t.node]) ∨
      (rank ≤ 2 * rest.length + 1 ∧ Begun K [t.node]) := by
  obtain ⟨read, left, hall, hbegun, hrank⟩ := h
  cases read with
  | nil =>
    obtain rfl : t :: rest = left := hall
    exact .inl (hrank.resolve_right fun h => h.2 rfl)
  | cons u read =>
    obtain ⟨rfl, rfl⟩ := List.cons.inj hall
    refine .inr ⟨?_, hbegun.of_append (v := [t.node])⟩
    have hlength : (read.append left).length = read.length + left.length := List.length_append
    rcases hrank with ⟨hrank, -⟩ | ⟨hrank, -⟩ <;> omega

theorem Points.le {tokens : List Lexeme} {rank : Nat} (h : Points K tokens rank) :
    rank ≤ 2 * tokens.length + 1 := by
  obtain ⟨read, left, rfl, -, hrank⟩ := h
  rw [List.length_append]
  rcases hrank with ⟨hrank, -⟩ | ⟨hrank, -⟩ <;> omega

/-- Words that are stuck at the same place make no difference. -/
theorem Points.add_right {tokens : List Lexeme} {rank : Nat} (h : Points A tokens rank)
    (hB : ∀ read left, tokens = read ++ left → rank = 2 * left.length + 1 →
      Stuck B (nodes read) (nodes left)) : Points (A + B) tokens rank := by
  obtain ⟨read, left, hall, hbegun, hrank⟩ := h
  refine ⟨read, left, hall, begun_add.mpr (.inl hbegun), ?_⟩
  exact hrank.imp (fun h => ⟨h.1, h.2.add (hB read left hall h.1)⟩) id

/-- Words that do not begin with the first of the tokens are stuck wherever others are. -/
theorem stuck_of_head {t : Lexeme} {rest read left : List Lexeme} (hB : ¬ Begun B [t.node])
    (hall : t :: rest = read ++ left) : Stuck B (nodes read) (nodes left) := by
  cases read with
  | nil =>
    obtain rfl : t :: rest = left := hall
    exact hB
  | cons u read =>
    obtain ⟨rfl, -⟩ := List.cons.inj hall
    cases left with
    | nil => exact fun h => hB ⟨nodes read, h⟩
    | cons v more => exact fun h => hB (h.of_append (v := [t.node]))

namespace Exact

variable {n m : Nat} {next : Continuation}

theorem mono (h : Exact n next K) (hm : m ≤ n) : Exact m next K :=
  ⟨h.inhabited, fun _ _ hlen => h.fails (Nat.lt_of_lt_of_le hlen hm),
    fun _ hlen => h.succeeds (Nat.lt_of_lt_of_le hlen hm)⟩

theorem zero (h : ∃ w, w ∈ K) : Exact 0 next K :=
  ⟨h, fun _ _ hlen => absurd hlen (Nat.not_lt_zero _),
    fun _ hlen => absurd hlen (Nat.not_lt_zero _)⟩

theorem rank_le (h : Exact n next K) {tokens : List Lexeme} {rank : Nat} (hlen : tokens.length < n)
    (hnext : next tokens = some rank) : rank ≤ 2 * tokens.length + 1 :=
  (h.fails hlen hnext).le

/-- A parse that is over is right about the language of the empty word. -/
theorem ended : Exact n (fun _ => none) 1 :=
  ⟨⟨[], rfl⟩, nofun, fun _ _ _ => .inl rfl⟩

/-- A token that begins no word of the language is refused. -/
theorem refuses (h : Exact n next K) (hnil : [] ∉ K) {t : Lexeme} {rest : List Lexeme}
    (hlen : (t :: rest).length < n) (ht : ¬ Begun K [t.node]) :
    next (t :: rest) = some (2 * (rest.length + 1) + 1) := by
  cases hnext : next (t :: rest) with
  | none =>
    rcases h.succeeds hlen hnext with h | ⟨u, more, heq, hbegun⟩
    · exact absurd h hnil
    · obtain ⟨rfl, -⟩ := List.cons.inj heq
      exact absurd hbegun ht
  | some rank =>
    rcases (h.fails hlen hnext).head with ⟨rfl, -⟩ | ⟨-, hbegun⟩
    · rfl
    · exact absurd hbegun ht

/-- A continuation that takes one of two ways, of which the first token decides.  Where the first
way fails the other is tried as well. -/
theorem choice {first second : Continuation} (hA : Exact n first A) (hB : Exact n second B)
    (hapart : ∀ t, Begun A [t] → ¬ Begun B [t])
    (hnext : ∀ tokens, tokens.length < n →
      (next tokens = first tokens ∧
        ∀ rank, first tokens = some rank → rank < 2 * tokens.length + 1) ∨
      ∃ rank, first tokens = some rank ∧ next tokens = (second tokens).map (min rank)) :
    Exact n next (A + B) := by
  have hcomm : A + B = B + A := add_comm A B
  refine ⟨?_, fun tokens rank hlen hfails => ?_, fun tokens hlen hsucceeds => ?_⟩
  · obtain ⟨w, hw⟩ := hA.inhabited
    exact ⟨w, .inl hw⟩
  · cases tokens with
    | nil =>
      rcases hnext [] hlen with ⟨hsame, hrank⟩ | ⟨r, hr, hboth⟩
      · rw [hsame] at hfails
        have hone := (hA.fails hlen hfails).nil.1
        have hless := hrank rank hfails
        rw [hone] at hless
        exact absurd hless (Nat.lt_irrefl 1)
      · rw [hboth] at hfails
        obtain ⟨r', hr', rfl⟩ := Option.map_eq_some_iff.mp hfails
        obtain ⟨rfl, hnil⟩ := (hA.fails hlen hr).nil
        obtain ⟨rfl, hnil'⟩ := (hB.fails hlen hr').nil
        exact points_nil ⟨_, .inl hA.inhabited.choose_spec⟩ fun h => h.elim hnil hnil'
    | cons t rest =>
      rcases hnext (t :: rest) hlen with ⟨hsame, hrank⟩ | ⟨r, hr, hboth⟩
      · rw [hsame] at hfails
        have hpoints := hA.fails hlen hfails
        rcases hpoints.head with ⟨heq, -⟩ | ⟨-, hbegun⟩
        · have := hrank rank hfails
          rw [List.length_cons] at this
          omega
        · exact hpoints.add_right fun _ _ hall _ => stuck_of_head (hapart _ hbegun) hall
      · rw [hboth] at hfails
        obtain ⟨r', hr', rfl⟩ := Option.map_eq_some_iff.mp hfails
        have hpoints := hA.fails hlen hr
        have hpoints' := hB.fails hlen hr'
        have hle := hpoints.le
        have hle' := hpoints'.le
        rw [List.length_cons] at hle hle'
        rcases hpoints.head with ⟨heq, hnot⟩ | ⟨hlt, hbegun⟩
        · rw [Nat.min_eq_right (by omega), hcomm]
          exact hpoints'.add_right fun _ _ hall _ => stuck_of_head hnot hall
        · have hnot := hapart _ hbegun
          have heq : r' = 2 * (rest.length + 1) + 1 := by
            rcases hpoints'.head with ⟨heq, -⟩ | ⟨-, hbegun'⟩
            · exact heq
            · exact absurd hbegun' hnot
          rw [Nat.min_eq_left (by omega)]
          exact hpoints.add_right fun _ _ hall _ => stuck_of_head hnot hall
  · rcases hnext tokens hlen with ⟨hsame, -⟩ | ⟨r, hr, hboth⟩
    · rw [hsame] at hsucceeds
      refine (hA.succeeds hlen hsucceeds).imp .inl fun h => ?_
      obtain ⟨t, rest, htokens, hbegun⟩ := h
      exact ⟨t, rest, htokens, begun_add.mpr (.inl hbegun)⟩
    · rw [hboth, Option.map_eq_none_iff] at hsucceeds
      refine (hB.succeeds hlen hsucceeds).imp .inr fun h => ?_
      obtain ⟨t, rest, htokens, hbegun⟩ := h
      exact ⟨t, rest, htokens, begun_add.mpr (.inr hbegun)⟩

end Exact
end Grammar
end GrammarText
