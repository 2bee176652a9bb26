/-
Reading a text as a quantifier.  Every text is layout alone, or a quantifier in one of its
spellings, or it is faulty, and then it is reported for bounds out of order at its front or for what
stands out of place.
-/
import GrammarText.Proofs.Quantifier.Spelling
import GrammarText.Proofs.Viability.Faults
import GrammarText.Quantifier.Parser

namespace GrammarText

open Computability LexicalClass GrammarText.Parser GrammarText.Grammar

variable {α β : Type} {stop : Nat} {tokens : List Lexeme} {text : String} {q : Quantifier}

namespace Grammar

theorem Bounds.apart {tokens : List Token} (h : Bounds tokens q []) : Apart tokens := by
  cases h with
  | optional => exact .mark .nil
  | zeroOrMore => exact .mark .nil
  | oneOrMore => exact .mark .nil
  | exactly => exact .mark (.integer (.mark .nil) nofun)
  | atLeast => exact .mark (.integer (.mark (.mark .nil)) nofun)
  | between => exact .mark (.integer (.mark (.integer (.mark .nil) nofun)) nofun)

end Grammar

namespace Parser

theorem map_failed {f : α → β} {p : Parser α} {s : Setback} (hp : p stop tokens = .failed s) :
    map f p stop tokens = .failed s := by
  unfold map
  rw [hp]

theorem mark_failed {m : Mark} {t : Lexeme} (h : t.node ≠ .mark m) (rest : List Lexeme) :
    mark m stop (t :: rest) =
      .failed ⟨rest.length + 1, .unexpected t.span [.mark m] (some t.node)⟩ :=
  if_neg h

/-- Where all forms fail, the one that gets further is what they fail over. -/
theorem firstOf_failed {p other : Parser α} {others : List (Parser α)} {s later : Setback}
    (hp : p stop tokens = .failed s) (hothers : firstOf other others stop tokens = .failed later)
    (hlt : later.left < s.left) : firstOf p (other :: others) stop tokens = .failed later := by
  have hfurthest : later.furthest s = later := if_pos hlt
  unfold firstOf
  simp only [hp, hothers, hfurthest]

end Parser

namespace Quantifier

/-- The texts of a quantifier. -/
def spellings (q : Quantifier) : Language Char :=
  {w : List Char | ∃ tokens, Bounds tokens q [] ∧ w ∈ laidOut tokens}

theorem mem_spellings : text.toList ∈ q.spellings ↔
    (tokenize text).errors = [] ∧ Bounds (nodes (tokenize text).tokens) q [] := by
  constructor
  · rintro ⟨tokens, hbounds, hw⟩
    obtain ⟨herrors, rfl⟩ := (Lexed.tokenize_iff_laidOut hbounds.apart text).mpr hw
    exact ⟨herrors, hbounds⟩
  · rintro ⟨herrors, hbounds⟩
    exact ⟨_, hbounds, (Lexed.tokenize_iff_laidOut hbounds.apart text).mp ⟨herrors, rfl⟩⟩

/-- A quantifier or nothing, and the end behind it. -/
def whole : Parser (Option Quantifier) :=
  before (Parser.optional parser) endOfInput

theorem resolve_of_errors {first : LexError} {more : List LexError}
    (h : (tokenize text).errors = first :: more) :
    resolve text = .error (.unexpected first.span [.quantifier] none) := by
  unfold resolve
  simp only [h]

theorem resolve_of_errors_nil (h : (tokenize text).errors = []) :
    resolve text = run whole (Text.byteLength text.toList) (tokenize text).tokens := by
  unfold resolve
  simp only [h]
  rfl

theorem run_whole_eq_none : run whole stop tokens = .ok none ↔ tokens = [] := by
  constructor
  · intro h
    rcases succeeds_optional.mp (run_before_endOfInput.mp h) with ⟨_, hnone, -⟩ | ⟨-, hnil, -⟩
    · cases hnone
    · exact hnil.symm
  · rintro rfl
    rfl

theorem run_whole_eq_some : run whole stop tokens = .ok (some q) ↔ Bounds (nodes tokens) q [] := by
  constructor
  · intro h
    rcases succeeds_optional.mp (run_before_endOfInput.mp h) with ⟨_, hsome, hs⟩ | ⟨hsome, -⟩
    · cases hsome
      exact quantifier_sound hs
    · cases hsome
  · intro h
    obtain ⟨rest, hrest, hs⟩ := h.reads stop rfl
    obtain rfl := List.map_eq_nil_iff.mp hrest
    exact run_before_endOfInput.mpr (succeeds_optional.mpr (.inl ⟨q, rfl, hs⟩))

theorem resolve_eq_none :
    resolve text = .ok none ↔ text.toList ∈ (blanks.texts + comment.texts)∗ := by
  refine Iff.trans ?_ (Lexed.tokenize_iff_laidOut .nil text)
  cases herrors : (tokenize text).errors with
  | cons first more =>
    rw [resolve_of_errors herrors]
    exact ⟨nofun, nofun⟩
  | nil =>
    rw [resolve_of_errors_nil herrors, run_whole_eq_none]
    exact ⟨fun h => ⟨rfl, congrArg nodes h⟩, fun h => List.map_eq_nil_iff.mp h.2⟩

theorem resolve_eq_some : resolve text = .ok (some q) ↔ text.toList ∈ q.spellings := by
  rw [mem_spellings]
  cases herrors : (tokenize text).errors with
  | cons first more =>
    rw [resolve_of_errors herrors]
    exact ⟨nofun, nofun⟩
  | nil =>
    rw [resolve_of_errors_nil herrors, run_whole_eq_some]
    exact ⟨fun h => ⟨rfl, h⟩, fun h => h.2⟩

/- Bounds out of order. -/

/-- A text of which some tokens are a quantifier's own fails over the quantifier. -/
theorem run_whole_failed {s : Setback} (h : parser stop tokens = .failed s)
    (hlt : s.left < tokens.length) : run whole stop tokens = .error s.error := by
  cases tokens with
  | nil => exact absurd hlt (Nat.not_lt_zero _)
  | cons t rest =>
    have hmax : ∀ e : ParseError, (Setback.mk (rest.length + 1) e).max (some s) = s := fun e =>
      (if_neg (Nat.lt_asymm hlt)).trans (if_pos hlt)
    simp only [run, whole, before, Parser.map, both, Parser.optional, h, endOfInput, hmax]

/-- Bounds out of order are what the text fails over, whatever stands behind them. -/
theorem run_whole_inverted {value : List Lexeme} {min max : UInt32} (h : Inverted value min max)
    (stop : Nat) (behind : List Lexeme) :
    run whole stop (value ++ behind) = .error (.invertedBounds (range value) min max) := by
  have hfails := inverted_fails h stop behind
  obtain ⟨opening, more, rfl, hopening, -⟩ := nodes_eq_cons.mp h.nodes_eq
  have hlt : behind.length < (more ++ behind).length + 1 := by
    rw [List.length_append]
    omega
  -- The other spellings fail over the brace, which stands in front of all of it.
  have hmark : ∀ (m : Mark) (q : Quantifier), Mark.openBrace ≠ m →
      ∃ e, Parser.map (fun _ => q) (Parser.mark m) stop (opening :: (more ++ behind)) =
        .failed ⟨(more ++ behind).length + 1, e⟩ := fun m q hm =>
    ⟨_, map_failed (mark_failed (fun heq => hm (Token.mark.inj (hopening.symm.trans heq))) _)⟩
  obtain ⟨_, hquestion⟩ := hmark .question .optional nofun
  obtain ⟨_, hstar⟩ := hmark .star .zeroOrMore nofun
  obtain ⟨_, hplus⟩ := hmark .plus .oneOrMore nofun
  have hbounds : firstOf (checked ofWritten bounds) [] stop (opening :: (more ++ behind)) =
      .failed ⟨behind.length, .invertedBounds (range (opening :: more)) min max⟩ := hfails
  have hforms := firstOf_failed hquestion
    (firstOf_failed hstar (firstOf_failed hplus hbounds hlt) hlt) hlt
  have hparser : parser stop (opening :: (more ++ behind)) =
      .failed ⟨behind.length, .invertedBounds (range (opening :: more)) min max⟩ := by
    unfold parser labelled
    rw [hforms]
    rfl
  exact run_whole_failed hparser hlt

/- Anything else. -/

theorem ordinary_of_fault {s : Setback} (h : s.error.fault = .unexpected) : Minds none s :=
  .ordinary (fun f hf => absurd hf (Option.not_mem_none f)) h

theorem ordinary_of_readsIn {S : Token → Prop} {p : Parser α} (h : ReadsIn S p) :
    ∀ s ∈ (p stop tokens).setback, Minds none s :=
  fun s hs => ordinary_of_fault (h.fails stop tokens s hs).2

/-- Reading bounds minds no values.  Only the check behind it does. -/
theorem bounds_ordinary : ∀ s ∈ (bounds stop tokens).setback, Minds none s := by
  have hfurthest : ∀ a b, Minds none a → Minds none b → Minds none (a.furthest b) :=
    fun _ _ => Minds.furthest
  have hmark : ∀ m tokens, ∀ s ∈ (Parser.mark m stop tokens).setback, Minds none s :=
    fun m tokens => ordinary_of_readsIn (.exactly _ _)
  have hinteger : ∀ tokens, ∀ s ∈ (integer stop tokens).setback, Minds none s :=
    fun tokens => ordinary_of_readsIn (.token _ _)
  refine setback_map _ (setback_both hfurthest (hmark _ _) fun _ _ _ => ?_)
  refine setback_map _ (setback_both hfurthest ?_ fun _ _ _ => hmark _ _)
  refine setback_both hfurthest (hinteger _) fun _ _ _ => setback_optional ?_
  exact setback_map _ (setback_both hfurthest (hmark _ _) fun _ _ _ =>
    setback_optional (hinteger _))

theorem parser_ordinary
    (h : ∀ value behind min max, tokens = value ++ behind → ¬ Inverted value min max) :
    ∀ s ∈ (parser stop tokens).setback, Minds none s := by
  have hfurthest : ∀ a b, Minds none a → Minds none b → Minds none (a.furthest b) :=
    fun _ _ => Minds.furthest
  have hmark : ∀ (m : Mark) (q : Quantifier),
      ∀ s ∈ (Parser.map (fun _ => q) (Parser.mark m) stop tokens).setback, Minds none s :=
    fun m q => setback_map _ (ordinary_of_readsIn (.exactly _ _))
  have hbounds : ∀ s ∈ (checked ofWritten bounds stop tokens).setback, Minds none s := by
    refine setback_checked (fun written rest span e hs he => ?_) bounds_ordinary
    obtain ⟨value, behind, min, max, htokens, hvalue⟩ := inverted_of_ofWritten hs he
    exact absurd hvalue (h value behind min max htokens)
  exact setback_labelled (fun _ hs => hs.withLabel _)
    (setback_firstOf hfurthest (hmark _ _) (setback_firstOf hfurthest (hmark _ _)
      (setback_firstOf hfurthest (hmark _ _) hbounds)))

theorem whole_ordinary
    (h : ∀ value behind min max, tokens = value ++ behind → ¬ Inverted value min max) :
    ∀ s ∈ (whole stop tokens).setback, Minds none s := by
  refine setback_map _ (setback_both (fun _ _ => Minds.furthest)
    (setback_optional (parser_ordinary h)) fun value mid _ s hs => ?_)
  cases mid with
  | nil => cases hs
  | cons t rest =>
    obtain rfl := Option.some.inj hs
    exact ordinary_of_fault rfl

theorem whole_blames : ∀ s ∈ (whole stop tokens).setback, Blames stop tokens s := by
  have hcomposed := (parser_composed (tokens.length + 1)).optional
  have hlen := Nat.lt_succ_self tokens.length
  refine setback_map _ (setback_both (fun _ _ => Blames.furthest)
    (hcomposed.blames stop hlen) fun value mid hmid s hs => ?_)
  refine Blames.behind ?_ (hcomposed.suffix hlen hmid)
  cases mid with
  | nil => cases hs
  | cons t rest =>
    obtain rfl := Option.some.inj hs
    exact ⟨t :: rest, List.suffix_rfl, rfl, fun _ => ⟨rfl, rfl⟩⟩

/-- Only where no token is named the message speaks of the end. -/
theorem foundText_eq_end {e : ParseError} : e.foundText = "end of input" ↔ e.found = none := by
  unfold ParseError.foundText
  constructor
  · intro h
    cases hfound : e.found with
    | none => rfl
    | some t =>
      have hhead := congrArg (fun s : String => s.toList.head?) h
      rw [hfound] at hhead
      cases t <;>
        simp [ParseError.describeFound, Token.text, String.toList_append] at hhead
  · intro h
    rw [h]
    rfl

/-- The tokens of a text without lexical errors start with bounds out of order. -/
structure BeginsInverted (text : String) (value : List Lexeme) (min max : UInt32) : Prop where
  errors_eq_nil : (tokenize text).errors = []
  leads : value <+: (tokenize text).tokens
  inverted : Inverted value min max

/-- Where an error of the ordinary kind lies: at the first text that is no token, or at the token
that it names, or at the end of the source. -/
structure Located (text : String) (e : ParseError) : Prop where
  lexical : ∀ first ∈ (tokenize text).errors.head?, e.span = first.span ∧ e.found = none
  named : (tokenize text).errors = [] → ∀ t, e.found = some t → ⟨t, e.span⟩ ∈ (tokenize text).tokens
  unnamed : (tokenize text).errors = [] → e.found = none →
    e.span = ⟨Text.byteLength text.toList, Text.byteLength text.toList⟩

theorem BeginsInverted.resolve_eq {value : List Lexeme} {min max : UInt32}
    (h : BeginsInverted text value min max) :
    resolve text = .error (.invertedBounds (range value) min max) := by
  obtain ⟨behind, hbehind⟩ := h.leads
  rw [resolve_of_errors_nil h.errors_eq_nil, ← hbehind]
  exact run_whole_inverted h.inverted _ behind

theorem located_of_errors {first : LexError} {more : List LexError}
    (h : (tokenize text).errors = first :: more) (expected : List Expectation) :
    Located text (.unexpected first.span expected none) := by
  refine ⟨fun other hother => ?_, fun hnil => ?_, fun hnil => ?_⟩
  · rw [h] at hother
    cases hother
    exact ⟨rfl, rfl⟩
  · rw [h] at hnil
    cases hnil
  · rw [h] at hnil
    cases hnil

theorem located_of_accuses {e : ParseError} {left : List Lexeme}
    (herrors : (tokenize text).errors = []) (hleft : left <:+ (tokenize text).tokens)
    (he : Accuses (Text.byteLength text.toList) e left) (hfault : e.fault = .unexpected) :
    Located text e := by
  refine ⟨fun first hfirst => ?_, fun _ t ht => ?_, fun _ hnone => ?_⟩
  · rw [herrors] at hfirst
    cases hfirst
  · cases left with
    | nil =>
      rw [(he hfault).2] at ht
      cases ht
    | cons u rest =>
      obtain ⟨hspan, hfound⟩ := he hfault
      obtain rfl := Option.some.inj (hfound.symm.trans ht)
      rw [hspan]
      exact hleft.subset (List.mem_cons_self ..)
  · cases left with
    | nil => exact (he hfault).1
    | cons u rest =>
      rw [(he hfault).2] at hnone
      cases hnone

theorem resolve_unexpected (hnone : text.toList ∉ (blanks.texts + comment.texts)∗)
    (hsome : ∀ q : Quantifier, text.toList ∉ q.spellings)
    (hinverted : ∀ value min max, ¬ BeginsInverted text value min max) :
    ∃ e, resolve text = .error e ∧ e.fault = .unexpected ∧ Located text e := by
  cases herrors : (tokenize text).errors with
  | cons first more =>
    exact ⟨_, resolve_of_errors herrors, rfl, located_of_errors herrors _⟩
  | nil =>
    have hvalue : ∀ value behind min max, (tokenize text).tokens = value ++ behind →
        ¬ Inverted value min max := fun value behind min max htokens h =>
      hinverted value min max ⟨herrors, ⟨behind, htokens.symm⟩, h⟩
    have hresolve := resolve_of_errors_nil herrors
    unfold run at hresolve
    cases hdone : whole (Text.byteLength text.toList) (tokenize text).tokens with
    | done value rest s =>
      simp only [hdone] at hresolve
      cases value with
      | none => exact absurd (resolve_eq_none.mp hresolve) hnone
      | some q => exact absurd (resolve_eq_some.mp hresolve) (hsome q)
    | failed s =>
      simp only [hdone] at hresolve
      have hs : s ∈ (whole (Text.byteLength text.toList) (tokenize text).tokens).setback := by
        rw [hdone]
        rfl
      have hfault : s.error.fault = .unexpected := by
        by_contra hfault
        cases (whole_ordinary hvalue s hs).specific hfault
      obtain ⟨left, hleft, -, he⟩ := whole_blames s hs
      exact ⟨s.error, hresolve, hfault, located_of_accuses herrors hleft he hfault⟩

/--
Every text is blanks and comments alone, or a quantifier in one of its spellings, or faulty.  Bounds
out of order at its front are what it is faulty for.  Otherwise the error is one of the ordinary
kind, and if the text is made of tokens, it names the token at its place or is about the end.
-/
theorem resolve_decides (text : String) :
    (resolve text = .ok none ↔ text.toList ∈ (blanks.texts + comment.texts)∗) ∧
      (∀ q, (resolve text = .ok (some q) ↔ text.toList ∈ q.spellings) ∧
        (resolve text = .ok (some q) ↔
          (tokenize text).errors = [] ∧ Bounds (nodes (tokenize text).tokens) q [])) ∧
      (∀ value min max, BeginsInverted text value min max →
        resolve text = .error (.invertedBounds (range value) min max)) ∧
      (text.toList ∉ (blanks.texts + comment.texts)∗ →
        (∀ q : Quantifier, text.toList ∉ q.spellings) →
        (∀ value min max, ¬ BeginsInverted text value min max) →
        ∃ e, resolve text = .error e ∧ e.fault = .unexpected ∧ Located text e ∧
          (e.foundText = "end of input" ↔ e.found = none)) := by
  refine ⟨resolve_eq_none, fun _ => ⟨resolve_eq_some, resolve_eq_some.trans mem_spellings⟩,
    fun _ _ _ h => h.resolve_eq, fun hnone hsome hinverted => ?_⟩
  obtain ⟨e, hresolve, hfault, hlocated⟩ := resolve_unexpected hnone hsome hinverted
  exact ⟨e, hresolve, hfault, hlocated, foundText_eq_end⟩

/-- Bounds out of order are reported as such in front of a quantifier, but not behind one. -/
theorem resolve_decides_inverted :
    (BeginsInverted "{5..2}+" ((tokenize "{5..2}+").tokens.take 5) 5 2 ∧
      resolve "{5..2}+" = .error (.invertedBounds ⟨0, 6⟩ 5 2)) ∧
    (∀ value min max, ¬ BeginsInverted "+{5..2}" value min max) ∧
      ∃ e, resolve "+{5..2}" = .error e ∧ e.fault = .unexpected ∧ Located "+{5..2}" e := by
  have hbegins : BeginsInverted "{5..2}+" ((tokenize "{5..2}+").tokens.take 5) 5 2 :=
    ⟨by decide +kernel, List.take_prefix _ _, by decide +kernel, by decide +kernel⟩
  have hrange : range ((tokenize "{5..2}+").tokens.take 5) = ⟨0, 6⟩ := by decide +kernel
  have hinverted := (resolve_decides "{5..2}+").2.2.1 _ _ _ hbegins
  rw [hrange] at hinverted
  obtain ⟨hnone, hsome, hbehind, hfaulty⟩ := resolve_decides "+{5..2}"
  have herror : resolve "+{5..2}" =
      .error (.unexpected ⟨1, 2⟩ [.endOfInput] (some (.mark .openBrace))) := by decide +kernel
  rw [herror] at hnone hsome hbehind
  have hfront : ∀ value min max, ¬ BeginsInverted "+{5..2}" value min max :=
    fun value min max h => nomatch hbehind value min max h
  obtain ⟨e, he, hfault, hlocated, -⟩ := hfaulty (fun h => nomatch hnone.mpr h)
    (fun q h => nomatch (hsome q).1.mpr h) hfront
  exact ⟨⟨hbegins, hinverted⟩, hfront, e, he, hfault, hlocated⟩

/-- A character that is no part of a token is reported as the end of the input, though it is not
there. -/
theorem stray_reported_as_end : ∃ e, resolve "@" = .error e ∧ e.fault = .unexpected ∧
    e.found = none ∧ e.message = "unexpected end of input, expected quantifier" ∧
    e.span.start < Text.byteLength "@".toList :=
  ⟨.unexpected ⟨0, 1⟩ [.quantifier] none, by decide +kernel, rfl, rfl, by decide +kernel,
    by decide +kernel⟩

end Quantifier
end GrammarText
