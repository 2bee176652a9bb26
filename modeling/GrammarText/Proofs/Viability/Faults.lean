/-
What a declaration fails over if all that is wrong with it are values.  No parser goes past a faulty
part, so every error that is raised lies at the end of the leftmost one or before it, and the errors
about values are those of that part alone.
-/
import GrammarText.Proofs.Viability.Declaration
import GrammarText.Proofs.Viability.Parts

namespace GrammarText

open GrammarText.Parser

namespace Grammar

variable {α β : Type} {S : Token → Prop} {n stop : Nat} {tokens rest : List Lexeme}
  {opened : List Token}

/-- An error about a value is the given one, and no error lies behind that. -/
structure Minds (fault : Option Setback) (s : Setback) : Prop where
  left_le : ∀ f ∈ fault, f.left ≤ s.left
  specific : s.error.fault ≠ .unexpected → fault = some s

namespace Minds

variable {fault : Option Setback} {a b s : Setback}

theorem furthest (ha : Minds fault a) (hb : Minds fault b) : Minds fault (a.furthest b) := by
  rcases a.furthest_cases b with heq | heq | ⟨-, hfault, hfault', heq⟩
  · rwa [heq]
  · rwa [heq]
  · rw [heq, ParseError.merge_of_unexpected hfault hfault']
    exact ⟨ha.left_le, fun h => absurd rfl h⟩

theorem withLabel (h : Minds fault s) (name : Expectation) : Minds fault (s.withLabel name) := by
  refine ⟨h.left_le, fun hfault => ?_⟩
  have hspecific : s.error.fault ≠ .unexpected := by
    rwa [← s.error.withLabel_fault name]
  show fault = some ⟨s.left, s.error.withLabel name⟩
  rw [ParseError.withLabel_of_specific hspecific]
  exact h.specific hspecific

/-- An ordinary error that no fault ends before. -/
theorem ordinary (hleft : ∀ f ∈ fault, f.left ≤ s.left) (h : s.error.fault = .unexpected) :
    Minds fault s :=
  ⟨hleft, fun hfault => absurd h hfault⟩

end Minds

/-- The parser reads one token in `S`, or it fails over the first token, whatever its value. -/
structure ReadsIn (S : Token → Prop) (p : Parser α) : Prop where
  reads : ∀ ⦃stop tokens value rest⦄, Succeeds p stop tokens value rest →
    ∃ t, tokens = t :: rest ∧ S t.node
  fails : ∀ stop tokens, ∀ s ∈ (p stop tokens).setback,
    s.left = tokens.length ∧ s.error.fault = .unexpected

namespace ReadsIn

theorem exactly (wanted : Expectation) (expected : Token) :
    ReadsIn (· = expected) (Parser.exactly wanted expected) := by
  refine ⟨fun _ _ _ _ h => succeeds_exactly.mp h, fun stop tokens s hs => ?_⟩
  have hhead := setback_exactly s hs
  exact ⟨hhead.left, hhead.fault⟩

theorem token (wanted : Expectation) (read : Token → Option α) :
    ReadsIn (fun t => ∃ value, read t = some value) (Parser.token wanted read) := by
  refine ⟨fun _ _ value _ h => ?_, fun stop tokens s hs => ?_⟩
  · obtain ⟨t, htokens, ht⟩ := succeeds_token.mp h
    exact ⟨t, htokens, value, ht⟩
  · have hhead := setback_token s hs
    exact ⟨hhead.left, hhead.fault⟩

theorem imp {p : Parser α} {S' : Token → Prop} (h : ReadsIn S p) (hS : ∀ t, S t → S' t) :
    ReadsIn S' p := by
  refine ⟨fun _ _ _ _ hs => ?_, h.fails⟩
  obtain ⟨t, htokens, ht⟩ := h.reads hs
  exact ⟨t, htokens, hS _ ht⟩

theorem labelled {p : Parser α} (h : ReadsIn S p) (name : Expectation) :
    ReadsIn S (Parser.labelled name p) := by
  refine ⟨fun _ _ _ _ hs => h.reads (succeeds_labelled.mp hs), fun stop tokens => ?_⟩
  refine setback_labelled (fun s hs => ?_) (h.fails stop tokens)
  exact ⟨hs.1, (s.error.withLabel_fault name).trans hs.2⟩

theorem word (w : Word) : ReadsIn (· = .ruleName w.text) (Pattern.word w) :=
  (exactly _ _).labelled _

theorem literal : ReadsIn (fun t => ∃ text, t = .literal text) Pattern.literal :=
  (token _ _).imp fun t ⟨_, h⟩ => by
    cases t with
    | literal text => exact ⟨text, rfl⟩
    | _ => cases h

end ReadsIn

/-- Behind the tokens that have been opened, on fewer than `n` tokens, the parser reads no faulty
part, and it minds the leftmost. -/
def Heeds (opened : List Token) (n : Nat) (p : Parser α) : Prop :=
  ∀ stop context tokens, nodes context = opened → tokens.length < n →
    (∀ value rest, Succeeds p stop tokens value rest →
      rest.length ≤ tokens.length ∧ firstFault rest = firstFault (context ++ tokens)) ∧
    ∀ s ∈ (p stop tokens).setback, Minds (firstFault (context ++ tokens)) s

namespace Heeds

variable {p o : Parser α} {q : Parser β} {others : List (Parser α)}

/-- A token that ends what has been opened. -/
theorem closing (hp : ReadsIn S p) (hopen : Opening opened)
    (hclose : ∀ context t rest, nodes context = opened → S t.node →
      firstFault (context ++ t :: rest) = firstFault rest) (n : Nat) : Heeds opened n p := by
  rintro stop context tokens rfl -
  refine ⟨fun value rest h => ?_, fun s hs => ?_⟩
  · obtain ⟨t, rfl, ht⟩ := hp.reads h
    exact ⟨Nat.le_succ _, (hclose context t rest rfl ht).symm⟩
  · obtain ⟨hleft, hfault⟩ := hp.fails _ _ s hs
    exact .ordinary (fun f hf => hleft ▸ hopen.left_le hf) hfault

/-- A token that is a part by itself. -/
theorem lone (hp : ReadsIn S p) (hS : ∀ t, S t → Lone t) (n : Nat) : Heeds [] n p := by
  refine closing hp (.inl rfl) (fun context t rest hcontext ht => ?_) n
  obtain rfl := List.map_eq_nil_iff.mp hcontext
  exact firstFault_lone (hS _ ht) rest

theorem read {wanted : Expectation} {read : Token → Option α}
    (hread : ∀ t value, read t = some value → Lone t) (n : Nat) :
    Heeds [] n (Parser.token wanted read) :=
  lone (ReadsIn.token wanted read) (fun t h => h.elim (hread t)) n

/-- Where what has been opened is a part or no part of one, the parser starts afresh. -/
theorem afresh (hp : Heeds [] n p)
    (h : ∀ context rest, nodes context = opened →
      firstFault (context ++ rest) = firstFault rest) : Heeds opened n p := by
  intro stop context tokens hcontext hlen
  rw [h context tokens hcontext]
  exact hp stop [] tokens rfl hlen

theorem mono {m : Nat} (h : Heeds opened m p) (hn : n ≤ m) : Heeds opened n p :=
  fun stop context tokens hcontext hlen =>
    h stop context tokens hcontext (Nat.lt_of_lt_of_le hlen hn)

/-- A token that opens more, and what goes on behind it. -/
theorem opening {t : Token} (hp : ReadsIn (· = t) p) (hopen : Opening opened)
    (hq : Heeds (opened ++ [t]) n q) : Heeds opened (n + 1) (both p q) := by
  rintro stop context tokens rfl hlen
  have hmid : ∀ {value mid}, Succeeds p stop tokens value mid → ∃ u, tokens = u :: mid ∧
      nodes (context ++ [u]) = nodes context ++ [t] ∧ mid.length < n := by
    intro value mid h
    obtain ⟨u, rfl, rfl⟩ := hp.reads h
    exact ⟨u, rfl, by rw [nodes_append]; rfl, Nat.lt_of_succ_lt_succ hlen⟩
  constructor
  · intro value rest h
    obtain ⟨mid, ha, hb⟩ := succeeds_both.mp h
    obtain ⟨u, rfl, hnodes, hshort⟩ := hmid ha
    obtain ⟨hle, hsame⟩ := (hq stop _ _ hnodes hshort).1 _ _ hb
    rw [hsame, List.append_assoc]
    exact ⟨Nat.le_succ_of_le hle, rfl⟩
  · refine setback_both (fun _ _ ha hb => ha.furthest hb) (fun s hs => ?_) fun value mid h => ?_
    · obtain ⟨hleft, hfault⟩ := hp.fails _ _ s hs
      exact .ordinary (fun f hf => hleft ▸ hopen.left_le hf) hfault
    · obtain ⟨u, rfl, hnodes, hshort⟩ := hmid h
      have := (hq stop _ _ hnodes hshort).2
      rwa [List.append_assoc] at this

theorem map {f : α → β} (h : Heeds opened n p) : Heeds opened n (Parser.map f p) := by
  intro stop context tokens hcontext hlen
  obtain ⟨hreads, hminds⟩ := h stop context tokens hcontext hlen
  refine ⟨fun value rest hs => ?_, setback_map f hminds⟩
  obtain ⟨a, ha, -⟩ := succeeds_map.mp hs
  exact hreads a rest ha

theorem both (hp : Heeds opened n p) (hq : Heeds [] n q) : Heeds opened n (Parser.both p q) := by
  intro stop context tokens hcontext hlen
  obtain ⟨hreads, hminds⟩ := hp stop context tokens hcontext hlen
  constructor
  · intro value rest h
    obtain ⟨mid, ha, hb⟩ := succeeds_both.mp h
    obtain ⟨hle, hsame⟩ := hreads _ _ ha
    obtain ⟨hle', hsame'⟩ := (hq stop [] _ rfl (Nat.lt_of_le_of_lt hle hlen)).1 _ _ hb
    exact ⟨hle'.trans hle, hsame'.trans hsame⟩
  · refine setback_both (fun _ _ ha hb => ha.furthest hb) hminds fun value mid h => ?_
    obtain ⟨hle, hsame⟩ := hreads _ _ h
    rw [← hsame]
    exact (hq stop [] _ rfl (Nat.lt_of_le_of_lt hle hlen)).2

theorem before (hp : Heeds opened n p) (hq : Heeds [] n q) :
    Heeds opened n (Parser.before p q) :=
  (hp.both hq).map

theorem after (hp : Heeds opened n p) (hq : Heeds [] n q) : Heeds opened n (Parser.after p q) :=
  (hp.both hq).map

/-- Behind a token that is a part by itself there is one token fewer. -/
theorem behind {t : Token} (hp : ReadsIn (· = t) p) (ht : Lone t) (hq : Heeds [] n q) :
    Heeds [] (n + 1) (Parser.both p q) := by
  refine opening hp (.inl rfl) (hq.afresh fun context rest hcontext => ?_)
  refine firstFault_lones (fun u hu => ?_) rest
  have hmem := List.mem_map_of_mem (f := Spanned.node) hu
  rw [← nodes, hcontext] at hmem
  rwa [List.mem_singleton.mp hmem]

theorem only (h : Heeds opened n p) : Heeds opened n (Parser.firstOf p []) :=
  h

theorem firstOf (hp : Heeds opened n p) (ho : Heeds opened n (Parser.firstOf o others)) :
    Heeds opened n (Parser.firstOf p (o :: others)) := by
  intro stop context tokens hcontext hlen
  obtain ⟨hreads, hminds⟩ := hp stop context tokens hcontext hlen
  obtain ⟨hreads', hminds'⟩ := ho stop context tokens hcontext hlen
  refine ⟨fun value rest h => ?_, setback_firstOf (fun _ _ ha hb => ha.furthest hb) hminds hminds'⟩
  rcases succeeds_firstOf_cons.mp h with h | ⟨-, h⟩
  · exact hreads value rest h
  · exact hreads' value rest h

theorem optional (h : Heeds [] n p) : Heeds [] n (Parser.optional p) := by
  intro stop context tokens hcontext hlen
  obtain ⟨hreads, hminds⟩ := h stop context tokens hcontext hlen
  obtain rfl := List.map_eq_nil_iff.mp hcontext
  refine ⟨fun value rest hs => ?_, setback_optional hminds⟩
  rcases succeeds_optional.mp hs with ⟨a, -, ha⟩ | ⟨-, rfl, -⟩
  · exact hreads a rest ha
  · exact ⟨Nat.le_refl _, rfl⟩

theorem labelled {name : Expectation} (h : Heeds opened n p) :
    Heeds opened n (Parser.labelled name p) := by
  intro stop context tokens hcontext hlen
  obtain ⟨hreads, hminds⟩ := h stop context tokens hcontext hlen
  exact ⟨fun value rest hs => hreads value rest (succeeds_labelled.mp hs),
    setback_labelled (fun _ hs => hs.withLabel name) hminds⟩

theorem many (h : Heeds [] n p) : Heeds [] n (Parser.many p) := by
  intro stop context tokens hcontext hlen
  obtain rfl := List.map_eq_nil_iff.mp hcontext
  -- Wherever the repetition gets, the leftmost fault is what it was.
  have hstep : ∀ mid, (mid.length ≤ tokens.length ∧ firstFault mid = firstFault tokens) →
      (∀ s ∈ (p stop mid).setback, Minds (firstFault tokens) s) ∧
      ∀ value rest, Succeeds p stop mid value rest →
        rest.length ≤ tokens.length ∧ firstFault rest = firstFault tokens := by
    rintro mid ⟨hle, hsame⟩
    obtain ⟨hreads, hminds⟩ :=
      h stop [] mid rfl (Nat.lt_of_le_of_lt hle hlen)
    rw [List.nil_append, hsame] at hreads hminds
    exact ⟨hminds, fun value rest hs =>
      ⟨(hreads value rest hs).1.trans hle, (hreads value rest hs).2⟩⟩
  refine ⟨fun values rest hs => ?_, ?_⟩
  · rw [← (succeeds_many.mp hs).2]
    exact collect_invariant (fun mid value rest hmid h => (hstep mid hmid).2 value rest h)
      ⟨Nat.le_refl _, rfl⟩ _
  · exact setback_many (fun _ _ ha hb => ha.furthest hb) _ ⟨Nat.le_refl _, rfl⟩ hstep

theorem many1 (h : Heeds [] n p) : Heeds [] n (Parser.many1 p) :=
  (h.both h.many).map

theorem mark {m : Mark} (hm : Lone (.mark m)) (n : Nat) : Heeds [] n (Parser.mark m) :=
  lone (.exactly _ _) (fun _ ht => ht ▸ hm) n

theorem word (w : Word) (n : Nat) : Heeds [] n (Pattern.word w) :=
  lone (.word w) (fun _ ht => ht ▸ by simp [Lone]) n

end Heeds

/- Quantifiers. -/

/-- The range of tokens up to others is that of the first and the last of them. -/
theorem spanBetween_append {value : List Lexeme} (h : value ≠ []) (stop : Nat)
    (behind : List Lexeme) : spanBetween stop (value ++ behind) behind = range value := by
  unfold spanBetween range
  rw [List.length_append, Nat.add_sub_cancel, List.take_left]
  cases value with
  | nil => exact absurd rfl h
  | cons t rest =>
    rw [List.getLast?_eq_some_getLast h]
    rfl

theorem inverted_fails {value : List Lexeme} {min max : UInt32} (h : Inverted value min max)
    (stop : Nat) (behind : List Lexeme) :
    checked Quantifier.ofWritten Quantifier.bounds stop (value ++ behind) =
      .failed ⟨behind.length, .invertedBounds (range value) min max⟩ := by
  obtain ⟨hvalue, hlt⟩ := h
  have hne : value ≠ [] := by
    rintro rfl
    cases hvalue
  have hspan := spanBetween_append hne stop behind
  obtain ⟨opening, value, rfl, hopening, hvalue⟩ := nodes_eq_cons.mp hvalue
  obtain ⟨lower, value, rfl, hlower, hvalue⟩ := nodes_eq_cons.mp hvalue
  obtain ⟨dots, value, rfl, hdots, hvalue⟩ := nodes_eq_cons.mp hvalue
  obtain ⟨upper, value, rfl, hupper, hvalue⟩ := nodes_eq_cons.mp hvalue
  obtain ⟨closing, value, rfl, hclosing, hvalue⟩ := nodes_eq_cons.mp hvalue
  obtain rfl := List.map_eq_nil_iff.mp hvalue
  have hbounds : Quantifier.bounds stop ([opening, lower, dots, upper, closing] ++ behind) =
      .done (min, some (some max)) behind none := by
    simp [Quantifier.bounds, Quantifier.integer, Parser.after, Parser.before, Parser.both,
      Parser.map, Parser.mark, Parser.exactly, Parser.token, Parser.optional, hopening, hlower,
      hdots, hupper, hclosing, Setback.latest]
  unfold checked
  rw [hbounds]
  simp only [Quantifier.ofWritten, Quantifier.between?, hspan,
    dif_neg (fun hle => absurd hlt (UInt32.not_lt.mpr hle) : ¬ min ≤ max)]

/-- The check of bounds fails over bounds that are out of order. -/
theorem inverted_of_ofWritten {written : UInt32 × Option (Option UInt32)} {span : Span}
    {e : ParseError} (h : Succeeds Quantifier.bounds stop tokens written rest)
    (he : Quantifier.ofWritten written span = .error e) :
    ∃ value behind min max, tokens = value ++ behind ∧ Inverted value min max := by
  rcases nodes_of_bounds h with ⟨_, rfl, -⟩ | ⟨_, rfl, -⟩ | ⟨min, max, rfl, hnodes⟩
  · cases he
  · cases he
  · simp only [Quantifier.ofWritten, Quantifier.between?] at he
    by_cases hle : min ≤ max
    · rw [dif_pos hle] at he
      cases he
    · refine ⟨tokens.take 5, tokens.drop 5, min, max, (List.take_append_drop 5 tokens).symm, ?_,
        UInt32.not_le.mp hle⟩
      rw [nodes_take, hnodes]
      rfl

theorem bounds_heeds (n : Nat) : Heeds [] n (checked Quantifier.ofWritten Quantifier.bounds) := by
  have hinteger : Heeds [] n Quantifier.integer :=
    .read (fun t value h => by cases t <;> simp_all [Lone]) n
  have hinside : Heeds [] n (before (Parser.both Quantifier.integer
      (Parser.optional (after (Parser.mark .range) (Parser.optional Quantifier.integer))))
      (Parser.mark .closeBrace)) :=
    (hinteger.both (((Heeds.mark (by simp [Lone]) n).after hinteger.optional).optional)).before
      (Heeds.mark (by simp [Lone]) n)
  intro stop context tokens hcontext hlen
  obtain rfl := List.map_eq_nil_iff.mp hcontext
  rw [List.nil_append]
  by_cases hinverted : ∃ value behind min max, tokens = value ++ behind ∧ Inverted value min max
  · obtain ⟨value, behind, min, max, rfl, hvalue⟩ := hinverted
    have hfails := inverted_fails hvalue stop behind
    rw [firstFault_inverted hvalue]
    constructor
    · intro q rest h
      obtain ⟨s, hs⟩ := h
      rw [hfails] at hs
      cases hs
    · intro s hs
      rw [hfails] at hs
      obtain rfl := Option.some.inj hs
      exact ⟨fun f hf => by cases hf; exact Nat.le_refl _, fun _ => rfl⟩
  · -- Behind the brace stand single tokens.
    have hbehind : ∀ {mid}, Succeeds (Parser.mark .openBrace) stop tokens () mid →
        mid.length < tokens.length ∧ firstFault tokens = firstFault mid := by
      intro mid h
      obtain ⟨t, rfl, ht⟩ := succeeds_exactly.mp h
      refine ⟨Nat.lt_succ_self _, firstFault_brace ht fun value behind min max htokens h => ?_⟩
      exact hinverted ⟨value, behind, min, max, htokens, h⟩
    constructor
    · intro q rest h
      obtain ⟨written, hbounds, -⟩ := succeeds_checked.mp h
      obtain ⟨mid, _, hopen, hrest⟩ := succeeds_after.mp hbounds
      obtain ⟨hless, hsame⟩ := hbehind hopen
      obtain ⟨hle, hsame'⟩ :=
        (hinside stop [] _ rfl (Nat.lt_trans hless hlen)).1 _ _ hrest
      rw [hsame]
      exact ⟨hle.trans (Nat.le_of_lt hless), hsame'⟩
    · refine setback_checked (fun written rest span e hbounds he => ?_) (setback_map _
        (setback_both (fun _ _ ha hb => ha.furthest hb) (fun s hs => ?_) fun _ mid hopen => ?_))
      · exact absurd (inverted_of_ofWritten hbounds he) hinverted
      · obtain ⟨hleft, hfault⟩ := (ReadsIn.exactly _ _).fails _ _ s hs
        exact .ordinary (fun f hf => hleft ▸ Nat.le_of_lt (left_lt_of_firstFault hf)) hfault
      · obtain ⟨hless, hsame⟩ := hbehind hopen
        rw [hsame]
        exact (hinside stop [] _ rfl (Nat.lt_trans hless hlen)).2

theorem quantifier_heeds (n : Nat) : Heeds [] n Quantifier.parser :=
  (Heeds.firstOf (Heeds.mark (by simp [Lone]) n).map
    (Heeds.firstOf (Heeds.mark (by simp [Lone]) n).map
      (Heeds.firstOf (Heeds.mark (by simp [Lone]) n).map (bounds_heeds n).only))).labelled

end Grammar
end GrammarText
