/-
The tokens that are parsed.  They are those of the source and the semicolons inside its lexical
errors.  Put in the order of their offsets, every one of them ends before the next one starts.
-/
import GrammarText.Proofs.Lexer.Fragments
import GrammarText.Recovery
import Mathlib.Data.List.Pairwise

namespace GrammarText

/-- One of two ranges ends before the other starts. -/
def Span.Apart (a b : Span) : Prop :=
  a.stop ≤ b.start ∨ b.stop ≤ a.start

theorem Span.overlaps_iff {a b : Span} :
    a.overlaps b = true ↔ a.start < b.stop ∧ b.start < a.stop := by
  unfold Span.overlaps
  rw [Bool.and_eq_true, decide_eq_true_eq, decide_eq_true_eq]

theorem Span.Apart.symm {a b : Span} (h : a.Apart b) : b.Apart a :=
  Or.symm h

/-- Sorting by a number turns a relation that holds either way between any two elements into one
from each element to every later one. -/
theorem pairwise_mergeSort_of_symmetric {α : Type} {R S : α → α → Prop} {offset : α → Nat}
    {items : List α} (hsymm : ∀ a b, R a b → R b a) (hR : items.Pairwise R)
    (hS : ∀ a ∈ items, ∀ b ∈ items, R a b → offset a ≤ offset b → S a b) :
    (items.mergeSort fun a b => offset a ≤ offset b).Pairwise S := by
  have hperm := List.mergeSort_perm items fun a b => offset a ≤ offset b
  have hrelated := hR.perm hperm.symm fun h => hsymm _ _ h
  have hsorted : (items.mergeSort fun a b => offset a ≤ offset b).Pairwise
      fun a b => decide (offset a ≤ offset b) = true := by
    refine List.pairwise_mergeSort (fun a b c hab hbc => ?_) (fun a b => ?_) items
    · simp only [decide_eq_true_eq] at *
      omega
    · simp only [Bool.or_eq_true, decide_eq_true_eq]
      omega
  refine (hrelated.and hsorted).imp_of_mem fun ha hb h => ?_
  exact hS _ (hperm.mem_iff.mp ha) _ (hperm.mem_iff.mp hb) h.1 (of_decide_eq_true h.2)

namespace Lexed

/-- What is selected from the fragments of a text keeps their order. -/
theorem filterMap_pairwise {β : Type} {select : Spanned Fragment → Option β} {span : β → Span}
    (hspan : ∀ f b, select f = some b → span b = f.span) (offset : Nat) (text : List Char) :
    ((fragments offset text).filterMap select).Pairwise
      fun a b => (span a).stop ≤ (span b).start := by
  refine List.pairwise_filterMap.mpr ((fragments_pairwise offset text).imp fun h a ha b hb => ?_)
  rw [hspan _ _ ha, hspan _ _ hb]
  exact h

theorem tokens_pairwise (source : String) :
    (tokenize source).tokens.Pairwise fun a b => a.span.stop ≤ b.span.start := by
  unfold tokenize
  rw [scan_eq]
  refine filterMap_pairwise (fun f t h => ?_) 0 source.toList
  obtain ⟨node, span⟩ := f
  cases node <;> cases h
  rfl

theorem errors_pairwise (source : String) :
    (tokenize source).errors.Pairwise fun a b => a.span.stop ≤ b.span.start := by
  unfold tokenize
  rw [scan_eq]
  refine filterMap_pairwise (fun f e h => ?_) 0 source.toList
  obtain ⟨node, span⟩ := f
  cases node <;> cases h
  rfl

/-- A token takes bytes of the source and no others. -/
theorem span_of_mem_tokens {source : String} {t : Lexeme} (h : t ∈ (tokenize source).tokens) :
    t.span.start < t.span.stop ∧ t.span.stop ≤ Text.byteLength source.toList := by
  have hspan := (span_of_mem (mem_tokens_iff.mp h)).2
  rwa [Nat.zero_add] at hspan

/-- A lexical error takes bytes of the source and no others. -/
theorem span_of_mem_errors {source : String} {e : LexError} (h : e ∈ (tokenize source).errors) :
    e.span.start < e.span.stop ∧ e.span.stop ≤ Text.byteLength source.toList := by
  have hspan := (span_of_mem (mem_errors_iff.mp h)).2
  rwa [Nat.zero_add] at hspan

/-- A token and a lexical error share no byte. -/
theorem token_apart_error {source : String} {t : Lexeme} {e : LexError}
    (ht : t ∈ (tokenize source).tokens) (he : e ∈ (tokenize source).errors) :
    t.span.Apart e.span := by
  have hsymm : Std.Symm fun f g : Spanned Fragment => f.span.Apart g.span := ⟨fun f g h => h.symm⟩
  have hpairwise : (fragments 0 source.toList).Pairwise fun f g => f.span.Apart g.span :=
    (fragments_pairwise 0 _).imp .inl
  have hne : (⟨.token t.node, t.span⟩ : Spanned Fragment) ≠ ⟨.fault e.fault, e.span⟩ :=
    fun h => nomatch congrArg Spanned.node h
  exact hpairwise.forall (mem_tokens_iff.mp ht) (mem_errors_iff.mp he) hne

end Lexed

namespace Recovery

/-- The semicolon of a text at a place inside a range, as a token. -/
def SemicolonWithin (text : List Char) (range : Span) (t : Lexeme) : Prop :=
  ∃ before after, text = before ++ ';' :: after ∧
    t = ⟨.mark .semicolon, ⟨Text.byteLength before, Text.byteLength before + 1⟩⟩ ∧
    range.start ≤ t.span.start ∧ t.span.start < range.stop

theorem SemicolonWithin.span {text : List Char} {range : Span} {t : Lexeme}
    (h : SemicolonWithin text range t) :
    t.span.stop = t.span.start + 1 ∧ range.start ≤ t.span.start ∧ t.span.start < range.stop := by
  obtain ⟨before, after, -, rfl, hstart, hstop⟩ := h
  exact ⟨rfl, hstart, hstop⟩

theorem mem_semicolons {offset : Nat} {text : List Char} {t : Lexeme} :
    t ∈ semicolons offset text ↔ ∃ before after, text = before ++ ';' :: after ∧
      t = ⟨.mark .semicolon,
        ⟨offset + Text.byteLength before, offset + Text.byteLength before + 1⟩⟩ := by
  induction text generalizing offset with
  | nil => simp [semicolons]
  | cons c rest ih =>
    have hlater : t ∈ semicolons (offset + c.utf8Size) rest ↔ ∃ before after,
        rest = before ++ ';' :: after ∧ t = ⟨.mark .semicolon,
          ⟨offset + Text.byteLength (c :: before),
            offset + Text.byteLength (c :: before) + 1⟩⟩ := by
      simp only [ih, Text.byteLength, Nat.add_assoc]
    have hmem : t ∈ semicolons offset (c :: rest) ↔
        (c = ';' ∧ t = ⟨.mark .semicolon, ⟨offset, offset + 1⟩⟩) ∨
          t ∈ semicolons (offset + c.utf8Size) rest := by
      by_cases hc : c = ';' <;> simp [semicolons, hc]
    rw [hmem, hlater]
    constructor
    · intro h
      rcases h with ⟨rfl, ht⟩ | ⟨before, after, rfl, ht⟩
      · exact ⟨[], rest, rfl, ht⟩
      · exact ⟨c :: before, after, rfl, ht⟩
    · intro h
      obtain ⟨before, after, htext, ht⟩ := h
      cases before with
      | nil =>
        obtain ⟨rfl, rfl⟩ := List.cons.inj htext
        exact .inl ⟨rfl, ht⟩
      | cons d before =>
        obtain ⟨rfl, rfl⟩ := List.cons.inj htext
        exact .inr ⟨before, after, rfl, ht⟩

theorem le_start_of_mem_semicolons {offset : Nat} {text : List Char} {t : Lexeme}
    (h : t ∈ semicolons offset text) : offset ≤ t.span.start := by
  obtain ⟨before, after, -, rfl⟩ := mem_semicolons.mp h
  exact Nat.le_add_right _ _

theorem semicolons_pairwise (offset : Nat) (text : List Char) :
    (semicolons offset text).Pairwise fun a b => a.span.stop ≤ b.span.start := by
  induction text generalizing offset with
  | nil => exact .nil
  | cons c rest ih =>
    by_cases hc : c = ';'
    · subst hc
      exact .cons (fun t ht => le_start_of_mem_semicolons ht) (ih _)
    · simpa [semicolons, hc] using ih _

/-- A place inside a part of a text is a place of that part. -/
theorem split_inside {before inside after before' after' : List Char} {c : Char}
    (h : before ++ inside ++ after = before' ++ c :: after')
    (hstart : Text.byteLength before ≤ Text.byteLength before')
    (hstop : Text.byteLength before' < Text.byteLength before + Text.byteLength inside) :
    ∃ x y, inside = x ++ c :: y ∧ before' = before ++ x := by
  have hpos := c.utf8Size_pos
  rw [List.append_assoc] at h
  rcases List.append_eq_append_iff.mp h with ⟨x, rfl, hx⟩ | ⟨x, rfl, hx⟩
  · rw [Text.byteLength_append] at hstop
    rcases List.append_eq_append_iff.mp hx with ⟨y, rfl, -⟩ | ⟨y, rfl, hy⟩
    · rw [Text.byteLength_append] at hstop
      omega
    · cases y with
      | nil =>
        rw [List.append_nil] at hstop
        omega
      | cons d y =>
        obtain ⟨rfl, -⟩ := List.cons.inj hy
        exact ⟨x, y, rfl, rfl⟩
  · rw [Text.byteLength_append] at hstart
    cases x with
    | nil =>
      cases inside with
      | nil =>
        rw [List.append_nil, Text.byteLength] at hstop
        omega
      | cons d y =>
        obtain ⟨rfl, -⟩ := List.cons.inj hx
        exact ⟨[], y, rfl, by rw [List.append_nil, List.append_nil]⟩
    | cons d x =>
      have := d.utf8Size_pos
      rw [Text.byteLength] at hstart
      omega

theorem mem_semicolons_error {source : String} {e : LexError} {t : Lexeme}
    (he : e ∈ (tokenize source).errors) :
    t ∈ semicolons e.span.start (Text.slice source.toList e.span.start e.span.stop) ↔
      SemicolonWithin source.toList e.span t := by
  obtain ⟨before, inside, after, htext, -, hstart, hstop⟩ :=
    Lexed.exists_parts_of_mem (Lexed.mem_errors_iff.mp he)
  simp only [Nat.zero_add] at hstart hstop
  rw [hstart] at hstop
  unfold SemicolonWithin
  rw [htext, hstart, hstop, Text.slice_append, mem_semicolons]
  constructor
  · intro h
    obtain ⟨x, y, rfl, rfl⟩ := h
    refine ⟨before ++ x, y ++ after, by simp, by rw [Text.byteLength_append], by simp, ?_⟩
    have hpos := Char.utf8Size_pos ';'
    rw [Text.byteLength_append, Text.byteLength]
    simp only
    omega
  · intro h
    obtain ⟨before', after', hsplit, rfl, hle, hlt⟩ := h
    obtain ⟨x, y, hinside, rfl⟩ := split_inside hsplit hle hlt
    exact ⟨x, y, hinside, by rw [Text.byteLength_append]⟩

theorem mem_swallowed {source : String} {t : Lexeme} :
    t ∈ swallowed source (tokenize source).errors ↔
      ∃ e ∈ (tokenize source).errors, SemicolonWithin source.toList e.span t := by
  unfold swallowed
  rw [List.mem_flatMap]
  exact exists_congr fun e => and_congr_right fun he => mem_semicolons_error he

/-- Every token ends before the next one starts, takes a byte at least and ends no later than the
source. -/
structure Ordered (stop : Nat) (tokens : List Lexeme) : Prop where
  pairwise : tokens.Pairwise fun a b => a.span.stop ≤ b.span.start
  start_lt : ∀ t ∈ tokens, t.span.start < t.span.stop
  stop_le : ∀ t ∈ tokens, t.span.stop ≤ stop

theorem Ordered.of_append_right {stop : Nat} {a b : List Lexeme} (h : Ordered stop (a ++ b)) :
    Ordered stop b :=
  ⟨(List.pairwise_append.mp h.pairwise).2.1,
    fun t ht => h.start_lt t (List.mem_append_right _ ht),
    fun t ht => h.stop_le t (List.mem_append_right _ ht)⟩

/-- The tokens that are parsed are those of the source and the semicolons inside its lexical
errors. -/
theorem mem_tokens {source : String} {t : Lexeme} :
    t ∈ tokens source (tokenize source) ↔ t ∈ (tokenize source).tokens ∨
      ∃ e ∈ (tokenize source).errors, SemicolonWithin source.toList e.span t := by
  unfold tokens
  rw [List.mem_mergeSort, List.mem_append, mem_swallowed]

theorem swallowed_pairwise (source : String) :
    (swallowed source (tokenize source).errors).Pairwise
      fun a b => a.span.stop ≤ b.span.start := by
  unfold swallowed
  refine List.pairwise_flatMap.mpr ⟨fun e _ => semicolons_pairwise _ _, ?_⟩
  refine (Lexed.errors_pairwise source).imp_of_mem fun {a b} ha hb h t ht u hu => ?_
  have hbefore := ((mem_semicolons_error ha).mp ht).span
  have hbehind := ((mem_semicolons_error hb).mp hu).span
  omega

theorem tokens_ordered (source : String) :
    Ordered (Text.byteLength source.toList) (tokens source (tokenize source)) := by
  have hspan : ∀ t ∈ tokens source (tokenize source), t.span.start < t.span.stop ∧
      t.span.stop ≤ Text.byteLength source.toList := by
    intro t ht
    rcases mem_tokens.mp ht with ht | ⟨e, he, ht⟩
    · exact Lexed.span_of_mem_tokens ht
    · have hinside := ht.span
      have herror := Lexed.span_of_mem_errors he
      omega
  refine ⟨?_, fun t ht => (hspan t ht).1, fun t ht => (hspan t ht).2⟩
  have hapart : ((tokenize source).tokens ++ swallowed source (tokenize source).errors).Pairwise
      fun a b => a.span.Apart b.span := by
    refine List.pairwise_append.mpr ⟨(Lexed.tokens_pairwise source).imp .inl,
      (swallowed_pairwise source).imp .inl, fun t ht u hu => ?_⟩
    obtain ⟨e, he, hu⟩ := mem_swallowed.mp hu
    have hinside := hu.span
    rcases Lexed.token_apart_error ht he with h | h
    · exact .inl (by omega)
    · exact .inr (by omega)
  refine pairwise_mergeSort_of_symmetric (fun a b h => h.symm) hapart fun a ha b hb h hle => ?_
  rcases h with h | h
  · exact h
  -- The later one would end where the earlier one starts, and that takes a byte.
  · have hpos := (hspan b (List.mem_mergeSort.mpr hb)).1
    omega

end Recovery
end GrammarText
