/-
The tokens that are parsed, fragment by fragment.  Each of them comes of a fragment of the source:
it is the fragment, or it is a semicolon inside of it.  So what is known of the fragments of a part
of a source is known of its segments.
-/
import GrammarText.Proofs.Recovery.Append

namespace GrammarText

open GrammarText.Parser GrammarText.Declaration GrammarText.Lexed

namespace Recovery

/-- The tokens to parse that come of one fragment. -/
def lexemes (source : String) (f : Spanned Fragment) : List Lexeme :=
  match f.node with
  | .token t => [⟨t, f.span⟩]
  | .fault _ => semicolons f.span.start (Text.slice source.toList f.span.start f.span.stop)
  | .skipped => []

theorem span_of_mem_lexemes {source : String} {f : Spanned Fragment}
    (hf : f ∈ fragments 0 source.toList) {t : Lexeme} (ht : t ∈ lexemes source f) :
    f.span.start ≤ t.span.start ∧ t.span.stop ≤ f.span.stop := by
  obtain ⟨node, span⟩ := f
  cases node with
  | skipped => cases ht
  | token u =>
    rw [List.mem_singleton.mp ht]
    exact ⟨Nat.le_refl _, Nat.le_refl _⟩
  | fault fault =>
    have he : ⟨fault, span⟩ ∈ (tokenize source).errors := mem_errors_iff.mpr hf
    have := ((mem_semicolons_error he).mp ht).span
    simp only at this ⊢
    omega

theorem node_of_mem_lexemes {source : String} {f : Spanned Fragment} {t : Lexeme}
    (ht : t ∈ lexemes source f) : f.node = .token t.node ∨ t.node = .mark .semicolon := by
  obtain ⟨node, span⟩ := f
  cases node with
  | skipped => cases ht
  | token u =>
    rw [List.mem_singleton.mp ht]
    exact .inl rfl
  | fault fault =>
    obtain ⟨_, _, -, rfl⟩ := mem_semicolons.mp ht
    exact .inr rfl

/-- The tokens to parse are what comes of the fragments, one after another. -/
theorem tokens_eq (source : String) : tokens source (tokenize source) =
    (fragments 0 source.toList).flatMap (lexemes source) := by
  refine (tokens_ordered source).eq_of_perm ?_ ?_
  · refine List.pairwise_flatMap.mpr ⟨fun f _ => ?_, ?_⟩
    · obtain ⟨node, span⟩ := f
      cases node with
      | skipped => exact .nil
      | token t => exact List.pairwise_singleton ..
      | fault fault => exact semicolons_pairwise _ _
    · refine (fragments_pairwise 0 source.toList).imp_of_mem fun {a b} ha hb h t ht u hu => ?_
      have hbefore := (span_of_mem_lexemes ha ht).2
      have hbehind := (span_of_mem_lexemes hb hu).1
      omega
  -- The tokens stand before all the semicolons there, and each at its fragment here.
  · have hperm : ∀ found : List (Spanned Fragment),
        (found.filterMap lexeme? ++ (found.filterMap lexError?).flatMap fun e =>
          semicolons e.span.start (Text.slice source.toList e.span.start e.span.stop)).Perm
          (found.flatMap (lexemes source)) := by
      intro found
      induction found with
      | nil => exact .nil
      | cons f rest ih =>
        obtain ⟨node, span⟩ := f
        cases node with
        | skipped => exact ih
        | token t => exact ih.cons _
        | fault fault => exact (List.perm_append_comm_assoc _ _ _).trans (ih.append_left _)
    unfold tokens
    refine (List.mergeSort_perm _ _).trans ?_
    unfold tokenize swallowed
    rw [scan_eq]
    exact hperm _

def fragmentOf (t : Lexeme) : Spanned Fragment :=
  ⟨.token t.node, t.span⟩

theorem flatMap_lexemes_fragmentOf (source : String) (read : List Lexeme) :
    (read.map fragmentOf).flatMap (lexemes source) = read := by
  induction read with
  | nil => rfl
  | cons t rest ih => exact congrArg (t :: ·) ih

/-- A text without errors has its tokens for fragments. -/
theorem fragments_eq_of_errors {source : String} (h : (tokenize source).errors = []) :
    fragments 0 source.toList = (tokens source (tokenize source)).map fragmentOf := by
  have herrors : (fragments 0 source.toList).filterMap lexError? = [] := by
    rw [tokenize, scan_eq] at h
    exact h
  have hfound : ∀ found : List (Spanned Fragment), (∀ f ∈ found, f.node ≠ .skipped) →
      found.filterMap lexError? = [] →
        found = (found.flatMap (lexemes source)).map fragmentOf := by
    intro found hskipped hnone
    induction found with
    | nil => rfl
    | cons f rest ih =>
      obtain ⟨node, span⟩ := f
      cases node with
      | skipped => exact absurd rfl (hskipped _ (List.mem_cons_self ..))
      | token t =>
        exact congrArg (_ :: ·) (ih (fun g hg => hskipped g (List.mem_cons_of_mem _ hg)) hnone)
      | fault fault => cases hnone
  rw [tokens_eq]
  exact hfound _ (fun f hf => not_skipped_of_mem hf) herrors

/- Segments of tokens put together from parts. -/

/-- Parts that end in semicolons are cut one by one. -/
theorem segments_flatten_of_closed {parts : List (List Lexeme)}
    (h : ∀ part ∈ parts, ∀ segment ∈ segments part, Closed segment) :
    segments parts.flatten = parts.flatMap segments := by
  induction parts with
  | nil => rfl
  | cons part rest ih =>
    rw [List.flatten_cons, segments_append (h part (List.mem_cons_self ..)), List.flatMap_cons,
      ih fun other hmem => h other (List.mem_cons_of_mem _ hmem)]

/-- Tokens without a semicolon go to the first segment of what stands behind them. -/
theorem segments_plain_append {before tokens : List Lexeme} (hplain : Plain before)
    (hne : tokens ≠ []) :
    ∃ first rest, segments tokens = first :: rest ∧
      segments (before ++ tokens) = (before ++ first) :: rest := by
  obtain ⟨first, rest, hcut⟩ : ∃ first rest, segments tokens = first :: rest := by
    refine List.exists_cons_of_ne_nil fun hnil => hne ?_
    rw [← segments_flatten tokens, hnil, List.flatten_nil]
  refine ⟨first, rest, hcut, ?_⟩
  induction before with
  | nil => exact hcut
  | cons t more ih =>
    rw [List.cons_append, segments, if_neg (hplain t (List.mem_cons_self ..)),
      ih fun u hu => hplain u (List.mem_cons_of_mem _ hu)]
    rfl

/-- What overlaps the range from one value of a part to another lies in that part. -/
theorem mem_of_overlaps {α : Type} {parts : List (List (Spanned α))}
    (hordered : parts.flatten.Pairwise fun a b => a.span.stop ≤ b.span.start)
    {part : List (Spanned α)} (hpart : part ∈ parts) {x first last : Spanned α}
    (hx : x ∈ parts.flatten) (hfirst : first ∈ part) (hlast : last ∈ part)
    (hover : x.span.overlaps ⟨first.span.start, last.span.stop⟩ = true) : x ∈ part := by
  obtain ⟨hstop, hstart⟩ := Span.overlaps_iff.mp hover
  simp only at hstop hstart
  obtain ⟨before, after, rfl⟩ := List.append_of_mem hpart
  rw [List.flatten_append, List.flatten_cons] at hordered hx
  obtain ⟨-, hbehind, hbefore⟩ := List.pairwise_append.mp hordered
  rcases List.mem_append.mp hx with hx | hx
  · have := hbefore x hx first (List.mem_append_left _ hfirst)
    omega
  rcases List.mem_append.mp hx with hx | hx
  · exact hx
  · have := (List.pairwise_append.mp hbehind).2.2 last hlast x hx
    omega

/-- The region of a segment with its semicolon goes from its first token to the semicolon. -/
theorem exists_region {segment : List Lexeme} (h : Closed segment) (stop : Nat) :
    ∃ first ∈ segment, ∃ last ∈ segment, last.node = .mark .semicolon ∧
      region stop segment = ⟨first.span.start, last.span.stop⟩ := by
  obtain ⟨before, semicolon, rfl, hplain, hsemicolon⟩ := h
  refine ⟨before.head?.getD semicolon, ?_, semicolon, by simp, hsemicolon,
    region_closed hplain hsemicolon stop⟩
  cases before <;> simp

/-- A token of the source in the region of a segment is one of its tokens. -/
theorem mem_of_overlaps_region {source : String} {segment : List Lexeme}
    (hmem : segment ∈ segmentsOf source) (hclosed : Closed segment) {t : Lexeme}
    (ht : t ∈ (tokenize source).tokens) {stop : Nat}
    (hover : t.span.overlaps (region stop segment) = true) : t ∈ segment := by
  obtain ⟨first, hfirst, last, hlast, -, hregion⟩ := exists_region hclosed stop
  rw [hregion] at hover
  refine mem_of_overlaps (segmentsOf_ordered source).pairwise hmem ?_ hfirst hlast hover
  rw [segmentsOf_flatten]
  exact mem_tokens.mpr (.inl ht)

end Recovery
end GrammarText
