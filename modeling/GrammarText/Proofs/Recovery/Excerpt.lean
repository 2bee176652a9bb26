/-
The text of a declaration.  A declaration that is read of a source, clean or not, has a range that
starts with its first token and stops with its semicolon.  No lexical error is in that range, and no
token but its own.  So the text there is read alone as the same declaration, and the texts of all
declarations, put on lines of their own, are read as these declarations and nothing else.
-/
import GrammarText.Proofs.Lexer.Lines
import GrammarText.Proofs.Recovery.Append
import GrammarText.Proofs.Recovery.Fragments
import GrammarText.Proofs.Recovery.Single

namespace GrammarText

open GrammarText.Parser GrammarText.Recovery GrammarText.Declaration

/-- The text of a source in a range. -/
def Span.excerpt (span : Span) (source : String) : String :=
  String.ofList (Text.slice source.toList span.start span.stop)

namespace Recovery

variable {source : String} {segment : List Lexeme}

theorem segment_increasing (hmem : segment ∈ segmentsOf source) :
    segment.Pairwise fun a b => a.span.start < b.span.start := by
  refine (pairwise_of_mem hmem).imp_of_mem fun ha _ hab => ?_
  exact Nat.lt_of_lt_of_le ((tokens_ordered source).start_lt _ (mem_tokens_of_mem hmem ha)) hab

/-- Two lists in the order of their offsets are the same if they have the same members. -/
theorem eq_of_mem_iff {α : Type} {a b : List (Spanned α)}
    (ha : a.Pairwise fun x y => x.span.start < y.span.start)
    (hb : b.Pairwise fun x y => x.span.start < y.span.start) (h : ∀ x, x ∈ a ↔ x ∈ b) : a = b := by
  have hirrefl : Std.Irrefl fun x y : Spanned α => x.span.start < y.span.start :=
    ⟨fun x => Nat.lt_irrefl _⟩
  have hantisymm : Std.Antisymm fun x y : Spanned α => x.span.start < y.span.start :=
    ⟨fun x y hxy hyx => absurd hxy (Nat.lt_asymm hyx)⟩
  exact ha.eq_of_mem_iff hb h

/- A segment whose region overlaps no lexical error. -/

section

variable (hmem : segment ∈ segmentsOf source)
  (hclear : isSpoiled (tokenize source).errors
    (region (Text.byteLength source.toList) segment) = false)
include hmem hclear

/-- None of its semicolons is from inside an error. -/
theorem mem_tokenize_of_not_spoiled {t : Lexeme} (ht : t ∈ segment) :
    t ∈ (tokenize source).tokens := by
  rcases mem_tokens.mp (mem_tokens_of_mem hmem ht) with htoken | ⟨e, he, hwithin⟩
  · exact htoken
  · have hplace := region_of_mem hmem ht
    have hspan := hwithin.span
    have hover : e.span.overlaps (region (Text.byteLength source.toList) segment) = true :=
      Span.overlaps_iff.mpr (by omega)
    exact absurd (List.any_eq_true.mpr ⟨e, he, hover⟩) (Bool.eq_false_iff.mp hclear)

/-- A fragment that its region overlaps is one of its tokens. -/
theorem exists_mem_of_not_spoiled (hclosed : Closed segment) {f : Spanned Fragment}
    (hf : f ∈ Lexed.fragments 0 source.toList)
    (hover : f.span.overlaps (region (Text.byteLength source.toList) segment) = true) :
    f ∈ segment.map fragmentOf := by
  obtain ⟨node, span⟩ := f
  cases node with
  | skipped => exact absurd rfl (Lexed.not_skipped_of_mem hf)
  | fault fault =>
    have he : ⟨fault, span⟩ ∈ (tokenize source).errors := Lexed.mem_errors_iff.mpr hf
    exact absurd (List.any_eq_true.mpr ⟨_, he, hover⟩) (Bool.eq_false_iff.mp hclear)
  | token t =>
    have ht : ⟨t, span⟩ ∈ (tokenize source).tokens := Lexed.mem_tokens_iff.mpr hf
    exact List.mem_map.mpr ⟨_, mem_of_overlaps_region hmem hclosed ht hover, rfl⟩

/-- The fragments in its region are its tokens. -/
theorem mem_segment_iff (hclosed : Closed segment) {f : Spanned Fragment} :
    f ∈ segment.map fragmentOf ↔ f ∈ Lexed.fragments 0 source.toList ∧
      (region (Text.byteLength source.toList) segment).start ≤ f.span.start ∧
      f.span.stop ≤ (region (Text.byteLength source.toList) segment).stop := by
  constructor
  · intro hf
    obtain ⟨t, ht, rfl⟩ := List.mem_map.mp hf
    exact ⟨Lexed.mem_tokens_iff.mp (mem_tokenize_of_not_spoiled hmem hclear ht),
      region_of_mem hmem ht⟩
  · intro ⟨hf, hstart, hstop⟩
    have hpos := (Lexed.span_of_mem hf).2.1
    exact exists_mem_of_not_spoiled hmem hclear hclosed hf (Span.overlaps_iff.mpr (by omega))

/-- Its region is a stretch of the source, and the fragments of the text there are its tokens. -/
theorem exists_excerpt (hclosed : Closed segment) :
    ∃ cut : Cut source.toList (region (Text.byteLength source.toList) segment),
      Lexed.fragments (Text.byteLength cut.before) cut.inside = segment.map fragmentOf := by
  have hmembers := fun f => mem_segment_iff (f := f) hmem hclear hclosed
  obtain ⟨first, hfirst, last, hlast, hnode, hregion⟩ :=
    exists_region hclosed (Text.byteLength source.toList)
  rw [hregion] at hmembers ⊢
  obtain ⟨hfirst, -, -⟩ := (hmembers _).mp (List.mem_map_of_mem hfirst)
  obtain ⟨hlast, hle, -⟩ := (hmembers _).mp (List.mem_map_of_mem hlast)
  obtain ⟨firstCut, -⟩ := Lexed.exists_cut_of_mem hfirst
  obtain ⟨lastCut, -⟩ := Lexed.exists_cut_of_mem hlast
  have hpos := (Lexed.span_of_mem hlast).2.1
  obtain ⟨⟨before, inside, after, htext, hstart, hstop⟩⟩ :=
    firstCut.nonempty_between lastCut (Nat.le_trans hle (Nat.le_of_lt hpos))
  refine ⟨⟨before, inside, after, htext, hstart, hstop⟩, ?_⟩
  change Text.byteLength before = first.span.start at hstart
  change Text.byteLength (before ++ inside) = last.span.stop at hstop
  rw [← htext] at hfirst hlast hmembers
  rw [fragmentOf, hnode] at hlast
  simp only [← hstart, ← hstop] at hmembers
  refine eq_of_mem_iff (Lexed.fragments_increasing _ _)
    (List.pairwise_map.mpr (segment_increasing hmem)) fun f => ?_
  rw [hmembers]
  exact Lexed.mem_fragments_excerpt hfirst hstart.symm hlast (hstart.le.trans hle) hstop.symm

end

/-- A text whose fragments are the tokens of a segment, further on, is lexed as the segment. -/
theorem tokenize_of_fragments {text : List Char} {distance : Nat}
    (h : Lexed.fragments distance text = segment.map fragmentOf) :
    (tokenize (String.ofList text)).errors = [] ∧
      (tokenize (String.ofList text)).tokens.map (·.shift distance) = segment := by
  have hsegment : (segment.map fragmentOf).filterMap Lexed.lexeme? = segment ∧
      (segment.map fragmentOf).filterMap Lexed.lexError? = [] := by
    rw [List.filterMap_map, List.filterMap_map]
    exact ⟨List.filterMap_some, List.filterMap_eq_nil_iff.mpr fun _ _ => rfl⟩
  have htokens := Lexed.filterMap_lexeme?_shift distance (Lexed.fragments 0 text)
  have herrors := Lexed.filterMap_lexError?_shift distance (Lexed.fragments 0 text)
  rw [← Lexed.fragments_shift, Nat.zero_add, h] at htokens herrors
  rw [hsegment.1] at htokens
  rw [hsegment.2] at herrors
  unfold tokenize
  rw [Lexed.scan_eq, String.toList_ofList]
  exact ⟨List.map_eq_nil_iff.mp herrors.symm, htokens.symm⟩

/-- A segment that is a declaration has its semicolon, and its region is the range. -/
theorem closed_of_parsed? (hmem : segment ∈ segmentsOf source) {stop : Nat}
    {d : Spanned Declaration} (h : parsed? stop segment = some d) :
    Closed segment ∧ d.span = region stop segment := by
  have hrun := parsed?_eq_some.mp h
  rcases closed_or_plain hmem with hclosed | ⟨hplain, -⟩
  · exact ⟨hclosed, span_of_run hclosed hrun⟩
  · exact absurd hrun (not_run_plain hplain stop d)

end Recovery

namespace ParsedSource

variable {source : String} {d : Spanned Declaration}

theorem exists_segment_of_mem (h : d ∈ (parseSource source).declarations) :
    ∃ segment ∈ segmentsOf source, Closed segment ∧
      parsed? (Text.byteLength source.toList) segment = some d ∧
      d.span = region (Text.byteLength source.toList) segment ∧
      isSpoiled (tokenize source).errors d.span = false := by
  rw [declarations_eq] at h
  obtain ⟨hread, hclear⟩ := List.mem_filter.mp h
  obtain ⟨segment, hmem, hparsed⟩ := List.mem_filterMap.mp hread
  obtain ⟨hclosed, hspan⟩ := closed_of_parsed? hmem hparsed
  exact ⟨segment, hmem, hclosed, hparsed, hspan, by simpa using hclear⟩

/-- Every declaration stops before the next one starts. -/
theorem declarations_pairwise (source : String) :
    (parseSource source).declarations.Pairwise fun a b => a.span.stop ≤ b.span.start := by
  rw [declarations_eq]
  refine (List.pairwise_filterMap.mpr ?_).filter _
  refine (segmentsOf_pairwise source).imp_of_mem fun ha hb hab d hd d' hd' => ?_
  obtain ⟨hclosed, hspan⟩ := closed_of_parsed? ha hd
  obtain ⟨hclosed', hspan'⟩ := closed_of_parsed? hb hd'
  obtain ⟨_, -, last, hlast, -, hregion⟩ :=
    exists_region hclosed (Text.byteLength source.toList)
  obtain ⟨first, hfirst, _, -, -, hregion'⟩ :=
    exists_region hclosed' (Text.byteLength source.toList)
  rw [hspan, hspan', hregion, hregion']
  exact hab last hlast first hfirst

/-- The range of a declaration is a stretch of the source that is not empty, and the text there is
that declaration and nothing else. -/
theorem parseDeclaration_excerpt (h : d ∈ (parseSource source).declarations) :
    d.span.start < d.span.stop ∧ Nonempty (Cut source.toList d.span) ∧
      parseDeclaration (d.span.excerpt source) =
        .ok ⟨d.node, ⟨0, Text.byteLength (d.span.excerpt source).toList⟩⟩ := by
  obtain ⟨segment, hmem, hclosed, hparsed, hspan, hclear⟩ := exists_segment_of_mem h
  have hexists := exists_excerpt hmem (hspan ▸ hclear) hclosed
  rw [← hspan] at hexists
  obtain ⟨cut, hfragments⟩ := hexists
  have hexcerpt : d.span.excerpt source = String.ofList cut.inside := by
    rw [Span.excerpt, cut.slice_eq]
  refine ⟨?_, ⟨cut⟩, ?_⟩
  · obtain ⟨first, hfirst, _⟩ := exists_region hclosed (Text.byteLength source.toList)
    have hpos := (tokens_ordered source).start_lt first (mem_tokens_of_mem hmem hfirst)
    have hplace := region_of_mem hmem hfirst
    rw [hspan]
    omega
  obtain ⟨before, inside, after, htext, hstart, hstop⟩ := cut
  simp only at hfragments hexcerpt
  rw [Text.byteLength_append] at hstop
  obtain ⟨herrors, htokens⟩ := tokenize_of_fragments hfragments
  have hnodes : nodes (tokenize (String.ofList inside)).tokens = nodes segment := by
    rw [← htokens, nodes, nodes, List.map_map]
    rfl
  -- What is read of the segment is what is read of the excerpt, further on.
  have hread := parsed?_shift (Text.byteLength inside) (Text.byteLength before)
    (tokenize (String.ofList inside)).tokens
  rw [htokens, parsed?, run_stop hclosed _ (Text.byteLength source.toList), ← parsed?, hparsed]
    at hread
  obtain ⟨alone, halone, rfl⟩ := Option.map_eq_some_iff.mp hread.symm
  have hspan' : alone.span = ⟨0, Text.byteLength inside⟩ := by
    obtain ⟨node, ⟨start, stop⟩⟩ := alone
    simp only [Spanned.shift, Span.shift] at hstart hstop
    rw [Span.mk.injEq]
    omega
  rw [hexcerpt, String.toList_ofList, parseDeclaration_eq_ok, String.toList_ofList, ← hspan']
  exact ⟨herrors, succeeds_of_run (closed_of_nodes_eq hnodes hclosed) (parsed?_eq_some.mp halone)⟩

/-- Texts each of which is one declaration, on lines of their own, are these declarations. -/
theorem parseSource_intercalate {texts : List String} {declarations : List (Spanned Declaration)}
    (h : List.Forall₂ (fun text d => parseDeclaration text = .ok d) texts declarations) :
    (parseSource (String.intercalate "\n" texts)).isClean ∧
      (parseSource (String.intercalate "\n" texts)).declarations.map Spanned.node =
        declarations.map Spanned.node := by
  have hparts : ∀ text d, parseDeclaration text = .ok d →
      Grammar.Declares (nodes (tokenize text).tokens) d.node [] ∧
        Lexed.reading text.toList = (nodes (tokenize text).tokens).map Fragment.token := by
    intro text d hd
    obtain ⟨herrors, hsucceeds⟩ := parseDeclaration_eq_ok.mp hd
    exact ⟨(Grammar.succeeds_declaration.mp hsucceeds).2.1,
      (Lexed.tokenize_eq_iff _ _).mp ⟨herrors, rfl⟩⟩
  have hderived : List.Forall₂ (fun part d => Grammar.Declares part d [])
      (texts.map fun text => nodes (tokenize text).tokens) (declarations.map Spanned.node) :=
    List.forall₂_map_left_iff.mpr (List.forall₂_map_right_iff.mpr
      (h.imp fun text d hd => (hparts text d hd).1))
  refine parseSource_of_declares hderived ?_
  rw [Lexed.reading_intercalate]
  clear hderived
  induction h with
  | nil => rfl
  | cons hd _ ih =>
    rw [List.flatMap_cons, ih, (hparts _ _ hd).2, List.map_cons, List.flatten_cons, List.map_append]

/-- The ranges of declarations are exact, whatever else is in the source.  They are stretches of it
that are not empty, one behind the other.  The text in each of them is that declaration and nothing
else, and all these texts, on lines of their own, are these declarations and nothing else. -/
theorem declarations_excerpt (source : String) :
    (∀ d ∈ (parseSource source).declarations, d.span.start < d.span.stop ∧
      Nonempty (Cut source.toList d.span) ∧
      parseDeclaration (d.span.excerpt source) =
        .ok ⟨d.node, ⟨0, Text.byteLength (d.span.excerpt source).toList⟩⟩) ∧
    (parseSource source).declarations.Pairwise (fun a b =>
      a.span.stop ≤ b.span.start ∧ a.span.start < b.span.start) ∧
    (parseSource (String.intercalate "\n"
      ((parseSource source).declarations.map fun d => d.span.excerpt source))).isClean ∧
    (parseSource (String.intercalate "\n"
      ((parseSource source).declarations.map fun d =>
        d.span.excerpt source))).declarations.map Spanned.node =
      (parseSource source).declarations.map Spanned.node := by
  have halone : ∀ d ∈ (parseSource source).declarations, _ := fun _ => parseDeclaration_excerpt
  refine ⟨halone, (declarations_pairwise source).imp_of_mem fun ha _ hab => ?_, ?_⟩
  · have hpos := (halone _ ha).1
    exact ⟨hab, by omega⟩
  · have hjoined := parseSource_intercalate (List.forall₂_map_left_iff.mpr
      (List.forall₂_map_right_iff.mpr (List.forall₂_same.mpr fun d hd => (halone d hd).2.2)))
    rwa [List.map_map] at hjoined

/-- A declaration behind one that a lexical error spoils. -/
theorem declarations_excerpt_spoiled :
    (tokenize "A : 'x' ; B : ! 'y' ; C : '\u00e9' ;").errors =
        [⟨.unexpectedCharacter, ⟨14, 15⟩⟩] ∧
      ∃ d ∈ (parseSource "A : 'x' ; B : ! 'y' ; C : '\u00e9' ;").declarations,
        d.span = ⟨22, 32⟩ ∧ parseDeclaration "C : '\u00e9' ;" = .ok ⟨d.node, ⟨0, 10⟩⟩ := by
  have hlast : ((parseSource "A : 'x' ; B : ! 'y' ; C : '\u00e9' ;").declarations.any
      fun d => d.span = ⟨22, 32⟩) = true := by
    rw [declarations_eq, segmentsOf, tokens_of_swallowed_nil (by decide +kernel)]
    decide +kernel
  obtain ⟨d, hmem, hspan⟩ := List.any_eq_true.mp hlast
  have hspan := of_decide_eq_true hspan
  have hexcerpt : Span.excerpt ⟨22, 32⟩ "A : 'x' ; B : ! 'y' ; C : '\u00e9' ;" =
      "C : '\u00e9' ;" := by decide +kernel
  have halone := ((declarations_excerpt _).1 d hmem).2.2
  rw [hspan, hexcerpt] at halone
  exact ⟨by decide +kernel, d, hmem, hspan, halone⟩

end ParsedSource
end GrammarText
