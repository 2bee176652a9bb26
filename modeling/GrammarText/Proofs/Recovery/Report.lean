/-
What recovery makes of a whole source.  A declaration comes from a segment that is one, and a
diagnostic from a lexical error or from a segment that is no declaration.  No two diagnostics start
at one offset, so a report leaves none of them out.
-/
import GrammarText.Proofs.Grammar.Recognition
import GrammarText.Proofs.Recovery.Segments

namespace GrammarText

namespace Diagnostic

theorem firstOfEach_of_pairwise {items : List Diagnostic}
    (h : items.Pairwise fun a b => a.span.start < b.span.start) : firstOfEach items = items := by
  induction items with
  | nil => rfl
  | cons d rest ih =>
    obtain ⟨hfirst, hrest⟩ := List.pairwise_cons.mp h
    rw [firstOfEach, ih hrest]
    cases rest with
    | nil => rfl
    | cons next later =>
      have := hfirst next (List.mem_cons_self ..)
      exact if_neg (by simp only [beq_iff_eq]; omega)

theorem ofParseError_span (e : ParseError) : (ofParseError e).span = e.span := by
  unfold ofParseError
  cases e.fault <;> rfl

end Diagnostic

/-- Diagnostics that start at different offsets are all reported, in the order of the offsets. -/
theorem Report.ofList_of_pairwise {items : List Diagnostic}
    (h : items.Pairwise fun a b => a.span.start ≠ b.span.start) :
    (ofList items).items.Perm items ∧
      (ofList items).items.Pairwise fun a b => a.span.start < b.span.start := by
  have hsorted : (items.mergeSort Diagnostic.startsBefore).Pairwise
      fun a b => a.span.start < b.span.start :=
    pairwise_mergeSort_of_symmetric (fun a b hab => hab.symm) h fun a _ b _ hne hle => by omega
  unfold ofList
  simp only
  rw [Diagnostic.firstOfEach_of_pairwise hsorted]
  exact ⟨List.mergeSort_perm _ _, hsorted⟩

/-- Diagnostics in the order of their offsets are reported as they are. -/
theorem Report.ofList_of_increasing {items : List Diagnostic}
    (h : items.Pairwise fun a b => a.span.start < b.span.start) : ofList items = ⟨items⟩ := by
  have hsorted : items.mergeSort Diagnostic.startsBefore = items :=
    List.mergeSort_of_pairwise (h.imp fun hab => decide_eq_true (Nat.le_of_lt hab))
  rw [ofList, hsorted, Diagnostic.firstOfEach_of_pairwise h]

namespace Recovery

open GrammarText.Parser GrammarText.Declaration

/-- The declaration that a segment is, if it is one. -/
def parsed? (stop : Nat) (segment : List Lexeme) : Option (Spanned Declaration) :=
  (run Declaration.parser stop segment).toOption

/-- The diagnostic of a segment that is no declaration and whose region overlaps none of the lexical
errors. -/
def failure? (errors : List LexError) (stop : Nat) (segment : List Lexeme) : Option Diagnostic :=
  match run Declaration.parser stop segment with
  | .ok _ => none
  | .error e =>
      if isSpoiled errors (region stop segment) then none else some (.ofParseError e)

theorem filterMap_outcomes {β : Type} {f : Step → Option β} {g : List Lexeme → Option β}
    {stop : Nat} (h : ∀ index segment, f (outcome stop index segment) = g segment)
    (index : Nat) (cut : List (List Lexeme)) :
    (outcomes stop index cut).filterMap f = cut.filterMap g := by
  induction cut generalizing index with
  | nil => rfl
  | cons segment more ih =>
    rw [outcomes, List.filterMap_cons, List.filterMap_cons, h, ih]

theorem trace_read (source : String) :
    (trace source).read = (segmentsOf source).filterMap
      (parsed? (Text.byteLength source.toList)) := by
  unfold Trace.read
  rw [trace_steps]
  refine filterMap_outcomes (fun index segment => ?_) 0 _
  unfold outcome parsed?
  cases run Declaration.parser (Text.byteLength source.toList) segment <;> rfl

theorem trace_failures (source : String) :
    (((trace source).skipped.filter fun s =>
        !isSpoiled (tokenize source).errors s.1).map fun s => Diagnostic.ofParseError s.2) =
      (segmentsOf source).filterMap
        (failure? (tokenize source).errors (Text.byteLength source.toList)) := by
  unfold Trace.skipped
  rw [trace_steps, ← List.filterMap_eq_map, ← List.filterMap_eq_filter, List.filterMap_filterMap,
    List.filterMap_filterMap]
  refine filterMap_outcomes (fun index segment => ?_) 0 _
  unfold outcome failure?
  cases run Declaration.parser (Text.byteLength source.toList) segment with
  | ok d => rfl
  | error e =>
    simp only
    by_cases h : isSpoiled (tokenize source).errors
        (region (Text.byteLength source.toList) segment) = true <;> simp [h]

/-- A diagnostic of a segment is at one of its tokens, or at the end of the source if the segment
has no semicolon. -/
theorem failure_start {errors : List LexError} {stop : Nat} {segment : List Lexeme}
    {d : Diagnostic} (h : failure? errors stop segment = some d) :
    isSpoiled errors (region stop segment) = false ∧
      ((∃ t ∈ segment, t.span.start = d.span.start) ∨
        (¬ Closed segment ∧ d.span.start = stop)) := by
  unfold failure? at h
  split at h
  · cases h
  · rename_i e hrun
    split at h
    · cases h
    · rename_i hspoiled
      cases h
      rw [Diagnostic.ofParseError_span]
      exact ⟨Bool.eq_false_iff.mpr hspoiled, error_start hrun⟩

/-- Every token of a segment lies inside its region. -/
theorem region_of_mem {source : String} {segment : List Lexeme} (hmem : segment ∈ segmentsOf source)
    {t : Lexeme} (ht : t ∈ segment) :
    (region (Text.byteLength source.toList) segment).start ≤ t.span.start ∧
      t.span.stop ≤ (region (Text.byteLength source.toList) segment).stop := by
  have hordered := tokens_ordered source
  have hpairwise := pairwise_of_mem hmem
  constructor
  · cases segment with
    | nil => cases ht
    | cons first rest =>
      show first.span.start ≤ t.span.start
      rcases List.mem_cons.mp ht with rfl | ht
      · exact Nat.le_refl _
      · have := (List.pairwise_cons.mp hpairwise).1 t ht
        have := hordered.start_lt first (mem_tokens_of_mem hmem (List.mem_cons_self ..))
        omega
  · rcases closed_or_plain hmem with ⟨before, semicolon, rfl, hplain, hsemicolon⟩ | ⟨hplain, -⟩
    · rw [region_closed hplain hsemicolon]
      show t.span.stop ≤ semicolon.span.stop
      rcases List.mem_append.mp ht with hin | hin
      · have := (List.pairwise_append.mp hpairwise).2.2 t hin semicolon (List.mem_cons_self ..)
        have := hordered.start_lt semicolon (mem_tokens_of_mem hmem (by simp))
        omega
      · rw [List.mem_singleton.mp hin]
    · unfold region
      rw [cut?_plain hplain]
      exact hordered.stop_le t (mem_tokens_of_mem hmem ht)

/-- A lexical error and a reported failure of a segment are at different offsets. -/
theorem error_ne_failure {source : String} {segment : List Lexeme} {e : LexError} {d : Diagnostic}
    (he : e ∈ (tokenize source).errors) (hmem : segment ∈ segmentsOf source)
    (h : failure? (tokenize source).errors (Text.byteLength source.toList) segment = some d) :
    e.span.start ≠ d.span.start := by
  intro heq
  have hspan := Lexed.span_of_mem_errors he
  obtain ⟨hclear, hplace⟩ := failure_start h
  rcases hplace with ⟨t, ht, hstart⟩ | ⟨-, hstart⟩
  · have hregion := region_of_mem hmem ht
    have hpos := (tokens_ordered source).start_lt t (mem_tokens_of_mem hmem ht)
    -- Both start at one offset, so the error overlaps the region, and nothing is reported there.
    have hspoiled : isSpoiled (tokenize source).errors
        (region (Text.byteLength source.toList) segment) = true := by
      refine List.any_eq_true.mpr ⟨e, he, Span.overlaps_iff.mpr ?_⟩
      omega
    rw [hspoiled] at hclear
    cases hclear
  · omega

/-- The failure of a segment is before those of all later ones. -/
theorem failures_increasing (source : String) :
    ((segmentsOf source).filterMap
      (failure? (tokenize source).errors (Text.byteLength source.toList))).Pairwise
        fun a b => a.span.start < b.span.start := by
  have hordered := tokens_ordered source
  have hsegments := (segmentsOf_pairwise source).and
    (segments_pairwise_closed (tokens source (tokenize source)))
  refine List.pairwise_filterMap.mpr (hsegments.imp_of_mem ?_)
  intro a b ha hb ⟨hbefore, hclosed⟩ d hd d' hd'
  rcases (failure_start hd).2 with ⟨t, ht, hstart⟩ | ⟨hopen, -⟩
  · have hpos := hordered.start_lt t (mem_tokens_of_mem ha ht)
    rcases (failure_start hd').2 with ⟨u, hu, hstart'⟩ | ⟨-, hstart'⟩
    · have := hbefore t ht u hu
      omega
    · have := hordered.stop_le t (mem_tokens_of_mem ha ht)
      omega
  · exact absurd hclosed hopen

/-- Lexemes that derive a declaration and end with it are closed by its semicolon. -/
theorem closed_of_declares {segment : List Lexeme} {d : Declaration}
    (h : Grammar.Declares (nodes segment) d []) : Closed segment := by
  obtain ⟨read, hread, hclosed⟩ := Declaration.parser_takes (h.succeeds 0)
  rw [List.append_nil] at hread
  rwa [hread]

theorem parsed?_of_declares {stop : Nat} {segment : List Lexeme} {d : Declaration}
    (h : Grammar.Declares (nodes segment) d []) :
    parsed? stop segment = some ⟨d, spanBetween stop segment []⟩ := by
  unfold parsed?
  rw [run_eq_ok.mpr ⟨[], h.succeeds stop⟩]
  rfl

theorem parsed?_eq_some {stop : Nat} {segment : List Lexeme} {d : Spanned Declaration} :
    parsed? stop segment = some d ↔ run Declaration.parser stop segment = .ok d := by
  unfold parsed?
  cases run Declaration.parser stop segment <;> simp [Except.toOption]

/-- A segment is a declaration if its tokens derive one. -/
theorem parsed?_isSome_iff {tokens segment : List Lexeme} (hmem : segment ∈ segments tokens)
    (stop : Nat) :
    (parsed? stop segment).isSome ↔ ∃ d, Grammar.Declares (nodes segment) d [] := by
  constructor
  · intro h
    obtain ⟨d, hd⟩ := Option.isSome_iff_exists.mp h
    have hrun := parsed?_eq_some.mp hd
    rcases closed_or_plain hmem with hclosed | ⟨hplain, -⟩
    · exact ⟨d.node, (Grammar.succeeds_declaration.mp (succeeds_of_run hclosed hrun)).2.1⟩
    · exact absurd hrun (not_run_plain hplain stop d)
  · intro ⟨d, hd⟩
    rw [parsed?_of_declares hd]
    rfl

end Recovery

/-- The diagnostics of the lexical errors are in the order of their offsets. -/
theorem Lexed.diagnostics_increasing (source : String) :
    ((tokenize source).errors.map Diagnostic.ofLexError).Pairwise
      fun a b => a.span.start < b.span.start := by
  refine List.pairwise_map.mpr ((errors_pairwise source).imp_of_mem ?_)
  intro a b ha _ h
  have hspan := span_of_mem_errors ha
  show a.span.start < b.span.start
  omega

namespace ParsedSource

open GrammarText.Parser GrammarText.Declaration GrammarText.Recovery

theorem declarations_eq (source : String) :
    (parseSource source).declarations =
      ((segmentsOf source).filterMap
        (parsed? (Text.byteLength source.toList))).filter
          fun d => !isSpoiled (tokenize source).errors d.span := by
  unfold parseSource ofTrace
  rw [trace_read]
  rfl

theorem report_items (source : String) :
    (parseSource source).report.items.Perm
        ((tokenize source).errors.map Diagnostic.ofLexError ++
          (segmentsOf source).filterMap
            (failure? (tokenize source).errors (Text.byteLength source.toList))) ∧
      (parseSource source).report.items.Pairwise fun a b => a.span.start < b.span.start := by
  have hreport : (parseSource source).report = .ofList
      ((tokenize source).errors.map Diagnostic.ofLexError ++
        (segmentsOf source).filterMap
          (failure? (tokenize source).errors (Text.byteLength source.toList))) := by
    unfold parseSource ofTrace
    rw [← trace_failures]
    rfl
  rw [hreport]
  refine Report.ofList_of_pairwise (List.pairwise_append.mpr
    ⟨(Lexed.diagnostics_increasing source).imp Nat.ne_of_lt,
      (failures_increasing source).imp Nat.ne_of_lt, fun d hd d' hd' => ?_⟩)
  obtain ⟨e, he, rfl⟩ := List.mem_map.mp hd
  obtain ⟨segment, hmem, hfailure⟩ := List.mem_filterMap.mp hd'
  exact error_ne_failure he hmem hfailure

theorem failure_kind {errors : List LexError} {stop : Nat} {segment : List Lexeme} {d : Diagnostic}
    (h : failure? errors stop segment = some d) : ¬ decide (d.kind = .lexical) = true := by
  unfold failure? at h
  split at h
  · cases h
  · rename_i e _
    split at h
    · cases h
    · cases h
      unfold Diagnostic.ofParseError
      cases e.fault <;> simp

/-- The lexical diagnostics of a report are the lexical errors. -/
theorem lexical_items (source : String) :
    ((parseSource source).report.items.filter fun d => d.kind = .lexical) =
      (tokenize source).errors.map Diagnostic.ofLexError := by
  obtain ⟨hperm, hsorted⟩ := report_items source
  refine List.Perm.eq_of_pairwise (fun d d' _ _ h h' => by omega) (hsorted.filter _)
    (Lexed.diagnostics_increasing source) ?_
  refine (hperm.filter _).trans ?_
  have herrors : ((tokenize source).errors.map Diagnostic.ofLexError).filter
      (fun d => d.kind = .lexical) = (tokenize source).errors.map Diagnostic.ofLexError :=
    List.filter_eq_self.mpr fun d hd => by
      obtain ⟨e, -, rfl⟩ := List.mem_map.mp hd
      rfl
  have hfailures : ((segmentsOf source).filterMap (failure? (tokenize source).errors
      (Text.byteLength source.toList))).filter (fun d => d.kind = .lexical) = [] :=
    List.filter_eq_nil_iff.mpr fun d hd => by
      obtain ⟨segment, -, hfailure⟩ := List.mem_filterMap.mp hd
      exact failure_kind hfailure
  rw [List.filter_append, herrors, hfailures, List.append_nil]

theorem isClean_iff (source : String) :
    (parseSource source).isClean ↔ (tokenize source).errors = [] ∧
      ∀ segment ∈ segmentsOf source,
        ∃ d, Grammar.Declares (nodes segment) d [] := by
  have hclean : (parseSource source).isClean ↔ (parseSource source).report.items = [] :=
    List.isEmpty_iff
  rw [hclean, ← List.perm_nil, (report_items source).1.congr_left, List.perm_nil,
    List.append_eq_nil_iff, List.map_eq_nil_iff, List.filterMap_eq_nil_iff]
  refine and_congr_right fun herrors => forall_congr' fun segment => forall_congr' fun hmem => ?_
  rw [← parsed?_isSome_iff hmem (Text.byteLength source.toList), herrors]
  unfold parsed? failure?
  cases run Declaration.parser (Text.byteLength source.toList) segment <;>
    simp [Except.toOption, isSpoiled]

/-- Recovery loses no failure and invents none.  It parses every segment of the tokens once, and
what becomes of a segment with a semicolon depends on that segment alone.  The declarations are
those of the segments that parse, and the diagnostics one for each lexical error and one for each
segment that fails, except where a lexical error overlaps.  They are in the order of their offsets,
of which no two are the same.  So a source is clean if it has no lexical error and every segment
derives a declaration. -/
theorem parseSource_reports_every_failure (source : String) :
    (Ordered (Text.byteLength source.toList) (segmentsOf source).flatten ∧
      ∀ t, t ∈ (segmentsOf source).flatten ↔ t ∈ (tokenize source).tokens ∨
        ∃ e ∈ (tokenize source).errors, SemicolonWithin source.toList e.span t) ∧
    ((∀ segment ∈ segmentsOf source, Closed segment ∨ (Plain segment ∧ segment ≠ [])) ∧
      (segmentsOf source).Pairwise fun segment _ => Closed segment) ∧
    (trace source).steps = outcomes (Text.byteLength source.toList) 0 (segmentsOf source) ∧
    (∀ segment ∈ segmentsOf source, Closed segment → ∀ stop stop' later,
      run Declaration.parser stop (segment ++ later) = run Declaration.parser stop' segment) ∧
    (parseSource source).declarations =
      ((segmentsOf source).filterMap (parsed? (Text.byteLength source.toList))).filter
        (fun d => !isSpoiled (tokenize source).errors d.span) ∧
    ((parseSource source).report.items.Perm
        ((tokenize source).errors.map Diagnostic.ofLexError ++
          (segmentsOf source).filterMap
            (failure? (tokenize source).errors (Text.byteLength source.toList))) ∧
      (parseSource source).report.items.Pairwise fun a b => a.span.start < b.span.start) ∧
    ((parseSource source).isClean ↔ (tokenize source).errors = [] ∧
      ∀ segment ∈ segmentsOf source, ∃ d, Grammar.Declares (nodes segment) d []) := by
  refine ⟨⟨?_, fun t => ?_⟩, ⟨fun segment h => closed_or_plain h, segments_pairwise_closed _⟩,
    trace_steps source,
    fun segment _ hclosed stop stop' later => run_closed hclosed stop stop' later,
    declarations_eq source, report_items source, isClean_iff source⟩
  · rw [segmentsOf_flatten]
    exact tokens_ordered source
  · rw [segmentsOf_flatten]
    exact mem_tokens

end ParsedSource
end GrammarText
