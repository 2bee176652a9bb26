/-
Recovery is local.  A source that ends in a semicolon is read as it would be read alone, whatever is
put behind it, and what is put behind is read as it would be read alone, further on.
-/
import GrammarText.Proofs.Lexer.Excerpt
import GrammarText.Proofs.Parser.Shift
import GrammarText.Proofs.Recovery.Report

namespace GrammarText

open GrammarText.Parser GrammarText.Recovery GrammarText.Declaration

/-- The same diagnostic, further on. -/
def Diagnostic.shift (d : Diagnostic) (distance : Nat) : Diagnostic :=
  { d with span := d.span.shift distance }

theorem Diagnostic.ofParseError_shift (e : ParseError) (distance : Nat) :
    ofParseError (e.shift distance) = (ofParseError e).shift distance := by
  obtain ⟨fault, span, expected, found, label⟩ := e
  cases fault <;> rfl

namespace Lexed

/-- A lexical error takes the bytes of a part of the text. -/
theorem exists_parts_of_mem_errors {source : String} {e : LexError}
    (h : e ∈ (tokenize source).errors) : ∃ before inside after,
      source.toList = before ++ inside ++ after ∧
        e.span = ⟨Text.byteLength before, Text.byteLength before + Text.byteLength inside⟩ := by
  obtain ⟨before, inside, after, htext, -, hstart, hstop⟩ :=
    exists_parts_of_mem (mem_errors_iff.mp h)
  obtain ⟨fault, ⟨start, stop⟩⟩ := e
  simp only [Nat.zero_add] at hstart hstop
  exact ⟨before, inside, after, htext, by rw [hstop, hstart]⟩

end Lexed

namespace Recovery

theorem semicolons_shift (distance offset : Nat) (text : List Char) :
    semicolons (offset + distance) text = (semicolons offset text).map (·.shift distance) := by
  induction text generalizing offset with
  | nil => rfl
  | cons c rest ih =>
    have hlater := ih (offset + c.utf8Size)
    rw [Nat.add_right_comm] at hlater
    unfold semicolons
    simp only
    rw [hlater]
    split
    · rw [List.map_cons, Nat.add_right_comm offset distance]
      rfl
    · rfl

/-- The semicolons inside lexical errors are taken from the part that an error lies in. -/
theorem swallowed_append (a b : String) :
    swallowed (a ++ b) ((tokenize a).errors ++
        (tokenize b).errors.map (·.shift (Text.byteLength a.toList))) =
      swallowed a (tokenize a).errors ++
        (swallowed b (tokenize b).errors).map (·.shift (Text.byteLength a.toList)) := by
  unfold swallowed
  rw [List.flatMap_append, List.flatMap_map, List.map_flatMap, String.toList_append]
  congr 1
  · refine List.flatMap_congr fun e he => ?_
    obtain ⟨before, inside, after, htext, hspan⟩ := Lexed.exists_parts_of_mem_errors he
    rw [htext, hspan, List.append_assoc _ after, Text.slice_append, Text.slice_append]
  · refine List.flatMap_congr fun e he => ?_
    obtain ⟨before, inside, after, htext, hspan⟩ := Lexed.exists_parts_of_mem_errors he
    have hshifted : (e.shift (Text.byteLength a.toList)).span =
        ⟨Text.byteLength (a.toList ++ before),
          Text.byteLength (a.toList ++ before) + Text.byteLength inside⟩ := by
      unfold LexError.shift Span.shift
      rw [hspan, Text.byteLength_append, Span.mk.injEq]
      simp only
      omega
    have hstart : Text.byteLength (a.toList ++ before) =
        Text.byteLength before + Text.byteLength a.toList := by
      rw [Text.byteLength_append, Nat.add_comm]
    rw [hshifted, hspan, htext, Text.slice_append, ← List.append_assoc, ← List.append_assoc,
      Text.slice_append, hstart, semicolons_shift]

/-- Two lists of tokens in order are the same if one is a permutation of the other. -/
theorem Ordered.eq_of_perm {stop : Nat} {a b : List Lexeme} (ha : Ordered stop a)
    (hb : b.Pairwise fun t u => t.span.stop ≤ u.span.start) (hperm : a.Perm b) : a = b := by
  refine List.Perm.eq_of_pairwise (fun t u ht hu htu hut => ?_) ha.pairwise hb hperm
  have hpos := ha.start_lt t ht
  have hpos' := ha.start_lt u (hperm.mem_iff.mpr hu)
  omega

/-- The tokens that are parsed are those of the first part and, further on, those of the second. -/
theorem tokens_append {a b : String} {semicolon : Lexeme} (h : semicolon ∈ (tokenize a).tokens)
    (hnode : semicolon.node = .mark .semicolon)
    (hstop : semicolon.span.stop = Text.byteLength a.toList) :
    tokens (a ++ b) (tokenize (a ++ b)) = tokens a (tokenize a) ++
      (tokens b (tokenize b)).map (·.shift (Text.byteLength a.toList)) := by
  obtain ⟨htokens, herrors⟩ := Lexed.tokenize_append (b := b) h hnode hstop
  have ha := tokens_ordered a
  have hb := tokens_ordered b
  refine (tokens_ordered (a ++ b)).eq_of_perm ?_ ?_
  · refine List.pairwise_append.mpr ⟨ha.pairwise, ?_, fun t ht u hu => ?_⟩
    · refine List.pairwise_map.mpr (hb.pairwise.imp fun htu => ?_)
      exact Nat.add_le_add_right htu _
    · obtain ⟨v, -, rfl⟩ := List.mem_map.mp hu
      exact Nat.le_trans (ha.stop_le t ht) (Nat.le_add_left _ _)
  · have hsorted : ∀ items : List Lexeme,
        (items.mergeSort fun t u => t.span.start ≤ u.span.start).Perm items :=
      fun items => List.mergeSort_perm _ _
    unfold tokens
    rw [htokens, herrors, swallowed_append]
    refine (hsorted _).trans (.trans ?_ ((hsorted _).append ((hsorted _).map _)).symm)
    rw [List.map_append, List.append_assoc, List.append_assoc]
    refine List.Perm.append_left _ ?_
    rw [← List.append_assoc, ← List.append_assoc]
    exact List.perm_append_comm.append_right _

/-- The token that ends where the source ends is the last. -/
theorem Ordered.eq_concat {stop : Nat} {tokens : List Lexeme} (h : Ordered stop tokens) {t : Lexeme}
    (ht : t ∈ tokens) (hstop : t.span.stop = stop) : ∃ before, tokens = before ++ [t] := by
  obtain ⟨before, after, rfl⟩ := List.append_of_mem ht
  cases after with
  | nil => exact ⟨before, rfl⟩
  | cons u rest =>
    have hbehind := (List.pairwise_cons.mp (List.pairwise_append.mp h.pairwise).2.1).1 u
      (List.mem_cons_self ..)
    have hpos := h.start_lt u (by simp)
    have hle := h.stop_le u (by simp)
    omega

/-- Behind a last semicolon no token is left over. -/
theorem closed_of_getLast? {tokens : List Lexeme}
    (h : ∀ t, tokens.getLast? = some t → t.node = .mark .semicolon) :
    ∀ segment ∈ segments tokens, Closed segment := by
  induction tokens using segment_induction with
  | nil => exact fun _ hmem => nomatch hmem
  | last first rest hplain =>
    have hlast := List.getLast?_eq_some_getLast (List.cons_ne_nil first rest)
    exact absurd (h _ hlast) (hplain _ (List.getLast_mem _))
  | closed segment later hclosed ih =>
    intro other hmem
    rw [segments_closed hclosed] at hmem
    rcases List.mem_cons.mp hmem with rfl | hmem
    · exact hclosed
    · refine ih (fun t ht => h t ?_) other hmem
      rw [List.getLast?_append, ht, Option.some_or]

theorem closed_of_concat {before : List Lexeme} {semicolon : Lexeme}
    (h : semicolon.node = .mark .semicolon) :
    ∀ segment ∈ segments (before ++ [semicolon]), Closed segment := by
  refine closed_of_getLast? fun t ht => ?_
  rw [List.getLast?_concat] at ht
  obtain rfl := Option.some.inj ht
  exact h

theorem segments_append {tokens : List Lexeme} (h : ∀ segment ∈ segments tokens, Closed segment)
    (later : List Lexeme) : segments (tokens ++ later) = segments tokens ++ segments later := by
  induction tokens using segment_induction with
  | nil => rfl
  | last first rest hplain =>
    rw [segments_plain hplain (List.cons_ne_nil _ _)] at h
    obtain ⟨before, semicolon, hall, -, hsemicolon⟩ := h _ (List.mem_singleton_self _)
    exact absurd hsemicolon (hplain semicolon (by rw [hall]; simp))
  | closed segment more hclosed ih =>
    rw [segments_closed hclosed] at h
    rw [List.append_assoc, segments_closed hclosed, segments_closed hclosed, List.cons_append,
      ih fun other hmem => h other (List.mem_cons_of_mem _ hmem)]

/- Lexical errors of one part spoil nothing in the other. -/

theorem isSpoiled_append_left {errors later : List LexError} {distance : Nat} {range : Span}
    (h : range.stop ≤ distance) :
    isSpoiled (errors ++ later.map (·.shift distance)) range = isSpoiled errors range := by
  unfold isSpoiled
  rw [List.any_append, Bool.or_eq_left_iff_imp, List.any_map, List.any_eq_true]
  intro hlater
  obtain ⟨e, -, he⟩ := hlater
  simp only [Function.comp_apply, LexError.shift, Span.shift, Span.overlaps, Bool.and_eq_true,
    decide_eq_true_eq] at he
  omega

theorem isSpoiled_append_right {errors later : List LexError} {distance : Nat}
    (h : ∀ e ∈ errors, e.span.stop ≤ distance) (range : Span) :
    isSpoiled (errors ++ later.map (·.shift distance)) (range.shift distance) =
      isSpoiled later range := by
  have hclear : errors.any (fun e => e.span.overlaps (range.shift distance)) = false := by
    refine List.any_eq_false.mpr fun e he hover => ?_
    have hstop := h e he
    have hbehind := (Span.overlaps_iff.mp hover).2
    simp only [Span.shift] at hbehind
    omega
  have hmoved : ∀ e : LexError, (e.shift distance).span.overlaps (range.shift distance) =
      e.span.overlaps range := by
    intro e
    simp only [LexError.shift, Span.shift, Span.overlaps, Nat.add_lt_add_iff_right]
  unfold isSpoiled
  rw [List.any_append, hclear, Bool.false_or, List.any_map]
  exact congrArg later.any (funext hmoved)

theorem cut?_map (distance : Nat) (tokens : List Lexeme) :
    cut? (tokens.map (·.shift distance)) =
      (cut? tokens).map fun (semicolon, later) =>
        (semicolon.shift distance, later.map (·.shift distance)) := by
  induction tokens with
  | nil => rfl
  | cons t rest ih =>
    have hnode : (t.shift distance).node = t.node := rfl
    rw [List.map_cons, cut?, cut?, ih, hnode]
    split <;> rfl

theorem region_shift (stop distance : Nat) (segment : List Lexeme) :
    region (stop + distance) (segment.map (·.shift distance)) =
      (region stop segment).shift distance := by
  unfold region
  rw [cut?_map]
  cases segment with
  | nil => rfl
  | cons first rest => cases cut? (first :: rest) <;> rfl

theorem region_stop_le {source : String} {segment : List Lexeme} (h : segment ∈ segmentsOf source) :
    (region (Text.byteLength source.toList) segment).stop ≤ Text.byteLength source.toList := by
  rcases closed_or_plain h with ⟨before, semicolon, rfl, hplain, hsemicolon⟩ | ⟨hplain, -⟩
  · rw [region_closed hplain hsemicolon]
    exact (tokens_ordered source).stop_le semicolon (mem_tokens_of_mem h (by simp))
  · unfold region
    rw [cut?_plain hplain]

/-- The end of the source is nothing to a segment that has its semicolon. -/
theorem run_stop {segment : List Lexeme} (h : Closed segment) (stop stop' : Nat) :
    run Declaration.parser stop segment = run Declaration.parser stop' segment := by
  have := run_closed h stop stop' []
  rwa [List.append_nil] at this

theorem region_stop {segment : List Lexeme} (h : Closed segment) (stop stop' : Nat) :
    region stop segment = region stop' segment := by
  obtain ⟨before, semicolon, rfl, hplain, hsemicolon⟩ := h
  rw [region_closed hplain hsemicolon, region_closed hplain hsemicolon]

theorem parsed?_shift (stop distance : Nat) (segment : List Lexeme) :
    parsed? (stop + distance) (segment.map (·.shift distance)) =
      (parsed? stop segment).map (·.shift distance) := by
  unfold parsed?
  rw [Declaration.run_shift]
  cases run Declaration.parser stop segment <;> rfl

theorem failure?_append_left {errors later : List LexError} {segment : List Lexeme}
    {stop distance : Nat} (hclosed : Closed segment)
    (hregion : (region distance segment).stop ≤ distance) :
    failure? (errors ++ later.map (·.shift distance)) stop segment =
      failure? errors distance segment := by
  unfold failure?
  rw [run_stop hclosed stop distance, region_stop hclosed stop distance,
    isSpoiled_append_left hregion]

theorem failure?_append_right {errors later : List LexError} {distance : Nat}
    (h : ∀ e ∈ errors, e.span.stop ≤ distance) (stop : Nat) (segment : List Lexeme) :
    failure? (errors ++ later.map (·.shift distance)) (stop + distance)
        (segment.map (·.shift distance)) =
      (failure? later stop segment).map (·.shift distance) := by
  unfold failure?
  rw [Declaration.run_shift, region_shift, isSpoiled_append_right h]
  cases run Declaration.parser stop segment with
  | ok d => rfl
  | error e =>
    simp only [Diagnostic.ofParseError_shift]
    split <;> rfl

end Recovery

namespace ParsedSource

section

variable {a b : String} {semicolon : Lexeme}

/-- The segments of the whole are those of the two parts. -/
theorem segmentsOf_append (hlast : (tokenize a).tokens.getLast? = some semicolon)
    (hnode : semicolon.node = .mark .semicolon)
    (hstop : semicolon.span.stop = Text.byteLength a.toList) :
    (∀ segment ∈ segmentsOf a, Closed segment) ∧
      segmentsOf (a ++ b) = segmentsOf a ++
        (segmentsOf b).map (List.map (·.shift (Text.byteLength a.toList))) := by
  have hmem : semicolon ∈ (tokenize a).tokens := List.mem_of_getLast? hlast
  obtain ⟨before, hconcat⟩ := (tokens_ordered a).eq_concat (mem_tokens.mpr (.inl hmem)) hstop
  have hclosed : ∀ segment ∈ segmentsOf a, Closed segment := by
    unfold segmentsOf
    rw [hconcat]
    exact closed_of_concat hnode
  refine ⟨hclosed, ?_⟩
  unfold segmentsOf
  rw [tokens_append hmem hnode hstop, segments_append hclosed,
    segments_map (f := (·.shift _)) fun _ => rfl]

theorem declarations_append (hlast : (tokenize a).tokens.getLast? = some semicolon)
    (hnode : semicolon.node = .mark .semicolon)
    (hstop : semicolon.span.stop = Text.byteLength a.toList) :
    (parseSource (a ++ b)).declarations = (parseSource a).declarations ++
      (parseSource b).declarations.map (·.shift (Text.byteLength a.toList)) := by
  obtain ⟨hclosed, hsegments⟩ := segmentsOf_append (b := b) hlast hnode hstop
  have herrors := (Lexed.tokenize_append (b := b) (List.mem_of_getLast? hlast) hnode hstop).2
  have hinside : ∀ e ∈ (tokenize a).errors, e.span.stop ≤ Text.byteLength a.toList :=
    fun e he => (Lexed.span_of_mem_errors he).2
  rw [declarations_eq, declarations_eq, declarations_eq, hsegments, herrors, String.toList_append,
    Text.byteLength_append, Nat.add_comm, List.filterMap_append, List.filter_append]
  congr 1
  · have hparsed : ∀ segment ∈ segmentsOf a,
        parsed? (Text.byteLength b.toList + Text.byteLength a.toList) segment =
          parsed? (Text.byteLength a.toList) segment := fun segment hmem => by
      unfold parsed?
      rw [run_stop (hclosed segment hmem)]
    rw [List.filterMap_congr hparsed]
    refine List.filter_congr fun d hd => congrArg Bool.not (isSpoiled_append_left ?_)
    obtain ⟨segment, hmem, hsome⟩ := List.mem_filterMap.mp hd
    rw [span_of_run (hclosed segment hmem) (parsed?_eq_some.mp hsome)]
    exact region_stop_le hmem
  · rw [List.filterMap_map]
    simp only [Function.comp_def, parsed?_shift]
    rw [← List.map_filterMap, List.filter_map]
    refine congrArg (List.map _) (List.filter_congr fun d _ => ?_)
    exact congrArg Bool.not (isSpoiled_append_right hinside d.span)

/-- Every diagnostic of a source whose last segment has its semicolon is before the end. -/
theorem start_lt_of_mem_items {source : String}
    (hclosed : ∀ segment ∈ segmentsOf source, Closed segment) {d : Diagnostic}
    (h : d ∈ (parseSource source).report.items) :
    d.span.start < Text.byteLength source.toList := by
  rcases List.mem_append.mp ((report_items source).1.mem_iff.mp h) with h | h
  · obtain ⟨e, he, rfl⟩ := List.mem_map.mp h
    have hspan := Lexed.span_of_mem_errors he
    show e.span.start < _
    omega
  · obtain ⟨segment, hmem, hfailure⟩ := List.mem_filterMap.mp h
    rcases (failure_start hfailure).2 with ⟨t, ht, hstart⟩ | ⟨hopen, -⟩
    · have hpos := (tokens_ordered source).start_lt t (mem_tokens_of_mem hmem ht)
      have hle := (tokens_ordered source).stop_le t (mem_tokens_of_mem hmem ht)
      omega
    · exact absurd (hclosed segment hmem) hopen

theorem report_append (hlast : (tokenize a).tokens.getLast? = some semicolon)
    (hnode : semicolon.node = .mark .semicolon)
    (hstop : semicolon.span.stop = Text.byteLength a.toList) :
    (parseSource (a ++ b)).report.items = (parseSource a).report.items ++
      (parseSource b).report.items.map (·.shift (Text.byteLength a.toList)) := by
  obtain ⟨hclosed, hsegments⟩ := segmentsOf_append (b := b) hlast hnode hstop
  have herrors := (Lexed.tokenize_append (b := b) (List.mem_of_getLast? hlast) hnode hstop).2
  have hinside : ∀ e ∈ (tokenize a).errors, e.span.stop ≤ Text.byteLength a.toList :=
    fun e he => (Lexed.span_of_mem_errors he).2
  obtain ⟨hperm, hsorted⟩ := report_items (a ++ b)
  obtain ⟨hperma, hsorteda⟩ := report_items a
  obtain ⟨hpermb, hsortedb⟩ := report_items b
  have hfailures : (segmentsOf (a ++ b)).filterMap
      (failure? (tokenize (a ++ b)).errors (Text.byteLength (a ++ b).toList)) =
        (segmentsOf a).filterMap (failure? (tokenize a).errors (Text.byteLength a.toList)) ++
          ((segmentsOf b).filterMap (failure? (tokenize b).errors
            (Text.byteLength b.toList))).map (·.shift (Text.byteLength a.toList)) := by
    rw [hsegments, herrors, String.toList_append, Text.byteLength_append, Nat.add_comm,
      List.filterMap_append, List.filterMap_map, List.map_filterMap]
    congr 1
    · exact List.filterMap_congr fun segment hmem =>
        failure?_append_left (hclosed segment hmem) (region_stop_le hmem)
    · exact List.filterMap_congr fun segment _ => failure?_append_right hinside _ segment
  -- Both lists are in the order of the offsets, and they hold the same diagnostics.
  refine List.Perm.eq_of_pairwise (fun d d' _ _ h h' => by omega) hsorted
    (List.pairwise_append.mpr ⟨hsorteda, List.pairwise_map.mpr (hsortedb.imp ?_), ?_⟩) ?_
  · exact fun h => Nat.add_lt_add_right h _
  · intro d hd d' hd'
    obtain ⟨later, -, rfl⟩ := List.mem_map.mp hd'
    exact Nat.lt_of_lt_of_le (start_lt_of_mem_items hclosed hd) (Nat.le_add_left _ _)
  · refine hperm.trans (.trans ?_ (hperma.append (hpermb.map _)).symm)
    rw [hfailures, herrors]
    simp only [List.map_append, List.map_map, List.append_assoc]
    refine List.Perm.append_left _ ?_
    rw [← List.append_assoc, ← List.append_assoc]
    exact List.perm_append_comm.append_right _

/-- What is read of a source that ends in a semicolon and of what is put behind it is what is read
of each alone: the declarations of the first, then those of the second further on, and likewise for
the diagnostics.  A broken part of either changes nothing in the other. -/
theorem parseSource_append (hlast : (tokenize a).tokens.getLast? = some semicolon)
    (hnode : semicolon.node = .mark .semicolon)
    (hstop : semicolon.span.stop = Text.byteLength a.toList) :
    (parseSource (a ++ b)).declarations = (parseSource a).declarations ++
        (parseSource b).declarations.map (·.shift (Text.byteLength a.toList)) ∧
      (parseSource (a ++ b)).report.items = (parseSource a).report.items ++
        (parseSource b).report.items.map (·.shift (Text.byteLength a.toList)) :=
  ⟨declarations_append hlast hnode hstop, report_append hlast hnode hstop⟩

/-- A source with errors of both kinds, and one with an error behind it. -/
theorem parseSource_append_broken :
    (tokenize "A : '\\q' ; B 'x' ;").tokens.getLast? = some ⟨.mark .semicolon, ⟨17, 18⟩⟩ ∧
      (tokenize "A : '\\q' ; B 'x' ;").errors = [⟨.malformedEscape, ⟨4, 8⟩⟩] ∧
      (parseSource ("A : '\\q' ; B 'x' ;" ++ "C : 'y' ; ;")).declarations =
        (parseSource "A : '\\q' ; B 'x' ;").declarations ++
          (parseSource "C : 'y' ; ;").declarations.map (·.shift 18) ∧
      (parseSource ("A : '\\q' ; B 'x' ;" ++ "C : 'y' ; ;")).report.items =
        (parseSource "A : '\\q' ; B 'x' ;").report.items ++
          (parseSource "C : 'y' ; ;").report.items.map (·.shift 18) := by
  have hlast : (tokenize "A : '\\q' ; B 'x' ;").tokens.getLast? =
      some ⟨.mark .semicolon, ⟨17, 18⟩⟩ := by decide +kernel
  have hlength : Text.byteLength "A : '\\q' ; B 'x' ;".toList = 18 := by decide +kernel
  have hwhole := parseSource_append (b := "C : 'y' ; ;") hlast rfl hlength.symm
  rw [hlength] at hwhole
  exact ⟨hlast, by decide +kernel, hwhole⟩

end

end ParsedSource
end GrammarText
