/-
Reading a source as one declaration.  The parser of one declaration runs over all tokens of a source
and recovery over its segments, but a declaration goes no further than the first segment and fails
there in the same way whatever stands behind it.  So the two agree on which sources are one
declaration, on the lexical errors and on the first failure.
-/
import GrammarText.Proofs.Recovery.Clean

namespace GrammarText

open GrammarText.Parser GrammarText.Recovery

namespace Recovery

open GrammarText.Declaration

variable {tokens first : List Lexeme} {more : List (List Lexeme)} {d : Spanned Declaration}

/-- On all tokens the parser of declarations does what it does on the first segment. -/
theorem run_segments (h : segments tokens = first :: more) (stop : Nat) :
    run Declaration.parser stop tokens = run Declaration.parser stop first := by
  have hflatten := segments_flatten tokens
  rw [h, List.flatten_cons] at hflatten
  have hmem : first ∈ segments tokens := h ▸ List.mem_cons_self ..
  rcases closed_or_plain hmem with hclosed | ⟨hplain, -⟩
  · rw [← hflatten, run_closed hclosed stop stop]
  · -- Only the last segment may lack a semicolon.
    have hlast : more = [] := by
      refine List.eq_nil_iff_forall_not_mem.mpr fun other hother => ?_
      have hpairwise := segments_pairwise_closed tokens
      rw [h] at hpairwise
      obtain ⟨before, semicolon, rfl, -, hsemicolon⟩ :=
        (List.pairwise_cons.mp hpairwise).1 other hother
      exact hplain semicolon (by simp) hsemicolon
    rw [hlast, List.flatten_nil, List.append_nil] at hflatten
    rw [hflatten]

/-- The tokens are one declaration if they are one segment and that segment is the declaration. -/
theorem succeeds_iff_segments {stop : Nat} :
    Succeeds Declaration.parser stop tokens d [] ↔
      segments tokens = [tokens] ∧ parsed? stop tokens = some d := by
  constructor
  · intro h
    obtain ⟨read, hread, hclosed⟩ := Declaration.parser_takes h
    rw [List.append_nil] at hread
    exact ⟨segments_of_closed (hread ▸ hclosed), parsed?_eq_some.mpr (run_eq_ok.mpr ⟨[], h⟩)⟩
  · intro ⟨hsegments, hparsed⟩
    have hmem : tokens ∈ segments tokens := hsegments ▸ List.mem_singleton_self _
    have hrun := parsed?_eq_some.mp hparsed
    rcases closed_or_plain hmem with hclosed | ⟨hplain, -⟩
    · exact succeeds_of_run hclosed hrun
    · exact absurd hrun (not_run_plain hplain stop d)

/-- If every segment is a declaration and there is one declaration, there is one segment. -/
theorem segments_eq_singleton {stop : Nat}
    (hall : ∀ segment ∈ segments tokens, (parsed? stop segment).isSome)
    (h : (segments tokens).filterMap (parsed? stop) = [d]) : segments tokens = [tokens] := by
  have hlength : ((segments tokens).filterMap (parsed? stop)).length = (segments tokens).length :=
    List.filterMap_length_eq_length.mpr hall
  rw [h] at hlength
  obtain ⟨segment, hsegment⟩ := List.length_eq_one_iff.mp hlength.symm
  have hflatten := segments_flatten tokens
  rw [hsegment, List.flatten_singleton] at hflatten
  rw [hsegment, hflatten]

end Recovery

namespace ParsedSource

open GrammarText.Declaration

variable {source : String}

theorem parseDeclaration_of_run {d : Spanned Declaration} (h : (tokenize source).errors = [])
    (hrun : run (before Declaration.parser endOfInput) (Text.byteLength source.toList)
      (tokenize source).tokens = .ok d) :
    parseDeclaration source = .ok d := by
  unfold parseDeclaration
  simp only [h, hrun]

theorem parseDeclaration_of_run_error {e : ParseError} (h : (tokenize source).errors = [])
    (hrun : run (before Declaration.parser endOfInput) (Text.byteLength source.toList)
      (tokenize source).tokens = .error e) :
    parseDeclaration source = .error ⟨[.ofParseError e]⟩ := by
  unfold parseDeclaration
  simp only [h, hrun, Report.ofList_of_increasing (List.pairwise_singleton ..)]

theorem parseDeclaration_of_errors (h : (tokenize source).errors ≠ []) :
    parseDeclaration source =
      .error ⟨(tokenize source).errors.map Diagnostic.ofLexError⟩ := by
  unfold parseDeclaration
  simp only
  split
  · rw [Report.ofList_of_increasing (Lexed.diagnostics_increasing source)]
  · rename_i hnil
    exact absurd hnil h

theorem parseDeclaration_eq_ok {d : Spanned Declaration} : parseDeclaration source = .ok d ↔
    (tokenize source).errors = [] ∧ Succeeds Declaration.parser
      (Text.byteLength source.toList) (tokenize source).tokens d [] := by
  rw [← run_before_endOfInput]
  by_cases herrors : (tokenize source).errors = []
  · rw [and_iff_right herrors]
    cases hrun : run (before Declaration.parser endOfInput) (Text.byteLength source.toList)
      (tokenize source).tokens with
    | ok d' => rw [parseDeclaration_of_run herrors hrun, Except.ok.injEq, Except.ok.injEq]
    | error e => rw [parseDeclaration_of_run_error herrors hrun]; exact iff_of_false nofun nofun
  · rw [parseDeclaration_of_errors herrors]
    exact iff_of_false nofun fun h => herrors h.1

/-- A source is one declaration if nothing else is read of it and nothing is reported. -/
theorem parseDeclaration_eq_ok_iff (d : Spanned Declaration) : parseDeclaration source = .ok d ↔
    (parseSource source).isClean ∧ (parseSource source).declarations = [d] := by
  rw [parseDeclaration_eq_ok, succeeds_iff_segments]
  constructor
  · intro ⟨herrors, hsegments, hparsed⟩
    have hcut := segmentsOf_of_errors_nil herrors
    constructor
    · refine (isClean_iff source).mpr ⟨herrors, fun segment hmem => ?_⟩
      rw [hcut] at hmem
      refine (parsed?_isSome_iff hmem (Text.byteLength source.toList)).mp ?_
      rw [hsegments, List.mem_singleton] at hmem
      rw [hmem, hparsed]
      rfl
    · rw [declarations_of_errors_nil herrors, hcut, hsegments, List.filterMap_cons_some hparsed,
        List.filterMap_nil]
  · intro ⟨hclean, hdeclarations⟩
    obtain ⟨herrors, hall⟩ := (isClean_iff source).mp hclean
    rw [declarations_of_errors_nil herrors] at hdeclarations
    rw [segmentsOf_of_errors_nil herrors] at hall hdeclarations
    have hsegments := segments_eq_singleton
      (fun segment hmem => (parsed?_isSome_iff hmem _).mpr (hall segment hmem)) hdeclarations
    rw [hsegments] at hdeclarations
    refine ⟨herrors, hsegments, ?_⟩
    cases hparsed : parsed? (Text.byteLength source.toList) (tokenize source).tokens with
    | none =>
      rw [List.filterMap_cons_none hparsed] at hdeclarations
      cases hdeclarations
    | some d' =>
      rw [List.filterMap_cons_some hparsed] at hdeclarations
      rw [(List.cons.inj hdeclarations).1]

/-- If the first segment is no declaration, its failure is the only one of the source as a
declaration and the first of those that recovery reports. -/
theorem parseDeclaration_of_failure (herrors : (tokenize source).errors = [])
    {first : List Lexeme} {more : List (List Lexeme)}
    (hcut : segments (tokenize source).tokens = first :: more) {e : ParseError}
    (hrun : run Declaration.parser (Text.byteLength source.toList) first = .error e) :
    parseDeclaration source = .error ⟨[.ofParseError e]⟩ ∧
      (parseSource source).report.first? = some (.ofParseError e) := by
  constructor
  · exact parseDeclaration_of_run_error herrors
      (run_before_of_error (q := endOfInput) ((run_segments hcut _).trans hrun))
  · have hfailure : failure? [] (Text.byteLength source.toList) first = some (.ofParseError e) := by
      unfold failure?
      rw [hrun]
      rfl
    rw [Report.first?, report_of_errors_nil herrors, segmentsOf_of_errors_nil herrors, hcut,
      List.filterMap_cons_some hfailure, List.head?_cons]

/-- The two ways to read a source agree.  It is one declaration if recovery reads this declaration
and nothing else.  Its lexical errors are those that recovery reports.  And without lexical errors,
if the first segment is no declaration, the one diagnostic is the first that recovery reports. -/
theorem parseDeclaration_agrees (source : String) :
    (∀ d, parseDeclaration source = .ok d ↔
      (parseSource source).isClean ∧ (parseSource source).declarations = [d]) ∧
    ((tokenize source).errors ≠ [] →
      parseDeclaration source = .error ⟨(tokenize source).errors.map Diagnostic.ofLexError⟩ ∧
      ((parseSource source).report.items.filter fun d => d.kind = .lexical) =
        (tokenize source).errors.map Diagnostic.ofLexError) ∧
    ((tokenize source).errors = [] →
      ∀ first more, segments (tokenize source).tokens = first :: more →
        (∀ d, ¬ Grammar.Declares (nodes first) d []) →
        ∃ diagnostic, parseDeclaration source = .error ⟨[diagnostic]⟩ ∧
          (parseSource source).report.first? = some diagnostic) := by
  refine ⟨parseDeclaration_eq_ok_iff, fun herrors => ?lexical, fun herrors first more hcut hnone =>
    ?syntactic⟩
  case lexical => exact ⟨parseDeclaration_of_errors herrors, lexical_items source⟩
  case syntactic =>
    cases hrun : run Declaration.parser (Text.byteLength source.toList) first with
    | ok d =>
      have hmem : first ∈ segments (tokenize source).tokens := hcut ▸ List.mem_cons_self ..
      obtain ⟨d', hd'⟩ := (parsed?_isSome_iff hmem (Text.byteLength source.toList)).mp
        (Option.isSome_iff_exists.mpr ⟨d, parsed?_eq_some.mpr hrun⟩)
      exact absurd hd' (hnone d')
    | error e => exact ⟨_, parseDeclaration_of_failure herrors hcut hrun⟩

/-- A source with a literal that is left open, and one whose first declaration lacks its colon. -/
theorem parseDeclaration_agrees_broken :
    ((tokenize "A : 'x ;").errors ≠ [] ∧ parseDeclaration "A : 'x ;" =
      .error ⟨(tokenize "A : 'x ;").errors.map Diagnostic.ofLexError⟩) ∧
    ((tokenize "A 'x' ; B : 'y' ;").errors = [] ∧
      ∃ diagnostic, parseDeclaration "A 'x' ; B : 'y' ;" = .error ⟨[diagnostic]⟩ ∧
        (parseSource "A 'x' ; B : 'y' ;").report.first? = some diagnostic) := by
  have hopen : (tokenize "A : 'x ;").errors ≠ [] := by decide +kernel
  have herrors : (tokenize "A 'x' ; B : 'y' ;").errors = [] := by decide +kernel
  have hcut : segments (tokenize "A 'x' ; B : 'y' ;").tokens =
      [⟨.tokenName "A", ⟨0, 1⟩⟩, ⟨.literal "x", ⟨2, 5⟩⟩, ⟨.mark .semicolon, ⟨6, 7⟩⟩] ::
        [[⟨.tokenName "B", ⟨8, 9⟩⟩, ⟨.mark .colon, ⟨10, 11⟩⟩, ⟨.literal "y", ⟨12, 15⟩⟩,
          ⟨.mark .semicolon, ⟨16, 17⟩⟩]] := by
    decide +kernel
  have hmem := List.mem_of_mem_head? (Option.mem_def.mpr (congrArg List.head? hcut))
  refine ⟨⟨hopen, ((parseDeclaration_agrees _).2.1 hopen).1⟩, herrors,
    (parseDeclaration_agrees _).2.2 herrors _ _ hcut fun d hd => ?_⟩
  exact absurd ((parsed?_isSome_iff hmem 17).mpr ⟨d, hd⟩) (by decide +kernel)

end ParsedSource
end GrammarText
