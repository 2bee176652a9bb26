/-
Layout makes no difference to what a source says.  With blanks or comments put in at the edge of a
token every segment has the tokens it had, so it is the same declaration or fails for the same
reason, and ranges alone tell the two sources apart.
-/
import GrammarText.Proofs.Compilation
import GrammarText.Proofs.Lexer.Layout
import GrammarText.Proofs.Parser.Shift

namespace GrammarText

open GrammarText.Parser GrammarText.Declaration

/-- What a diagnostic says but for the place. -/
def Diagnostic.content (d : Diagnostic) :
    DiagnosticKind × String × List String × Option String :=
  (d.kind, d.message, d.expected, d.found)

theorem Diagnostic.content_ofParseError {e e' : ParseError} (h : e.bare = e'.bare) :
    (ofParseError e).content = (ofParseError e').content := by
  have hbare : ∀ e : ParseError, (ofParseError e.bare).content = (ofParseError e).content := by
    intro e
    obtain ⟨fault, span, expected, found, label⟩ := e
    cases fault <;> rfl
  rw [← hbare e, h, hbare e']

namespace Recovery

/-- What is wrong with a segment does not depend on where its tokens stand. -/
theorem failure?_content {segment segment' : List Lexeme} (h : nodes segment = nodes segment')
    (stop stop' : Nat) : (failure? [] stop segment).map Diagnostic.content =
      (failure? [] stop' segment').map Diagnostic.content := by
  have hrun := Declaration.run_of_nodes_eq h stop stop'
  have hclear : ∀ region, isSpoiled [] region = false := fun _ => rfl
  unfold failure?
  cases hd : run Declaration.parser stop segment with
  | ok d =>
    rw [hd] at hrun
    cases hd' : run Declaration.parser stop' segment' with
    | ok d' => rfl
    | error e' =>
      rw [hd'] at hrun
      cases hrun
  | error e =>
    rw [hd] at hrun
    cases hd' : run Declaration.parser stop' segment' with
    | ok d' =>
      rw [hd'] at hrun
      cases hrun
    | error e' =>
      rw [hd'] at hrun
      simp only [hclear, Bool.false_eq_true, if_false, Option.map_some]
      exact congrArg some (Diagnostic.content_ofParseError (Except.error.inj hrun))

theorem nodes_map_widen (segment : List Lexeme) (place width : Nat) :
    nodes (segment.map (·.widen place width)) = nodes segment := by
  rw [nodes, List.map_map]
  rfl

theorem region_widen {segment : List Lexeme} (h : Closed segment) (place width stop stop' : Nat) :
    region stop' (segment.map (·.widen place width)) =
      (region stop segment).widen place width := by
  obtain ⟨before, semicolon, rfl, hplain, hsemicolon⟩ := h
  have hsemicolon' : (semicolon.widen place width).node = .mark .semicolon := hsemicolon
  rw [List.map_append, List.map_singleton, region_closed hplain hsemicolon,
    region_closed (plain_of_nodes_eq (nodes_map_widen before place width) hplain) hsemicolon']
  cases before <;> rfl

/-- The declaration of a segment in which there is more layout, or in front of which there is. -/
theorem parsed?_widen {tokens segment : List Lexeme} (hmem : segment ∈ segments tokens)
    (place width stop stop' : Nat) :
    parsed? stop' (segment.map (·.widen place width)) =
      (parsed? stop segment).map (·.widen place width) := by
  have hrun := Declaration.run_of_nodes_eq (nodes_map_widen segment place width) stop' stop
  unfold parsed?
  cases hd : run Declaration.parser stop segment with
  | error e =>
    rw [hd] at hrun
    cases hd' : run Declaration.parser stop' (segment.map (·.widen place width)) with
    | error e' => rfl
    | ok d' =>
      rw [hd'] at hrun
      cases hrun
  | ok d =>
    rw [hd] at hrun
    cases hd' : run Declaration.parser stop' (segment.map (·.widen place width)) with
    | error e' =>
      rw [hd'] at hrun
      cases hrun
    | ok d' =>
      rw [hd'] at hrun
      -- What is a declaration has its semicolon, and its range is that of its tokens.
      have hclosed := (closed_or_plain hmem).resolve_right
        fun hplain => not_run_plain hplain.1 stop d hd
      have hspan : d'.span = d.span.widen place width := by
        have hclosed' := closed_of_nodes_eq (nodes_map_widen segment place width) hclosed
        rw [span_of_run hclosed' hd', span_of_run hclosed hd,
          region_widen hclosed place width stop stop']
      have hnode : d'.node = d.node := Except.ok.inj hrun
      show some d' = some ⟨d.node, d.span.widen place width⟩
      rw [← hnode, ← hspan]

end Recovery

/-- Sources whose declarations are the same and whose diagnostics say the same compile to the same
table, or neither of them does. -/
theorem compileWith_toOption_eq {source source' : String}
    (hdeclarations : (parseSource source).declarations.map Spanned.node =
      (parseSource source').declarations.map Spanned.node)
    (hreport : (parseSource source).report.items.map Diagnostic.content =
      (parseSource source').report.items.map Diagnostic.content) (withBuiltins : Bool) :
    (compileWith withBuiltins source).toOption = (compileWith withBuiltins source').toOption := by
  have hempty : (parseSource source).report.isEmpty = (parseSource source').report.isEmpty := by
    have := congrArg List.isEmpty hreport
    rwa [List.isEmpty_map, List.isEmpty_map] at this
  unfold compileWith Table.compile Table.register
  simp only
  rw [hdeclarations, hempty]
  cases (parseSource source').report.isEmpty <;> rfl

namespace ParsedSource

open GrammarText.Recovery

/-- Layout put in at the edge of a token of a source without lexical errors makes no difference but
to the ranges: there are the same tokens and the same declarations at their new places, diagnostics
that say the same, and the same table or none. -/
theorem parseSource_layout {a gap b : String} (hgap : Layout gap.toList)
    (hclean : (tokenize (a ++ b)).errors = []) {t : Lexeme}
    (ht : t ∈ (tokenize (a ++ b)).tokens)
    (hplace : t.span.start = Text.byteLength a.toList ∨ t.span.stop = Text.byteLength a.toList) :
    tokenize (a ++ gap ++ b) = ⟨(tokenize (a ++ b)).tokens.map
      (·.widen (Text.byteLength a.toList) (Text.byteLength gap.toList)), []⟩ ∧
    (parseSource (a ++ gap ++ b)).declarations = (parseSource (a ++ b)).declarations.map
      (·.widen (Text.byteLength a.toList) (Text.byteLength gap.toList)) ∧
    (parseSource (a ++ gap ++ b)).report.items.map Diagnostic.content =
      (parseSource (a ++ b)).report.items.map Diagnostic.content ∧
    ∀ withBuiltins, (compileWith withBuiltins (a ++ gap ++ b)).toOption =
      (compileWith withBuiltins (a ++ b)).toOption := by
  have htokens := Lexed.tokenize_widen hgap hclean ht hplace
  generalize Text.byteLength a.toList = place at htokens ⊢
  generalize Text.byteLength gap.toList = width at htokens ⊢
  have herrors : (tokenize (a ++ gap ++ b)).errors = [] := by rw [htokens]
  have hsegments : segmentsOf (a ++ gap ++ b) =
      (segmentsOf (a ++ b)).map (List.map (·.widen place width)) := by
    rw [segmentsOf_of_errors_nil herrors, segmentsOf_of_errors_nil hclean, htokens]
    exact segments_map (f := (·.widen place width)) (fun _ => rfl) _
  have hdeclarations : (parseSource (a ++ gap ++ b)).declarations =
      (parseSource (a ++ b)).declarations.map (·.widen place width) := by
    rw [declarations_of_errors_nil herrors, declarations_of_errors_nil hclean, hsegments,
      List.filterMap_map, List.map_filterMap]
    exact List.filterMap_congr fun segment hmem => parsed?_widen hmem place width _ _
  have hreport : (parseSource (a ++ gap ++ b)).report.items.map Diagnostic.content =
      (parseSource (a ++ b)).report.items.map Diagnostic.content := by
    rw [report_of_errors_nil herrors, report_of_errors_nil hclean, hsegments,
      List.filterMap_map, List.map_filterMap, List.map_filterMap]
    exact List.filterMap_congr fun segment _ =>
      failure?_content (nodes_map_widen segment place width) _ _
  refine ⟨htokens, hdeclarations, hreport, compileWith_toOption_eq ?_ hreport⟩
  rw [hdeclarations, List.map_map]
  rfl

/-- A comment behind a regex, with a broken declaration further on. -/
theorem parseSource_layout_comment :
    (tokenize ("A : /a/" ++ "+; B")).errors = [] ∧
      ⟨.regex "a", ⟨4, 7⟩⟩ ∈ (tokenize ("A : /a/" ++ "+; B")).tokens ∧
      Layout "# '\r\n\t".toList ∧
      tokenize ("A : /a/" ++ "# '\r\n\t" ++ "+; B") =
        ⟨(tokenize ("A : /a/" ++ "+; B")).tokens.map (·.widen 7 6), []⟩ ∧
      (parseSource ("A : /a/" ++ "# '\r\n\t" ++ "+; B")).declarations =
        (parseSource ("A : /a/" ++ "+; B")).declarations.map (·.widen 7 6) ∧
      (parseSource ("A : /a/" ++ "# '\r\n\t" ++ "+; B")).report.items.map Diagnostic.content =
        (parseSource ("A : /a/" ++ "+; B")).report.items.map Diagnostic.content ∧
      ∀ withBuiltins,
        (compileWith withBuiltins ("A : /a/" ++ "# '\r\n\t" ++ "+; B")).toOption =
          (compileWith withBuiltins ("A : /a/" ++ "+; B")).toOption := by
  have hbody : ∀ d ∈ " '".toList, Text.isLineEnd d = false := by
    intro d hd
    rcases List.mem_pair.mp hd with rfl | rfl <;> rfl
  have hgap : Layout "# '\r\n\t".toList :=
    Layout.comment hbody (by decide) (.blank (by decide) (.blank (by decide) .nil))
  have hclean : (tokenize ("A : /a/" ++ "+; B")).errors = [] := by decide +kernel
  have hmem : ⟨.regex "a", ⟨4, 7⟩⟩ ∈ (tokenize ("A : /a/" ++ "+; B")).tokens := by
    decide +kernel
  have hlength : Text.byteLength "A : /a/".toList = 7 := by decide +kernel
  have hwidth : Text.byteLength "# '\r\n\t".toList = 6 := by decide +kernel
  have hwhole := parseSource_layout hgap hclean hmem (.inr hlength.symm)
  rw [hlength, hwidth] at hwhole
  exact ⟨hclean, hmem, hgap, hwhole⟩

end ParsedSource
end GrammarText
