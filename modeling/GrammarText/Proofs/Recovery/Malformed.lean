/-
Literals out of shape.  Where literals of a clean source are replaced by malformed ones, every
declaration without one of them is read as before, and one lexical error is reported for each of
them.  A semicolon in a malformed literal ends its declaration, and then what is left behind it is
reported as well.
-/
import GrammarText.Proofs.Recovery.Spoiled

namespace GrammarText

open GrammarText.Lexed GrammarText.Recovery

theorem Recovery.semicolons_eq_nil {text : List Char} (h : ';' ∉ text) (offset : Nat) :
    semicolons offset text = [] := by
  refine List.eq_nil_iff_forall_not_mem.mpr fun t ht => ?_
  obtain ⟨before, after, rfl, -⟩ := mem_semicolons.mp ht
  exact h (by simp)

/-- At each of its places an edit has its side of the text. -/
theorem Edit.exists_parts_of_mem {side : Edit → String} (tail : String) {offset : Nat}
    {edits : List Edit} {place : Span} (h : place ∈ places side offset edits) :
    ∃ e ∈ edits, ∃ before after,
      (text side tail edits).toList = before ++ (side e).toList ++ after ∧
      place = ⟨offset + Text.byteLength before,
        offset + Text.byteLength before + Text.byteLength (side e).toList⟩ := by
  induction edits generalizing offset with
  | nil => cases h
  | cons e more ih =>
    rcases List.mem_cons.mp h with rfl | h
    · exact ⟨e, List.mem_cons_self .., e.before.toList, (text side tail more).toList,
        by rw [text, String.toList_append, String.toList_append], rfl⟩
    · obtain ⟨e', he', before, after, htext, rfl⟩ := ih h
      refine ⟨e', List.mem_cons_of_mem _ he',
        e.before.toList ++ (side e).toList ++ before, after, ?_, ?_⟩
      · rw [text, String.toList_append, String.toList_append, htext]
        simp only [List.append_assoc]
      · simp only [Text.byteLength_append, Nat.add_assoc]

namespace ParsedSource

variable {edits : List Edit} {tail : String}

/-- What is read of a clean source in which literals are replaced by malformed ones.  The
declarations are those without a replaced literal, with the same trees.  One lexical error is
reported for each replaced literal, and nothing else if none of them has a semicolon. -/
theorem parseSource_malformed
    (hclean : (parseSource (Edit.text Edit.literal tail edits)).isClean)
    (hliteral : ∀ place ∈ Edit.places Edit.literal 0 edits, ∃ text,
      ⟨.literal text, place⟩ ∈ (tokenize (Edit.text Edit.literal tail edits)).tokens)
    (hmalformed : ∀ e ∈ edits, IsMalformed e.replacement) :
    (parseSource (Edit.text Edit.replacement tail edits)).declarations.map Spanned.node =
        ((parseSource (Edit.text Edit.literal tail edits)).declarations.filter fun d =>
          (Edit.places Edit.literal 0 edits).all fun place =>
            !place.overlaps d.span).map Spanned.node ∧
      ((parseSource (Edit.text Edit.replacement tail edits)).report.items.filter fun d =>
          d.kind = .lexical) =
        (Edit.places Edit.replacement 0 edits).map
          (fun place => Diagnostic.ofLexError ⟨.malformedEscape, place⟩) ∧
      ((∀ e ∈ edits, ';' ∉ e.replacement.toList) →
        (parseSource (Edit.text Edit.replacement tail edits)).report.items =
          (Edit.places Edit.replacement 0 edits).map
            (fun place => Diagnostic.ofLexError ⟨.malformedEscape, place⟩)) := by
  have hplaces : ∀ span : Span, 0 ≤ span.start →
      (span ∈ Edit.places Edit.literal 0 edits ↔ span ∈ Edit.places Edit.literal 0 edits) :=
    fun _ _ => Iff.rfl
  obtain ⟨hedited, herrors⟩ := fragments_edited
    (fun place hplace => (hliteral place hplace).imp fun _ => mem_tokens_iff.mp) hmalformed
    hplaces 0
  have h : Spoils (Edit.places Edit.literal 0 edits) (Edit.text Edit.literal tail edits)
      (Edit.text Edit.replacement tail edits) := ⟨hclean, hliteral, hedited⟩
  have hsource := h.errors_eq
  unfold tokenize at hsource
  rw [scan_eq] at hsource
  have htarget : (tokenize (Edit.text Edit.replacement tail edits)).errors =
      (Edit.places Edit.replacement 0 edits).map (⟨.malformedEscape, ·⟩) := by
    unfold tokenize
    rw [scan_eq]
    exact herrors hsource
  have hitems : (tokenize (Edit.text Edit.replacement tail edits)).errors.map
      Diagnostic.ofLexError = (Edit.places Edit.replacement 0 edits).map
        (fun place => Diagnostic.ofLexError ⟨.malformedEscape, place⟩) := by
    rw [htarget, List.map_map]
    rfl
  rw [← hitems]
  refine ⟨h.declarations, lexical_items _, fun hsemicolon => h.report fun f hf fault hfault => ?_⟩
  obtain ⟨node, span⟩ := f
  obtain rfl : node = .fault fault := hfault
  have hmem := mem_errors_iff (e := ⟨fault, span⟩).mpr hf
  rw [htarget] at hmem
  obtain ⟨place, hplace, heq⟩ := List.mem_map.mp hmem
  cases heq
  obtain ⟨e, he, before, after, htext, rfl⟩ := Edit.exists_parts_of_mem tail hplace
  show semicolons _ (Text.slice _ _ _) = []
  rw [htext, Nat.zero_add, Text.slice_append]
  exact semicolons_eq_nil (hsemicolon e he) _

theorem isClean_of_parsed {source : String} (herrors : (tokenize source).errors = [])
    (hparsed : ∀ segment ∈ segments ((fragments 0 source.toList).flatMap (lexemes source)),
      (parsed? 0 segment).isSome = true) : (parseSource source).isClean = true := by
  rw [← tokens_eq] at hparsed
  rw [isClean_iff]
  exact ⟨herrors, fun segment hmem => (parsed?_isSome_iff hmem 0).mp (hparsed segment hmem)⟩

/-- The first of two declarations is spoiled. -/
theorem parseSource_malformed_first :
    (parseSource "A : 'x' ; B : 'y' ;").isClean = true ∧
      ⟨.literal "x", ⟨4, 7⟩⟩ ∈ (tokenize "A : 'x' ; B : 'y' ;").tokens ∧
      IsMalformed "'\\q'" ∧ ';' ∉ "'\\q'".toList ∧
      (parseSource "A : '\\q' ; B : 'y' ;").declarations.map Spanned.node =
        [.token "B" (.leaf (.keyword "y"))] ∧
      (parseSource "A : '\\q' ; B : 'y' ;").report.items =
        [.ofLexError ⟨.malformedEscape, ⟨4, 8⟩⟩] := by
  have hclean : (parseSource "A : 'x' ; B : 'y' ;").isClean = true :=
    isClean_of_parsed (by decide +kernel) (by decide +kernel)
  have hliteral : ⟨.literal "x", ⟨4, 7⟩⟩ ∈ (tokenize "A : 'x' ; B : 'y' ;").tokens := by
    decide +kernel
  have hmalformed : IsMalformed "'\\q'" := by decide +kernel
  have hsemicolon : ';' ∉ "'\\q'".toList := by decide +kernel
  have hsource : Edit.text Edit.literal " ; B : 'y' ;" [⟨"A : ", "'x'", "'\\q'"⟩] =
      "A : 'x' ; B : 'y' ;" := by decide +kernel
  have htarget : Edit.text Edit.replacement " ; B : 'y' ;" [⟨"A : ", "'x'", "'\\q'"⟩] =
      "A : '\\q' ; B : 'y' ;" := by decide +kernel
  rw [← hsource] at hclean hliteral
  obtain ⟨hdeclarations, -, hitems⟩ := parseSource_malformed hclean
    (fun place hplace => by
      rw [List.mem_singleton.mp hplace]
      exact ⟨"x", hliteral⟩)
    (fun e he => by rwa [List.mem_singleton.mp he])
  rw [hsource] at hclean hliteral hdeclarations
  rw [htarget] at hdeclarations hitems
  refine ⟨hclean, hliteral, hmalformed, hsemicolon, ?_,
    hitems fun e he => by rwa [List.mem_singleton.mp he]⟩
  rw [hdeclarations, declarations_eq]
  unfold segmentsOf
  rw [tokens_eq]
  decide +kernel

/-- A semicolon in a malformed literal has what is left behind it reported, since its declaration
ends there. -/
theorem parseSource_malformed_semicolon :
    (parseSource "A : 'x' ;").isClean = true ∧
      ⟨.literal "x", ⟨4, 7⟩⟩ ∈ (tokenize "A : 'x' ;").tokens ∧
      IsMalformed "'a\\q;b'" ∧
      (parseSource "A : 'a\\q;b' ;").report.items =
        [.ofLexError ⟨.malformedEscape, ⟨4, 11⟩⟩,
          ⟨.syntactic, ⟨12, 13⟩, "unexpected ';', expected one of '$', rule name, token name",
            ["'$'", "rule name", "token name"], some "';'"⟩] := by
  refine ⟨isClean_of_parsed (by decide +kernel) (by decide +kernel), by decide +kernel,
    by decide +kernel, ?_⟩
  obtain ⟨hperm, hsorted⟩ := report_items "A : 'a\\q;b' ;"
  have hitems : (tokenize "A : 'a\\q;b' ;").errors.map Diagnostic.ofLexError ++
      (segmentsOf "A : 'a\\q;b' ;").filterMap (failure? (tokenize "A : 'a\\q;b' ;").errors
        (Text.byteLength "A : 'a\\q;b' ;".toList)) =
      [.ofLexError ⟨.malformedEscape, ⟨4, 11⟩⟩,
        ⟨.syntactic, ⟨12, 13⟩, "unexpected ';', expected one of '$', rule name, token name",
          ["'$'", "rule name", "token name"], some "';'"⟩] := by
    unfold segmentsOf
    rw [tokens_eq]
    decide +kernel
  rw [hitems] at hperm
  exact List.Perm.eq_of_pairwise (fun d d' _ _ h h' => by omega) hsorted (by decide) hperm

end ParsedSource
end GrammarText
