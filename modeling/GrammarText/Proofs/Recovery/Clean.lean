/-
Sources without lexical errors.  Such a source is parsed as it was lexed and nothing that is read of
it is left out.  So the declarations that the parts of its tokens derive are the declarations of the
source.
-/
import GrammarText.Proofs.Recovery.Report

namespace GrammarText

open GrammarText.Parser GrammarText.Recovery

namespace Recovery

open GrammarText.Declaration

/-- A text whose lexical errors have no semicolon in them is parsed as it was lexed. -/
theorem tokens_of_swallowed_nil {source : String}
    (h : swallowed source (tokenize source).errors = []) :
    tokens source (tokenize source) = (tokenize source).tokens := by
  unfold tokens
  rw [h, List.append_nil]
  refine List.mergeSort_of_pairwise ((Lexed.tokens_pairwise source).imp_of_mem ?_)
  intro a b ha _ hab
  have hpos := (Lexed.span_of_mem_tokens ha).1
  rw [decide_eq_true_eq]
  omega

theorem tokens_of_errors_nil {source : String} (h : (tokenize source).errors = []) :
    tokens source (tokenize source) = (tokenize source).tokens :=
  tokens_of_swallowed_nil (by rw [h]; rfl)

theorem segmentsOf_of_errors_nil {source : String} (h : (tokenize source).errors = []) :
    segmentsOf source = segments (tokenize source).tokens := by
  unfold segmentsOf
  rw [tokens_of_errors_nil h]

/-- Tokens put together from declarations are cut into the declarations. -/
theorem segments_of_declares {parts : List (List Token)} {declarations : List Declaration}
    (h : List.Forall₂ (fun part d => Grammar.Declares part d []) parts declarations)
    {tokens : List Lexeme} (htokens : nodes tokens = parts.flatten) :
    List.Forall₂ (fun segment d => Grammar.Declares (nodes segment) d []) (segments tokens)
      declarations := by
  induction h generalizing tokens with
  | nil =>
    obtain rfl : tokens = [] := List.map_eq_nil_iff.mp htokens
    exact .nil
  | cons hd _ ih =>
    rw [List.flatten_cons] at htokens
    obtain ⟨segment, later, rfl, rfl, hlater⟩ := List.map_eq_append_iff.mp htokens
    rw [segments_closed (closed_of_declares hd)]
    exact .cons hd (ih hlater)

theorem map_filterMap_parsed? {cut : List (List Lexeme)} {declarations : List Declaration}
    (h : List.Forall₂ (fun segment d => Grammar.Declares (nodes segment) d []) cut declarations)
    (stop : Nat) : (cut.filterMap (parsed? stop)).map Spanned.node = declarations := by
  induction h with
  | nil => rfl
  | cons hd _ ih => rw [List.filterMap_cons_some (parsed?_of_declares hd), List.map_cons, ih]

end Recovery

namespace ParsedSource

theorem declarations_of_errors_nil {source : String} (h : (tokenize source).errors = []) :
    (parseSource source).declarations =
      (segmentsOf source).filterMap (parsed? (Text.byteLength source.toList)) := by
  rw [declarations_eq, h]
  exact List.filter_eq_self.mpr fun _ _ => rfl

/-- The diagnostics of a text without lexical errors are those of its segments, in their order. -/
theorem report_of_errors_nil {source : String} (h : (tokenize source).errors = []) :
    (parseSource source).report.items =
      (segmentsOf source).filterMap (failure? [] (Text.byteLength source.toList)) := by
  obtain ⟨hperm, hsorted⟩ := report_items source
  have hincreasing := failures_increasing source
  rw [h, List.map_nil, List.nil_append] at hperm
  rw [h] at hincreasing
  exact hperm.eq_of_pairwise (fun _ _ _ _ _ _ => by omega) hsorted hincreasing

/-- A text that reads as declarations one behind the other has these declarations and is clean. -/
theorem parseSource_of_declares {parts : List (List Token)} {declarations : List Declaration}
    (h : List.Forall₂ (fun part d => Grammar.Declares part d []) parts declarations)
    {source : String} (hreading : Lexed.reading source.toList = parts.flatten.map Fragment.token) :
    (parseSource source).isClean ∧
      (parseSource source).declarations.map Spanned.node = declarations := by
  obtain ⟨herrors, hnodes⟩ := (Lexed.tokenize_eq_iff _ _).mpr hreading
  have hcut := segments_of_declares h hnodes
  rw [← segmentsOf_of_errors_nil herrors] at hcut
  constructor
  · refine (isClean_iff _).mpr ⟨herrors, fun segment hmem => ?_⟩
    obtain ⟨i, hi, rfl⟩ := List.getElem_of_mem hmem
    exact ⟨_, hcut.get hi (hcut.length_eq ▸ hi)⟩
  · rw [declarations_of_errors_nil herrors]
    exact map_filterMap_parsed? hcut _

end ParsedSource
end GrammarText
