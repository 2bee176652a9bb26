/-
Segments that malformed literals spoil.  Where literals of a clean source are replaced by malformed
ones, the segments without one of them stay, and of every other segment nothing is read: a lexical
error lies in what comes first, and the rest has no colon.
-/
import GrammarText.Proofs.Lexer.Replacement
import GrammarText.Proofs.Recovery.Fragments
import GrammarText.Proofs.Viability.Colon

namespace GrammarText

open GrammarText.Parser GrammarText.Declaration GrammarText.Lexed

/- Lists related value by value. -/

theorem forall₂_append_left {α β : Type} {R : α → β → Prop} {a b : List α} {values : List β}
    (h : List.Forall₂ R (a ++ b) values) :
    ∃ a' b', values = a' ++ b' ∧ List.Forall₂ R a a' ∧ List.Forall₂ R b b' :=
  ⟨values.take a.length, values.drop a.length, (List.take_append_drop _ _).symm,
    (List.forall₂_take_append _ _ _ h.flip).flip, (List.forall₂_drop_append _ _ _ h.flip).flip⟩

theorem forall₂_flatten {α β : Type} {R : α → β → Prop} {parts : List (List α)} {values : List β}
    (h : List.Forall₂ R parts.flatten values) :
    ∃ parts', parts'.flatten = values ∧ List.Forall₂ (List.Forall₂ R) parts parts' := by
  induction parts generalizing values with
  | nil =>
    cases h
    exact ⟨[], rfl, .nil⟩
  | cons part rest ih =>
    rw [List.flatten_cons] at h
    obtain ⟨a, b, rfl, ha, hb⟩ := forall₂_append_left h
    obtain ⟨parts', rfl, hparts⟩ := ih hb
    exact ⟨a :: parts', rfl, .cons ha hparts⟩

theorem exists_of_mem_forall₂ {α β : Type} {R : α → β → Prop} {as : List α} {bs : List β}
    (h : List.Forall₂ R as bs) {b : β} (hb : b ∈ bs) : ∃ a ∈ as, R a b := by
  induction h with
  | nil => cases hb
  | cons hab _ ih =>
    rcases List.mem_cons.mp hb with rfl | hb
    · exact ⟨_, List.mem_cons_self .., hab⟩
    · obtain ⟨a, ha, hab⟩ := ih hb
      exact ⟨a, List.mem_cons_of_mem _ ha, hab⟩

theorem flatMap_eq_of_forall₂ {α β γ : Type} {R : α → β → Prop} {f : α → List γ} {g : β → List γ}
    {as : List α} {bs : List β} (h : List.Forall₂ R as bs)
    (heq : ∀ a ∈ as, ∀ b ∈ bs, R a b → f a = g b) : as.flatMap f = bs.flatMap g := by
  induction h with
  | nil => rfl
  | cons hab _ ih =>
    rw [List.flatMap_cons, List.flatMap_cons,
      heq _ (List.mem_cons_self ..) _ (List.mem_cons_self ..) hab,
      ih fun a ha b hb => heq a (List.mem_cons_of_mem _ ha) b (List.mem_cons_of_mem _ hb)]

namespace Recovery

/-- A clean source and a text that has its fragments but for literals in some places, which are
malformed. -/
structure Spoils (places : List Span) (source target : String) : Prop where
  clean : (parseSource source).isClean
  literal : ∀ place ∈ places, ∃ text, ⟨.literal text, place⟩ ∈ (tokenize source).tokens
  edited : List.Forall₂ (Edited places) (fragments 0 source.toList) (fragments 0 target.toList)

/-- The fragments that come of the tokens of a segment. -/
def Comes (places : List Span) (segment : List Lexeme) (part : List (Spanned Fragment)) : Prop :=
  List.Forall₂ (fun t f => Edited places (fragmentOf t) f) segment part

/-- Only the end of a segment has its semicolon. -/
theorem closed_append_split {before after : List Lexeme} (h : Closed (before ++ after))
    (hne : after ≠ []) : Plain before ∧ Closed after := by
  obtain ⟨plain, semicolon, hall, hplain, hsemicolon⟩ := h
  obtain ⟨rest, last, rfl⟩ := (List.eq_nil_or_concat' after).resolve_left hne
  rw [← List.append_assoc] at hall
  obtain ⟨rfl, hlast⟩ := List.append_inj' hall rfl
  obtain rfl := (List.cons.inj hlast).1
  exact ⟨fun t ht => hplain t (List.mem_append_left _ ht), rest, last, rfl,
    fun t ht => hplain t (List.mem_append_right _ ht), hsemicolon⟩

theorem closed_behind_literal {before after : List Lexeme} {text : String} {span : Span}
    (h : Closed (before ++ ⟨.literal text, span⟩ :: after)) : Plain before ∧ Closed after := by
  obtain ⟨hplain, hliteral⟩ := closed_append_split h (List.cons_ne_nil _ _)
  rw [← List.singleton_append] at hliteral
  refine ⟨hplain, (closed_append_split hliteral ?_).2⟩
  rintro rfl
  obtain ⟨plain, semicolon, hall, -, hsemicolon⟩ := hliteral
  obtain ⟨-, hlast⟩ := List.append_inj' (show [] ++ [_] = plain ++ [semicolon] from hall) rfl
  obtain rfl := (List.cons.inj hlast).1
  cases hsemicolon

section

variable {places : List Span} {source target : String} {segment : List Lexeme}
  {part : List (Spanned Fragment)}

/-- Either all the tokens of a segment stay, or there is a first literal that does not. -/
theorem Comes.kept_or_exists (h : Comes places segment part) :
    (∃ read : List Lexeme, part = read.map fragmentOf ∧ nodes read = nodes segment ∧
      ∀ t ∈ segment, t.span ∉ places) ∨
    ∃ before text here after read there behind,
      segment = before ++ ⟨.literal text, here⟩ :: after ∧ here ∈ places ∧
      part = read.map fragmentOf ++ ⟨.fault .malformedEscape, there⟩ :: behind ∧
      nodes read = nodes before ∧ Comes places after behind := by
  induction h with
  | nil => exact .inl ⟨[], rfl, rfl, nofun⟩
  | @cons t f segment part htf hrest ih =>
    obtain ⟨node, span⟩ := t
    cases htf with
    | @replaced text _ there hinside =>
      exact .inr ⟨[], text, span, segment, [], there, part, rfl, hinside, rfl, rfl, hrest⟩
    | @kept _ _ there houtside =>
      rcases ih with ⟨read, rfl, hnodes, hclear⟩ |
        ⟨before, text, here, after, read, spoiled, behind, rfl, hinside, rfl, hnodes, hafter⟩
      · refine .inl ⟨⟨node, there⟩ :: read, rfl, congrArg (node :: ·) hnodes, fun t ht => ?_⟩
        rcases List.mem_cons.mp ht with rfl | ht
        · exact houtside
        · exact hclear t ht
      · exact .inr ⟨⟨node, span⟩ :: before, text, here, after, ⟨node, there⟩ :: read, spoiled,
          behind, rfl, hinside, rfl, congrArg (node :: ·) hnodes, hafter⟩

theorem Comes.mem_nodes (h : Comes places segment part) {f : Spanned Fragment} (hf : f ∈ part)
    {t : Token} (ht : f.node = .token t) : t ∈ nodes segment := by
  obtain ⟨⟨node, span⟩, hu, hedited⟩ := exists_of_mem_forall₂ h hf
  cases hedited with
  | replaced _ => cases ht
  | kept _ =>
    cases ht
    exact List.mem_map_of_mem hu

/-- What comes of a segment is its tokens and semicolons. -/
theorem Comes.node_of_mem (h : Comes places segment part) {t : Lexeme}
    (ht : t ∈ part.flatMap (lexemes target)) :
    t.node ∈ nodes segment ∨ t.node = .mark .semicolon := by
  obtain ⟨f, hf, ht⟩ := List.mem_flatMap.mp ht
  exact (node_of_mem_lexemes ht).imp_left (h.mem_nodes hf)

/-- The semicolon of a segment stays. -/
theorem Comes.exists_concat {before : List Lexeme} {semicolon : Lexeme}
    (hsemicolon : semicolon.node = .mark .semicolon)
    (h : Comes places (before ++ [semicolon]) part) :
    ∃ part' last, part = part' ++ [fragmentOf last] ∧ last.node = .mark .semicolon ∧
      Comes places before part' := by
  obtain ⟨part', rest, rfl, hbefore, hrest⟩ := forall₂_append_left h
  obtain ⟨node, span⟩ := semicolon
  obtain rfl : node = .mark .semicolon := hsemicolon
  cases hrest with
  | cons hlast hnil =>
    cases hnil
    cases hlast with
    | @kept _ _ there _ => exact ⟨part', ⟨.mark .semicolon, there⟩, rfl, rfl, hbefore⟩

/-- What comes of the end of a segment ends in its semicolon.  If no malformed literal has a
semicolon, that is the only one. -/
theorem Comes.exists_last (hclosed : Closed segment) (h : Comes places segment part)
    (target : String) :
    ∃ before last, part.flatMap (lexemes target) = before ++ [last] ∧
      last.node = .mark .semicolon ∧
      ((∀ f ∈ part, ∀ fault, f.node = .fault fault → lexemes target f = []) → Plain before) := by
  obtain ⟨plain, semicolon, rfl, hplain, hsemicolon⟩ := hclosed
  obtain ⟨part, last, rfl, hlast, hpart⟩ := h.exists_concat hsemicolon
  refine ⟨part.flatMap (lexemes target), last, ?_, hlast, fun hfaults t ht hnode => ?_⟩
  · rw [List.flatMap_append]
    rfl
  obtain ⟨f, hf, ht⟩ := List.mem_flatMap.mp ht
  cases hfragment : f.node with
  | skipped =>
    unfold lexemes at ht
    rw [hfragment] at ht
    cases ht
  | token u =>
    obtain ⟨v, hv, rfl⟩ := List.mem_map.mp (hpart.mem_nodes hf hfragment)
    unfold lexemes at ht
    rw [hfragment] at ht
    rw [List.mem_singleton.mp ht] at hnode
    exact hplain v hv hnode
  | fault fault =>
    rw [hfaults f (List.mem_append_left _ hf) fault hfragment] at ht
    cases ht

end

section

variable {places : List Span} {source target : String} {segment : List Lexeme}
  {part : List (Spanned Fragment)} {parts : List (List (Spanned Fragment))}

theorem Spoils.errors_eq (h : Spoils places source target) : (tokenize source).errors = [] :=
  ((ParsedSource.isClean_iff source).mp h.clean).1

theorem Spoils.declares (h : Spoils places source target) (hmem : segment ∈ segmentsOf source) :
    ∃ d, Grammar.Declares (nodes segment) d [] :=
  ((ParsedSource.isClean_iff source).mp h.clean).2 segment hmem

/-- The fragments of the text fall into the parts that come of the segments of the source. -/
theorem Spoils.exists_parts (h : Spoils places source target) :
    ∃ parts, parts.flatten = fragments 0 target.toList ∧
      List.Forall₂ (Comes places) (segmentsOf source) parts := by
  have hedited := h.edited
  rw [fragments_eq_of_errors h.errors_eq, List.forall₂_map_left_iff, ← segmentsOf_flatten]
    at hedited
  exact forall₂_flatten hedited

theorem Spoils.segmentsOf_eq (h : Spoils places source target)
    (hparts : parts.flatten = fragments 0 target.toList)
    (hcomes : List.Forall₂ (Comes places) (segmentsOf source) parts) :
    segmentsOf target = parts.flatMap fun part => segments (part.flatMap (lexemes target)) := by
  have hclosed : ∀ tokens ∈ parts.map (List.flatMap (lexemes target)),
      ∀ segment ∈ segments tokens, Closed segment := by
    -- Every part comes of a segment, and so it ends in a semicolon.
    intro tokens htokens
    obtain ⟨part, hpart, rfl⟩ := List.mem_map.mp htokens
    obtain ⟨segment, hmem, hsegment⟩ := exists_of_mem_forall₂ hcomes hpart
    obtain ⟨d, hd⟩ := h.declares hmem
    obtain ⟨before, last, hlast, hnode, -⟩ := hsegment.exists_last (closed_of_declares hd) target
    rw [hlast]
    exact closed_of_concat hnode
  have hflatten : parts.flatten.flatMap (lexemes target) =
      (parts.map (List.flatMap (lexemes target))).flatten := by
    rw [List.flatMap_def, List.map_flatten, List.flatten_flatten, List.map_map]
    rfl
  unfold segmentsOf
  rw [tokens_eq, ← hparts, hflatten, segments_flatten_of_closed hclosed, List.flatMap_map]

/- A segment that stays. -/

theorem not_isSpoiled_of_kept (hparts : parts.flatten = fragments 0 target.toList)
    {read : List Lexeme} (hread : read.map fragmentOf ∈ parts) (hclosed : Closed read)
    (stop : Nat) : isSpoiled (tokenize target).errors (region stop read) = false := by
  obtain ⟨first, hfirst, last, hlast, -, hregion⟩ := exists_region hclosed stop
  refine List.any_eq_false.mpr fun e he hover => ?_
  rw [hregion] at hover
  have hordered := fragments_pairwise 0 target.toList
  have herror := mem_errors_iff.mp he
  rw [← hparts] at hordered herror
  have hmem := mem_of_overlaps hordered hread herror (List.mem_map_of_mem hfirst)
    (List.mem_map_of_mem hlast) hover
  obtain ⟨t, -, heq⟩ := List.mem_map.mp hmem
  cases heq

/-- No place lies in a segment none of whose tokens is replaced. -/
theorem Spoils.not_overlaps (h : Spoils places source target)
    (hmem : segment ∈ segmentsOf source) (hclear : ∀ t ∈ segment, t.span ∉ places) (stop : Nat)
    {place : Span} (hplace : place ∈ places) : place.overlaps (region stop segment) = false := by
  obtain ⟨d, hd⟩ := h.declares hmem
  obtain ⟨text, ht⟩ := h.literal place hplace
  refine Bool.eq_false_iff.mpr fun hover => ?_
  exact hclear _ (mem_of_overlaps_region hmem (closed_of_declares hd) ht hover) hplace

/- A segment with a malformed literal. -/

/-- Behind a literal of a declaration there is no colon, and before it there is something. -/
theorem nodes_of_literal {before after : List Lexeme} {text : String} {span : Span}
    {d : Declaration}
    (h : Grammar.Declares (nodes (before ++ ⟨.literal text, span⟩ :: after)) d []) :
    before ≠ [] ∧ .mark .colon ∉ nodes after := by
  obtain ⟨head, body, htokens, hhead, hbody⟩ := h.exists_colon
  rw [nodes_append, nodes_cons] at htokens
  rcases List.append_eq_append_iff.mp htokens with ⟨x, rfl, hx⟩ | ⟨x, hx, hx'⟩
  · -- The colon would stand behind the literal, which would then be part of the head.
    cases x with
    | nil => cases hx
    | cons t x =>
      obtain ⟨rfl, -⟩ := List.cons.inj hx
      exact absurd rfl (hhead _ (by simp) text)
  · cases x with
    | nil => cases hx'
    | cons t x =>
      obtain ⟨rfl, rfl⟩ := List.cons.inj hx'
      refine ⟨?_, fun hcolon => hbody (by simp [hcolon])⟩
      rintro rfl
      cases head <;> cases hx

theorem not_parsed {stop : Nat} {tokens segment : List Lexeme} (hmem : segment ∈ segments tokens)
    (hcolon : .mark .colon ∉ nodes segment) : parsed? stop segment = none := by
  rw [← Option.not_isSome_iff_eq_none, parsed?_isSome_iff hmem]
  rintro ⟨d, hd⟩
  obtain ⟨head, body, htokens, -⟩ := hd.exists_colon
  exact hcolon (by simp [htokens])

theorem mem_fragments_of_part (hparts : parts.flatten = fragments 0 target.toList)
    (hpart : part ∈ parts) {f : Spanned Fragment} (hf : f ∈ part) :
    f ∈ fragments 0 target.toList := by
  rw [← hparts]
  exact List.mem_flatten.mpr ⟨part, hpart, hf⟩

section

variable {before after read : List Lexeme} {text : String} {here there : Span}
  {behind : List (Spanned Fragment)}

/-- What comes of a segment before a malformed literal starts before the literal ends.  What comes
of it from there on ends behind the start of the literal and has no colon. -/
theorem Spoils.around_malformed (h : Spoils places source target)
    (hparts : parts.flatten = fragments 0 target.toList)
    (hmem : before ++ ⟨.literal text, here⟩ :: after ∈ segmentsOf source)
    (hpart : read.map fragmentOf ++ ⟨.fault .malformedEscape, there⟩ :: behind ∈ parts)
    (hafter : Comes places after behind) :
    (∀ t ∈ read, t.span.start < there.stop) ∧
    (∀ t ∈ (⟨.fault .malformedEscape, there⟩ :: behind).flatMap (lexemes target),
      there.start < t.span.stop ∧ t.node ≠ .mark .colon) := by
  obtain ⟨d, hd⟩ := h.declares hmem
  obtain ⟨-, hcolon⟩ := nodes_of_literal hd
  have hordered := fragments_pairwise 0 target.toList
  rw [← hparts] at hordered
  obtain ⟨-, hbehind, hbefore⟩ :=
    List.pairwise_append.mp ((List.pairwise_flatten.mp hordered).1 _ hpart)
  have hfault := (span_of_mem (mem_fragments_of_part hparts hpart
    (List.mem_append_right _ (List.mem_cons_self ..)))).2.1
  refine ⟨fun t ht => ?_, fun t ht => ?_⟩
  · have hspan := (span_of_mem (mem_fragments_of_part hparts hpart
      (List.mem_append_left _ (List.mem_map_of_mem ht)))).2.1
    have hstop := hbefore _ (List.mem_map_of_mem ht) _ (List.mem_cons_self ..)
    simp only [fragmentOf] at hspan hstop hfault
    omega
  · obtain ⟨f, hf, hin⟩ := List.mem_flatMap.mp ht
    have hfragment := mem_fragments_of_part hparts hpart (List.mem_append_right _ hf)
    have hspan := (span_of_mem_lexemes hfragment hin).1
    have hpos := (tokens_ordered target).start_lt t (by
      rw [tokens_eq]
      exact List.mem_flatMap.mpr ⟨f, hfragment, hin⟩)
    rcases List.mem_cons.mp hf with rfl | hf
    · refine ⟨Nat.lt_of_le_of_lt hspan hpos, fun hnode => ?_⟩
      rcases node_of_mem_lexemes hin with hsame | hsame
      · cases hsame
      · rw [hnode] at hsame
        cases hsame
    · have hle := (List.pairwise_cons.mp hbehind).1 f hf
      simp only at hle hfault
      refine ⟨by omega, fun hnode => ?_⟩
      rcases hafter.node_of_mem (List.mem_flatMap.mpr ⟨f, hf, hin⟩) with hsame | hsame
      · exact hcolon (hnode ▸ hsame)
      · rw [hnode] at hsame
        cases hsame

/-- Of a segment with a malformed literal the lexical error spoils what comes first, and the rest
has no colon.  There is no rest if no malformed literal has a semicolon. -/
theorem Spoils.exists_spoiled (h : Spoils places source target)
    (hparts : parts.flatten = fragments 0 target.toList)
    (hmem : before ++ ⟨.literal text, here⟩ :: after ∈ segmentsOf source)
    (hpart : read.map fragmentOf ++ ⟨.fault .malformedEscape, there⟩ :: behind ∈ parts)
    (hread : nodes read = nodes before) (hafter : Comes places after behind) (stop : Nat) :
    ∃ first rest, segments ((read.map fragmentOf ++
          ⟨.fault .malformedEscape, there⟩ :: behind).flatMap (lexemes target)) = first :: rest ∧
      Closed first ∧ isSpoiled (tokenize target).errors (region stop first) = true ∧
      (∀ segment ∈ rest, .mark .colon ∉ nodes segment) ∧
      ((∀ f ∈ fragments 0 target.toList, ∀ fault, f.node = .fault fault →
        lexemes target f = []) → rest = []) := by
  obtain ⟨d, hd⟩ := h.declares hmem
  obtain ⟨hbefore, -⟩ := nodes_of_literal hd
  obtain ⟨hplain, hend⟩ := closed_behind_literal (closed_of_declares hd)
  obtain ⟨hstart, hlater⟩ := h.around_malformed hparts hmem hpart hafter
  obtain ⟨later, last, hbehind, hlast, honly⟩ := hafter.exists_last hend target
  have hfault := mem_fragments_of_part hparts hpart
    (List.mem_append_right _ (List.mem_cons_self ..))
  have hplain : Plain read := plain_of_nodes_eq hread hplain
  rw [List.flatMap_append, flatMap_lexemes_fragmentOf]
  -- What comes of the literal and of all behind it ends in the semicolon of the segment.
  generalize htail : (⟨.fault .malformedEscape, there⟩ :: behind : List (Spanned Fragment)).flatMap
    (lexemes target) = tail at hlater
  have hconcat : tail = lexemes target ⟨.fault .malformedEscape, there⟩ ++ later ++ [last] := by
    rw [← htail, List.flatMap_cons, hbehind, List.append_assoc]
  obtain ⟨first, rest, hcut, hall⟩ := segments_plain_append hplain
    (show tail ≠ [] by rw [hconcat]; exact List.append_ne_nil_of_right_ne_nil _ (by simp))
  have hin : ∀ segment ∈ first :: rest, ∀ t ∈ segment, t ∈ tail := by
    intro segment hsegment t ht
    rw [← segments_flatten tail, hcut]
    exact List.mem_flatten.mpr ⟨segment, hsegment, ht⟩
  have hclosed : ∀ segment ∈ segments tail, Closed segment := by
    rw [hconcat]
    exact closed_of_concat hlast
  rw [hcut] at hclosed
  obtain ⟨initial, semicolon, rfl, hinitial, hsemicolon⟩ := hclosed first (List.mem_cons_self ..)
  refine ⟨read ++ (initial ++ [semicolon]), rest, hall, ⟨read ++ initial, semicolon,
    (List.append_assoc ..).symm, hplain.append hinitial, hsemicolon⟩, ?_,
    fun segment hsegment hcolon => ?_, fun hfaults => ?_⟩
  · -- The first token stands before the literal and the first semicolon in it or behind it.
    cases read with
    | nil => exact absurd (List.map_eq_nil_iff.mp hread.symm) hbefore
    | cons v more =>
      have hregion := region_closed (hplain.append hinitial) hsemicolon stop
      rw [List.append_assoc] at hregion
      rw [hregion]
      exact List.any_eq_true.mpr ⟨⟨.malformedEscape, there⟩, mem_errors_iff.mpr hfault,
        Span.overlaps_iff.mpr ⟨(hlater semicolon (hin _ (List.mem_cons_self ..) _ (by simp))).1,
          hstart v (List.mem_cons_self ..)⟩⟩
  · obtain ⟨t, ht, hnode⟩ := List.mem_map.mp hcolon
    exact (hlater t (hin segment (List.mem_cons_of_mem _ hsegment) t ht)).2 hnode
  · have honly := honly fun f hf => hfaults f (mem_fragments_of_part hparts hpart
      (List.mem_append_right _ (List.mem_cons_of_mem _ hf)))
    rw [hfaults _ hfault _ rfl, List.nil_append] at hconcat
    rw [segments_of_closed ⟨later, last, hconcat, honly, hlast⟩] at hcut
    exact (List.cons.inj hcut).2.symm

end

/- One segment of the source, and what is read of its part of the text. -/

theorem run_of_declares {d : Declaration} (hd : Grammar.Declares (nodes segment) d [])
    (stop : Nat) : run Declaration.parser stop segment = .ok ⟨d, region stop segment⟩ := by
  have hrun := run_eq_ok.mpr ⟨[], hd.succeeds stop⟩
  have hspan := span_of_run (closed_of_declares hd) hrun
  simp only at hspan
  rw [hrun, hspan]

theorem parsed?_eq {d : Declaration} (hd : Grammar.Declares (nodes segment) d []) (stop : Nat) :
    parsed? stop segment = some ⟨d, region stop segment⟩ := by
  unfold parsed?
  rw [run_of_declares hd]
  rfl

theorem failure?_eq_none {d : Declaration} (hd : Grammar.Declares (nodes segment) d [])
    (errors : List LexError) (stop : Nat) : failure? errors stop segment = none := by
  unfold failure?
  rw [run_of_declares hd]

/-- What a lexical error spoils is neither a declaration nor a failure. -/
theorem spoiled_outcome {errors : List LexError} {stop : Nat} (hclosed : Closed segment)
    (hspoiled : isSpoiled errors (region stop segment) = true) :
    (∀ d, parsed? stop segment = some d → isSpoiled errors d.span = true) ∧
      failure? errors stop segment = none := by
  unfold parsed? failure?
  cases hrun : run Declaration.parser stop segment with
  | ok d =>
    refine ⟨fun d' hd' => ?_, rfl⟩
    obtain rfl := Option.some.inj hd'
    rwa [span_of_run hclosed hrun]
  | error e => exact ⟨nofun, if_pos hspoiled⟩

/-- A declaration is read of the part if the segment has none of the places, and else none. -/
theorem Spoils.declarations_of_part (h : Spoils places source target)
    (hparts : parts.flatten = fragments 0 target.toList) (hmem : segment ∈ segmentsOf source)
    (hpart : part ∈ parts) (hcomes : Comes places segment part) (stop' : Nat) :
    ((parsed? (Text.byteLength source.toList) segment).toList.filter fun d =>
        places.all fun place => !place.overlaps d.span).map Spanned.node =
      (((segments (part.flatMap (lexemes target))).filterMap (parsed? stop')).filter fun d =>
        !isSpoiled (tokenize target).errors d.span).map Spanned.node := by
  obtain ⟨d, hd⟩ := h.declares hmem
  rw [parsed?_eq hd, Option.toList_some, List.filter_singleton]
  rcases hcomes.kept_or_exists with ⟨read, rfl, hnodes, hclear⟩ |
    ⟨before, text, here, after, read, there, behind, rfl, hinside, rfl, hread, hafter⟩
  · have hread : Grammar.Declares (nodes read) d [] := hnodes ▸ hd
    have hclosed := closed_of_declares hread
    have hall : (places.all fun place =>
        !place.overlaps (region (Text.byteLength source.toList) segment)) = true :=
      List.all_eq_true.mpr fun place hplace => by
        rw [h.not_overlaps hmem hclear _ hplace]
        rfl
    rw [flatMap_lexemes_fragmentOf, segments_of_closed hclosed,
      List.filterMap_cons_some (parsed?_eq hread stop'), List.filterMap_nil,
      List.filter_singleton, not_isSpoiled_of_kept hparts hpart hclosed, hall]
    rfl
  · obtain ⟨first, rest, hcut, hfirst, hspoiled, hcolon, -⟩ :=
      h.exists_spoiled hparts hmem hpart hread hafter stop'
    have hplace := region_of_mem hmem (t := ⟨.literal text, here⟩) (by simp)
    have hpos := (tokens_ordered source).start_lt ⟨.literal text, here⟩
      (mem_tokens_of_mem hmem (by simp))
    have hall : (places.all fun place => !place.overlaps (region (Text.byteLength source.toList)
        (before ++ ⟨.literal text, here⟩ :: after))) = false := by
      have hover : here.overlaps _ = true :=
        Span.overlaps_iff.mpr ⟨Nat.lt_of_lt_of_le hpos hplace.2, Nat.lt_of_le_of_lt hplace.1 hpos⟩
      refine List.all_eq_false.mpr ⟨here, hinside, ?_⟩
      rw [hover]
      decide
    have hnone : ((first :: rest).filterMap (parsed? stop')).filter
        (fun d => !isSpoiled (tokenize target).errors d.span) = [] := by
      refine List.filter_eq_nil_iff.mpr fun d' hd' => ?_
      obtain ⟨other, hother, hparsed⟩ := List.mem_filterMap.mp hd'
      rcases List.mem_cons.mp hother with rfl | hother
      · rw [(spoiled_outcome hfirst hspoiled).1 d' hparsed]
        decide
      · rw [not_parsed (hcut ▸ List.mem_cons_of_mem _ hother) (hcolon other hother)] at hparsed
        cases hparsed
    rw [hcut, hnone, hall]
    rfl

/-- No failure is reported of the part if no malformed literal has a semicolon. -/
theorem Spoils.failures_of_part (h : Spoils places source target)
    (hparts : parts.flatten = fragments 0 target.toList) (hmem : segment ∈ segmentsOf source)
    (hpart : part ∈ parts) (hcomes : Comes places segment part)
    (hfaults : ∀ f ∈ fragments 0 target.toList, ∀ fault, f.node = .fault fault →
      lexemes target f = []) (stop : Nat) :
    (segments (part.flatMap (lexemes target))).filterMap
      (failure? (tokenize target).errors stop) = [] := by
  obtain ⟨d, hd⟩ := h.declares hmem
  rcases hcomes.kept_or_exists with ⟨read, rfl, hnodes, -⟩ |
    ⟨before, text, here, after, read, there, behind, rfl, -, rfl, hread, hafter⟩
  · have hread : Grammar.Declares (nodes read) d [] := hnodes ▸ hd
    rw [flatMap_lexemes_fragmentOf, segments_of_closed (closed_of_declares hread),
      List.filterMap_cons_none (failure?_eq_none hread _ _), List.filterMap_nil]
  · obtain ⟨first, rest, hcut, hfirst, hspoiled, -, hrest⟩ :=
      h.exists_spoiled hparts hmem hpart hread hafter stop
    rw [hcut, hrest hfaults, List.filterMap_cons_none (spoiled_outcome hfirst hspoiled).2,
      List.filterMap_nil]

end

end Recovery

section

open GrammarText.Recovery

variable {places : List Span} {source target : String}

theorem Recovery.Spoils.declarations (h : Spoils places source target) :
    (parseSource target).declarations.map Spanned.node =
      ((parseSource source).declarations.filter fun d =>
        places.all fun place => !place.overlaps d.span).map Spanned.node := by
  obtain ⟨parts, hparts, hcomes⟩ := h.exists_parts
  have hsource : ∀ d, isSpoiled (tokenize source).errors d = false := fun d => by
    rw [h.errors_eq]
    rfl
  rw [ParsedSource.declarations_eq, ParsedSource.declarations_eq, h.segmentsOf_eq hparts hcomes]
  simp only [hsource, Bool.not_false, List.filter_true, List.filterMap_flatMap,
    List.filter_flatMap, List.map_flatMap]
  rw [List.filterMap_eq_flatMap_toList, List.filter_flatMap, List.map_flatMap]
  exact (flatMap_eq_of_forall₂ hcomes fun segment hmem part hpart hR =>
    h.declarations_of_part hparts hmem hpart hR _).symm

theorem Recovery.Spoils.report (h : Spoils places source target)
    (hfaults : ∀ f ∈ fragments 0 target.toList, ∀ fault, f.node = .fault fault →
      lexemes target f = []) :
    (parseSource target).report.items = (tokenize target).errors.map Diagnostic.ofLexError := by
  obtain ⟨parts, hparts, hcomes⟩ := h.exists_parts
  have hnone : (segmentsOf target).filterMap
      (failure? (tokenize target).errors (Text.byteLength target.toList)) = [] := by
    rw [h.segmentsOf_eq hparts hcomes, List.filterMap_flatMap]
    refine List.flatMap_eq_nil_iff.mpr fun part hpart => ?_
    obtain ⟨segment, hmem, hR⟩ := exists_of_mem_forall₂ hcomes hpart
    exact h.failures_of_part hparts hmem hpart hR hfaults _
  have hperm := (ParsedSource.report_items target).1
  rw [hnone, List.append_nil] at hperm
  rw [← ParsedSource.lexical_items, List.filter_eq_self.mpr fun d hd => ?_]
  obtain ⟨e, -, rfl⟩ := List.mem_map.mp (hperm.mem_iff.mp hd)
  rfl

end

end GrammarText
