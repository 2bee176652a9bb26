/-
Recovery reads the tokens segment by segment.  A segment is what stands up to a semicolon and the
semicolon, or what stands behind the last one.  Every segment is parsed once, and what becomes of it
depends on no other.
-/
import GrammarText.Proofs.Parser.Recursion
import GrammarText.Proofs.Recovery.Stream

namespace GrammarText
namespace Recovery

open GrammarText.Parser GrammarText.Declaration

/-- The tokens cut behind every semicolon. -/
def segments : List Lexeme → List (List Lexeme)
  | [] => []
  | t :: rest =>
      if t.node = .mark .semicolon then [t] :: segments rest
      else
        match segments rest with
        | [] => [[t]]
        | segment :: more => (t :: segment) :: more

/-- The segments of the tokens that are parsed of a source. -/
def segmentsOf (source : String) : List (List Lexeme) :=
  segments (tokens source (tokenize source))

/-- From the start of a segment to the end of its semicolon, or to the end of the source. -/
def region (stop : Nat) (segment : List Lexeme) : Span where
  start :=
    match segment with
    | [] => stop
    | first :: _ => first.span.start
  stop :=
    match cut? segment with
    | some (semicolon, _) => semicolon.span.stop
    | none => stop

/-- What becomes of a segment whose first token has the given index. -/
def outcome (stop index : Nat) (segment : List Lexeme) : Step :=
  match run Declaration.parser stop segment with
  | .ok d => .read d
  | .error e => .skipped (region stop segment) (index + segment.length) e

def outcomes (stop : Nat) : Nat → List (List Lexeme) → List Step
  | _, [] => []
  | index, segment :: more =>
      outcome stop index segment :: outcomes stop (index + segment.length) more

theorem segments_flatten (tokens : List Lexeme) : (segments tokens).flatten = tokens := by
  induction tokens with
  | nil => rfl
  | cons t rest ih =>
    rw [segments]
    split
    · rw [List.flatten_cons, ih, List.singleton_append]
    · split
      · rename_i hnil
        rw [hnil] at ih
        rw [← ih]
        rfl
      · rename_i hcons
        rw [hcons] at ih
        rw [← ih]
        rfl

theorem segments_plain {tokens : List Lexeme} (h : Plain tokens) (hne : tokens ≠ []) :
    segments tokens = [tokens] := by
  induction tokens with
  | nil => exact absurd rfl hne
  | cons t rest ih =>
    rw [segments, if_neg (h t (List.mem_cons_self ..))]
    cases rest with
    | nil => rfl
    | cons u more =>
      rw [ih (fun v hv => h v (List.mem_cons_of_mem _ hv)) (List.cons_ne_nil _ _)]

theorem segments_closed {segment : List Lexeme} (h : Closed segment) (later : List Lexeme) :
    segments (segment ++ later) = segment :: segments later := by
  obtain ⟨before, semicolon, rfl, hplain, hsemicolon⟩ := h
  induction before with
  | nil => exact if_pos hsemicolon
  | cons t rest ih =>
    have hrest := ih fun v hv => hplain v (List.mem_cons_of_mem _ hv)
    rw [List.cons_append, List.cons_append, segments, if_neg (hplain t (List.mem_cons_self ..)),
      hrest]

theorem segments_of_closed {segment : List Lexeme} (h : Closed segment) :
    segments segment = [segment] := by
  have hwhole := segments_closed h []
  rwa [List.append_nil] at hwhole

/-- Tokens are cut by what they are and not by where they stand. -/
theorem segments_map {f : Lexeme → Lexeme} (hf : ∀ t, (f t).node = t.node)
    (tokens : List Lexeme) : segments (tokens.map f) = (segments tokens).map (List.map f) := by
  induction tokens with
  | nil => rfl
  | cons t rest ih =>
    rw [List.map_cons, segments, segments, ih, hf]
    split
    · rfl
    · cases segments rest <;> rfl

theorem plain_of_nodes_eq {a b : List Lexeme} (h : nodes a = nodes b) (hplain : Plain b) :
    Plain a := by
  intro t ht hnode
  have hin : t.node ∈ nodes a := List.mem_map_of_mem ht
  rw [h] at hin
  obtain ⟨u, hu, hsame⟩ := List.mem_map.mp hin
  exact hplain u hu (hsame.trans hnode)

theorem closed_of_nodes_eq {a b : List Lexeme} (h : nodes a = nodes b) (hclosed : Closed b) :
    Closed a := by
  obtain ⟨before, semicolon, rfl, hplain, hsemicolon⟩ := hclosed
  rw [nodes_append] at h
  obtain ⟨before', last, rfl, hbefore, hlast⟩ := List.map_eq_append_iff.mp h
  obtain ⟨semicolon', rfl, hnode⟩ := List.map_eq_singleton_iff.mp hlast
  exact ⟨before', semicolon', rfl, plain_of_nodes_eq hbefore hplain, hnode.trans hsemicolon⟩

/-- An induction over tokens goes from what stands behind the first segment to the whole. -/
theorem segment_induction {motive : List Lexeme → Prop} (nil : motive [])
    (last : ∀ first rest, Plain (first :: rest) → motive (first :: rest))
    (closed : ∀ segment later, Closed segment → motive later → motive (segment ++ later))
    (tokens : List Lexeme) : motive tokens := by
  -- What stands in front of a semicolon is collected until the semicolon is met.
  have hbefore : ∀ (rest before : List Lexeme), Plain before → motive (before ++ rest) := by
    intro rest
    induction rest with
    | nil =>
      intro before hplain
      rw [List.append_nil]
      cases before with
      | nil => exact nil
      | cons first rest => exact last first rest hplain
    | cons t rest ih =>
      intro before hplain
      by_cases ht : t.node = .mark .semicolon
      · have := closed (before ++ [t]) rest ⟨before, t, rfl, hplain, ht⟩ (ih [] plain_nil)
        rwa [List.append_assoc] at this
      · have := ih (before ++ [t]) (hplain.append fun u hu => by
          rw [List.mem_singleton.mp hu]
          exact ht)
        rwa [List.append_assoc] at this
  exact hbefore tokens [] plain_nil

theorem closed_ne_nil {segment : List Lexeme} (h : Closed segment) : segment ≠ [] := by
  obtain ⟨before, semicolon, rfl, -⟩ := h
  exact List.append_ne_nil_of_right_ne_nil _ (List.cons_ne_nil _ _)

/-- A segment has its semicolon unless it is the last. -/
theorem closed_or_plain {tokens segment : List Lexeme} (h : segment ∈ segments tokens) :
    Closed segment ∨ (Plain segment ∧ segment ≠ []) := by
  induction tokens using segment_induction with
  | nil => cases h
  | last first rest hplain =>
    rw [segments_plain hplain (List.cons_ne_nil _ _), List.mem_singleton] at h
    subst h
    exact .inr ⟨hplain, List.cons_ne_nil _ _⟩
  | closed segment' later hclosed ih =>
    rw [segments_closed hclosed] at h
    rcases List.mem_cons.mp h with rfl | h
    · exact .inl hclosed
    · exact ih h

theorem segments_pairwise_closed (tokens : List Lexeme) :
    (segments tokens).Pairwise fun segment _ => Closed segment := by
  induction tokens using segment_induction with
  | nil => exact .nil
  | last first rest hplain =>
    rw [segments_plain hplain (List.cons_ne_nil _ _)]
    exact List.pairwise_singleton ..
  | closed segment later hclosed ih =>
    rw [segments_closed hclosed]
    exact .cons (fun _ _ => hclosed) ih

theorem cut?_plain {tokens : List Lexeme} (h : Plain tokens) : cut? tokens = none := by
  induction tokens with
  | nil => rfl
  | cons t rest ih =>
    rw [cut?, if_neg (h t (List.mem_cons_self ..))]
    exact ih fun u hu => h u (List.mem_cons_of_mem _ hu)

theorem cut?_append {before : List Lexeme} {semicolon : Lexeme} (h : Plain before)
    (hsemicolon : semicolon.node = .mark .semicolon) (later : List Lexeme) :
    cut? (before ++ semicolon :: later) = some (semicolon, later) := by
  induction before with
  | nil => exact if_pos hsemicolon
  | cons t rest ih =>
    rw [List.cons_append, cut?, if_neg (h t (List.mem_cons_self ..))]
    exact ih fun u hu => h u (List.mem_cons_of_mem _ hu)

/- One segment, parsed. -/

/-- What stands behind a semicolon has no part in what becomes of the segment, nor has the end of
the source. -/
theorem run_closed {segment : List Lexeme} (h : Closed segment) (stop stop' : Nat)
    (later : List Lexeme) :
    run Declaration.parser stop (segment ++ later) = run Declaration.parser stop' segment := by
  obtain ⟨before, semicolon, rfl, hplain, hsemicolon⟩ := h
  have hwindow : Window stop stop' (before ++ [semicolon]) later :=
    .cut stop' later hplain hsemicolon
  have hsame := (Declaration.parser_alike _).same hwindow (Nat.lt_succ_self _)
  unfold run
  rw [hsame]
  cases Declaration.parser stop' (before ++ [semicolon]) <;> rfl

/-- A declaration ends in a semicolon. -/
theorem not_run_plain {tokens : List Lexeme} (h : Plain tokens) (stop : Nat)
    (d : Spanned Declaration) : run Declaration.parser stop tokens ≠ .ok d := by
  intro hrun
  obtain ⟨rest, hd⟩ := run_eq_ok.mp hrun
  obtain ⟨read, rfl, before, semicolon, rfl, -, hsemicolon⟩ := Declaration.parser_takes hd
  exact h semicolon (by simp) hsemicolon

/-- Two ways to cut a list behind its first semicolon are the same. -/
theorem closed_append_inj {a b later later' : List Lexeme} (ha : Closed a) (hb : Closed b)
    (h : a ++ later = b ++ later') : a = b ∧ later = later' := by
  have hsegments := congrArg segments h
  rw [segments_closed ha, segments_closed hb] at hsegments
  obtain ⟨rfl, -⟩ := List.cons.inj hsegments
  exact ⟨rfl, List.append_cancel_left h⟩

/-- A declaration takes the whole of its segment. -/
theorem succeeds_of_run {segment : List Lexeme} (h : Closed segment) {stop : Nat}
    {d : Spanned Declaration} (hrun : run Declaration.parser stop segment = .ok d) :
    Succeeds Declaration.parser stop segment d [] := by
  obtain ⟨rest, hd⟩ := run_eq_ok.mp hrun
  obtain ⟨read, hread, hclosed⟩ := Declaration.parser_takes hd
  rw [← List.append_nil segment] at hread
  obtain ⟨-, rfl⟩ := closed_append_inj h hclosed hread
  exact hd

theorem region_closed {before : List Lexeme} {semicolon : Lexeme} (h : Plain before)
    (hsemicolon : semicolon.node = .mark .semicolon) (stop : Nat) :
    region stop (before ++ [semicolon]) =
      ⟨(before.head?.getD semicolon).span.start, semicolon.span.stop⟩ := by
  unfold region
  rw [cut?_append h hsemicolon]
  cases before <;> rfl

/-- The range of a declaration is the region of its segment. -/
theorem span_of_run {segment : List Lexeme} (h : Closed segment) {stop : Nat}
    {d : Spanned Declaration} (hrun : run Declaration.parser stop segment = .ok d) :
    d.span = region stop segment := by
  rw [(succeeds_spanned.mp (succeeds_of_run h hrun)).2]
  obtain ⟨before, semicolon, rfl, hplain, hsemicolon⟩ := h
  rw [region_closed hplain hsemicolon]
  unfold spanBetween
  rw [List.length_nil, Nat.sub_zero, List.take_length, List.getLast?_concat]
  cases before <;> rfl

/-- An error in a segment is at one of its tokens, or at the end of the source if the segment has
no semicolon. -/
theorem error_start {segment : List Lexeme} {stop : Nat} {e : ParseError}
    (hrun : run Declaration.parser stop segment = .error e) :
    (∃ t ∈ segment, t.span.start = e.span.start) ∨ (¬ Closed segment ∧ e.span.start = stop) := by
  have hplace : ∀ stop', run Declaration.parser stop' segment = .error e →
      Place stop' segment e.span.start := by
    intro stop' h
    have hlocated := (Declaration.parser_alike _).located stop' (Nat.lt_succ_self segment.length)
    unfold run at h
    cases hp : Declaration.parser stop' segment with
    | done value rest setback =>
      rw [hp] at h
      cases h
    | failed setback =>
      rw [hp] at h hlocated
      cases h
      exact hlocated
  by_cases hclosed : Closed segment
  · -- The end of the source is out of the question since any other would do as well.
    have hmoved : run Declaration.parser (e.span.start + 1) segment = .error e := by
      rw [← hrun, ← run_closed hclosed stop (e.span.start + 1) [], List.append_nil]
    rcases hplace _ hmoved with h | h
    · omega
    · exact .inl h
  · rcases hplace _ hrun with h | h
    · exact .inr ⟨hclosed, h⟩
    · exact .inl h

/- All segments in turn. -/

theorem step_plain {first : Lexeme} {rest : List Lexeme} (h : Plain (first :: rest))
    (stop index : Nat) :
    step stop index first rest = (outcome stop index (first :: rest), []) := by
  unfold step outcome region
  cases hrun : run Declaration.parser stop (first :: rest) with
  | ok d => exact absurd hrun (not_run_plain h stop d)
  | error e =>
    rw [cut?_plain h]
    rfl

/-- The tokens that start before a semicolon ends are those up to the semicolon. -/
theorem dropWhile_ordered {stop : Nat} {before later : List Lexeme} {semicolon : Lexeme}
    (h : Ordered stop (before ++ [semicolon] ++ later)) :
    ((before ++ [semicolon] ++ later).dropWhile fun t => t.span.start < semicolon.span.stop) =
      later := by
  obtain ⟨hread, -, hbehind⟩ := List.pairwise_append.mp h.pairwise
  have hbefore := (List.pairwise_append.mp hread).2.2
  have hall : ∀ t ∈ before ++ [semicolon],
      decide (t.span.start < semicolon.span.stop) = true := by
    intro t ht
    rw [decide_eq_true_eq]
    have hpos := h.start_lt t (List.mem_append_left _ ht)
    rcases List.mem_append.mp ht with hin | hin
    · have hle := hbefore t hin semicolon (List.mem_singleton_self _)
      have hlast := h.start_lt semicolon (by simp)
      omega
    · rwa [List.mem_singleton.mp hin] at hpos ⊢
  rw [List.dropWhile_append_of_pos hall]
  cases later with
  | nil => rfl
  | cons u more =>
    have hle := hbehind semicolon (by simp) u (List.mem_cons_self ..)
    rw [List.dropWhile_cons_of_neg]
    rw [decide_eq_true_eq]
    omega

/-- A step through a segment goes on right behind its semicolon, whether a declaration was read
there or not. -/
theorem step_closed {first : Lexeme} {rest later : List Lexeme} (h : Closed (first :: rest))
    {stop : Nat} (hordered : Ordered stop (first :: rest ++ later)) (index : Nat) :
    step stop index first (rest ++ later) = (outcome stop index (first :: rest), later) := by
  unfold step outcome
  rw [← List.cons_append, run_closed h stop stop later]
  obtain ⟨before, semicolon, hall, hplain, hsemicolon⟩ := id h
  have hcut : cut? (first :: rest ++ later) = some (semicolon, later) := by
    rw [hall, List.append_assoc, List.singleton_append, cut?_append hplain hsemicolon]
  have hregion : region stop (first :: rest) = ⟨first.span.start, semicolon.span.stop⟩ := by
    unfold region
    rw [hall, cut?_append hplain hsemicolon, ← hall]
  cases hrun : run Declaration.parser stop (first :: rest) with
  | ok d =>
    have hstop : d.span.stop = semicolon.span.stop := by
      rw [span_of_run h hrun, hregion]
    rw [hall] at hordered
    simp only
    rw [hstop, hall, dropWhile_ordered hordered]
  | error e =>
    simp only
    rw [hcut, hregion, List.length_append, List.length_cons]
    simp only [Prod.mk.injEq, and_true, Step.skipped.injEq, true_and]
    omega

/-- The steps through the tokens are what becomes of the segments, one after another, and the limit
cuts none of them off. -/
theorem steps_eq_outcomes {stop limit : Nat} {tokens : List Lexeme} (hlimit : tokens.length ≤ limit)
    (hordered : Ordered stop tokens) (index : Nat) :
    steps stop limit index tokens = outcomes stop index (segments tokens) := by
  induction tokens using segment_induction generalizing limit index with
  | nil => cases limit <;> rfl
  | last first rest hplain =>
    obtain ⟨limit, rfl⟩ := Nat.exists_eq_add_of_le' (Nat.le_trans (Nat.le_add_left 1 _) hlimit)
    rw [steps, step_plain hplain, segments_plain hplain (List.cons_ne_nil _ _)]
    cases limit <;> rfl
  | closed segment later hclosed ih =>
    cases segment with
    | nil => exact absurd rfl (closed_ne_nil hclosed)
    | cons first rest =>
      rw [List.cons_append, List.length_cons, List.length_append] at hlimit
      obtain ⟨limit, rfl⟩ := Nat.exists_eq_add_of_le' (Nat.le_trans (Nat.le_add_left 1 _) hlimit)
      rw [segments_closed hclosed, List.cons_append, steps, step_closed hclosed hordered, outcomes]
      simp only
      rw [ih (by omega) hordered.of_append_right, List.length_append]
      congr 2
      rw [List.length_cons]
      omega

theorem segmentsOf_flatten (source : String) :
    (segmentsOf source).flatten = tokens source (tokenize source) :=
  segments_flatten _

theorem segmentsOf_ordered (source : String) :
    Ordered (Text.byteLength source.toList) (segmentsOf source).flatten :=
  segmentsOf_flatten source ▸ tokens_ordered source

/-- Every segment stops before the next one starts. -/
theorem segmentsOf_pairwise (source : String) : (segmentsOf source).Pairwise fun a b =>
    ∀ t ∈ a, ∀ u ∈ b, t.span.stop ≤ u.span.start :=
  (List.pairwise_flatten.mp (segmentsOf_ordered source).pairwise).2

theorem pairwise_of_mem {source : String} {segment : List Lexeme}
    (h : segment ∈ segmentsOf source) :
    segment.Pairwise fun a b => a.span.stop ≤ b.span.start :=
  (List.pairwise_flatten.mp (segmentsOf_ordered source).pairwise).1 segment h

theorem mem_tokens_of_mem {source : String} {segment : List Lexeme}
    (h : segment ∈ segmentsOf source) {t : Lexeme} (ht : t ∈ segment) :
    t ∈ tokens source (tokenize source) := by
  rw [← segmentsOf_flatten]
  exact List.mem_flatten.mpr ⟨segment, h, ht⟩

theorem trace_steps (source : String) :
    (trace source).steps = outcomes (Text.byteLength source.toList) 0 (segmentsOf source) :=
  steps_eq_outcomes (Nat.le_refl _) (tokens_ordered source) 0

end Recovery
end GrammarText
