/-
A text as one list of fragments.  The tokens and the lexical errors of a text are two selections
from the list of its fragments, in which every fragment ends before the next one starts.  What the
fragments are depends on no offset, so `Lexed.reading` gives them without their ranges.
-/
import GrammarText.Lexer
import GrammarText.Proofs.Parser.Nodes

namespace GrammarText

namespace Text

theorem append_inj_of_byteLength {a a' b b' : List Char} (h : a ++ b = a' ++ b')
    (hlength : byteLength a = byteLength a') : a = a' ∧ b = b' := by
  have ha : a = a' := by
    rw [← takeBytes_append a b, h, hlength, takeBytes_append]
  subst ha
  exact ⟨rfl, List.append_cancel_left h⟩

/-- Of two places in a text the first is before the second. -/
theorem exists_between {a a' b b' : List Char} (h : a ++ b = a' ++ b')
    (hle : byteLength a ≤ byteLength a') : ∃ inside, a' = a ++ inside ∧ b = inside ++ b' := by
  rcases List.append_eq_append_iff.mp h with hinside | ⟨inside, rfl, rfl⟩
  · exact hinside
  · cases inside with
    | nil => exact ⟨[], by simp, rfl⟩
    | cons c rest =>
      have := c.utf8Size_pos
      rw [byteLength_append, byteLength] at hle
      omega

end Text

namespace Lexed

/-- The fragments of a text that starts at an offset, without those that are skipped. -/
def fragments (offset : Nat) (text : List Char) : List (Spanned Fragment) :=
  match text with
  | [] => []
  | c :: rest =>
      let found := Match.ofHead c rest
      let stop := offset + c.utf8Size + Text.byteLength (rest.take found.tail)
      let later := fragments stop (rest.drop found.tail)
      if found.fragment = .skipped then later else ⟨found.fragment, ⟨offset, stop⟩⟩ :: later
  termination_by text.length
  decreasing_by
    rw [List.length_drop, List.length_cons]
    omega

/-- What the fragments of a text are, in order. -/
def reading (text : List Char) : List Fragment :=
  (fragments 0 text).map Spanned.node

/-- The token of a fragment that is one. -/
def lexeme? (f : Spanned Fragment) : Option Lexeme :=
  match f.node with
  | .token t => some ⟨t, f.span⟩
  | _ => none

/-- The error of a fragment that is no token. -/
def lexError? (f : Spanned Fragment) : Option LexError :=
  match f.node with
  | .fault fault => some ⟨fault, f.span⟩
  | _ => none

theorem fragments_nil (offset : Nat) : fragments offset [] = [] := by
  rw [fragments]

theorem fragments_cons (offset : Nat) (c : Char) (rest : List Char) :
    fragments offset (c :: rest) =
      let found := Match.ofHead c rest
      let stop := offset + c.utf8Size + Text.byteLength (rest.take found.tail)
      if found.fragment = .skipped then fragments stop (rest.drop found.tail)
      else ⟨found.fragment, ⟨offset, stop⟩⟩ :: fragments stop (rest.drop found.tail) := by
  rw [fragments]

/-- An induction over a text goes from what stands behind the first fragment to the whole. -/
theorem fragment_induction {motive : List Char → Prop} (nil : motive [])
    (cons : ∀ c rest, motive (rest.drop (Match.ofHead c rest).tail) → motive (c :: rest))
    (text : List Char) : motive text := by
  induction hlen : text.length using Nat.strongRecOn generalizing text with
  | ind n ih =>
    cases text with
    | nil => exact nil
    | cons c rest =>
      refine cons c rest (ih _ ?_ _ rfl)
      rw [← hlen, List.length_drop, List.length_cons]
      omega

theorem scan_eq (offset : Nat) (text : List Char) :
    scan offset text =
      ⟨(fragments offset text).filterMap lexeme?, (fragments offset text).filterMap lexError?⟩ := by
  induction text using fragment_induction generalizing offset with
  | nil =>
    rw [scan, fragments_nil]
    rfl
  | cons c rest ih =>
    rw [scan, fragments_cons]
    simp only [ih]
    cases hf : (Match.ofHead c rest).fragment with
    | skipped => rfl
    | token t => rfl
    | fault f => rfl

theorem mem_tokens_iff {source : String} {t : Lexeme} :
    t ∈ (tokenize source).tokens ↔ ⟨.token t.node, t.span⟩ ∈ fragments 0 source.toList := by
  unfold tokenize
  rw [scan_eq]
  constructor
  · intro h
    obtain ⟨⟨node, span⟩, hf, hsome⟩ := List.mem_filterMap.mp h
    cases node with
    | token u =>
      cases hsome
      exact hf
    | skipped => cases hsome
    | fault fault => cases hsome
  · exact fun h => List.mem_filterMap.mpr ⟨_, h, rfl⟩

theorem mem_errors_iff {source : String} {e : LexError} :
    e ∈ (tokenize source).errors ↔ ⟨.fault e.fault, e.span⟩ ∈ fragments 0 source.toList := by
  unfold tokenize
  rw [scan_eq]
  constructor
  · intro h
    obtain ⟨⟨node, span⟩, hf, hsome⟩ := List.mem_filterMap.mp h
    cases node with
    | fault fault =>
      cases hsome
      exact hf
    | skipped => cases hsome
    | token t => cases hsome
  · exact fun h => List.mem_filterMap.mpr ⟨_, h, rfl⟩

/-- The offset at which a text starts makes no difference to what its fragments are. -/
theorem map_node_fragments (offset : Nat) (text : List Char) :
    (fragments offset text).map Spanned.node = reading text := by
  unfold reading
  induction text using fragment_induction generalizing offset with
  | nil => rw [fragments_nil, fragments_nil]
  | cons c rest ih =>
    rw [fragments_cons offset, fragments_cons 0]
    simp only
    split
    · rw [ih, ih (0 + c.utf8Size + _)]
    · rw [List.map_cons, List.map_cons, ih, ih (0 + c.utf8Size + _)]

theorem reading_nil : reading [] = [] := by
  rw [reading, fragments_nil]
  rfl

theorem reading_cons (c : Char) (rest : List Char) :
    reading (c :: rest) =
      if (Match.ofHead c rest).fragment = .skipped then
        reading (rest.drop (Match.ofHead c rest).tail)
      else (Match.ofHead c rest).fragment :: reading (rest.drop (Match.ofHead c rest).tail) := by
  rw [reading, fragments_cons]
  simp only
  split
  · rw [map_node_fragments]
  · rw [List.map_cons, map_node_fragments]

theorem reading_cons_skipped {c : Char} {rest : List Char}
    (h : (Match.ofHead c rest).fragment = .skipped) :
    reading (c :: rest) = reading (rest.drop (Match.ofHead c rest).tail) := by
  rw [reading_cons, if_pos h]

theorem reading_cons_of_ofHead {c : Char} {rest : List Char} {f : Fragment} {tail : Nat}
    (h : Match.ofHead c rest = ⟨f, tail⟩) (hf : f ≠ .skipped) :
    reading (c :: rest) = f :: reading (rest.drop tail) := by
  rw [reading_cons, h, if_neg hf]

theorem not_skipped_of_mem {offset : Nat} {text : List Char} {f : Spanned Fragment}
    (h : f ∈ fragments offset text) : f.node ≠ .skipped := by
  induction text using fragment_induction generalizing offset with
  | nil =>
    rw [fragments_nil] at h
    cases h
  | cons c rest ih =>
    rw [fragments_cons] at h
    simp only at h
    split at h
    · exact ih h
    · rename_i hne
      rcases List.mem_cons.mp h with rfl | h
      · exact hne
      · exact ih h

/-- Fragments that are tokens without exception give those tokens and no error. -/
theorem filterMap_eq_iff {fragments : List (Spanned Fragment)}
    (h : ∀ f ∈ fragments, f.node ≠ .skipped) (tokens : List Token) :
    (fragments.filterMap lexError? = [] ∧ nodes (fragments.filterMap lexeme?) = tokens) ↔
      fragments.map Spanned.node = tokens.map Fragment.token := by
  induction fragments generalizing tokens with
  | nil => cases tokens <;> simp
  | cons f rest ih =>
    have hrest := ih fun g hg => h g (List.mem_cons_of_mem _ hg)
    obtain ⟨node, span⟩ := f
    cases node with
    | skipped => exact absurd rfl (h _ (List.mem_cons_self ..))
    | fault fault =>
      rw [List.filterMap_cons_some (by rfl)]
      cases tokens <;> simp
    | token t =>
      rw [List.filterMap_cons_none (by rfl), List.filterMap_cons_some (by rfl)]
      cases tokens with
      | nil => simp
      | cons u more =>
        rw [nodes_cons, List.map_cons, List.map_cons, List.cons.injEq, List.cons.injEq,
          ← hrest more, Fragment.token.injEq]
        exact and_left_comm

/-- A text has these tokens and no error if they are what its fragments are. -/
theorem tokenize_eq_iff (source : String) (tokens : List Token) :
    ((tokenize source).errors = [] ∧ nodes (tokenize source).tokens = tokens) ↔
      reading source.toList = tokens.map Fragment.token := by
  unfold tokenize
  rw [scan_eq, filterMap_eq_iff fun f hf => not_skipped_of_mem hf, map_node_fragments]

/-- The tokens of a text are among its fragments. -/
theorem mem_reading_of_mem_tokens {source : String} {t : Token}
    (h : t ∈ nodes (tokenize source).tokens) : .token t ∈ reading source.toList := by
  obtain ⟨lexeme, hlexeme, rfl⟩ := List.mem_map.mp h
  exact List.mem_map.mpr ⟨_, mem_tokens_iff.mp hlexeme, rfl⟩

/- Where the fragments lie. -/

/-- Every fragment is what the lexer finds at the place where it starts. -/
theorem exists_head_of_mem {offset : Nat} {text : List Char} {f : Spanned Fragment}
    (h : f ∈ fragments offset text) : ∃ before c rest, text = before ++ c :: rest ∧
      (Match.ofHead c rest).fragment = f.node ∧ f.span.start = offset + Text.byteLength before ∧
      f.span.stop = f.span.start +
        Text.byteLength (c :: rest.take (Match.ofHead c rest).tail) := by
  induction text using fragment_induction generalizing offset with
  | nil =>
    rw [fragments_nil] at h
    cases h
  | cons c rest ih =>
    -- What holds behind the first fragment holds with that fragment in front.
    have hlater : f ∈ fragments (offset + c.utf8Size +
          Text.byteLength (rest.take (Match.ofHead c rest).tail))
          (rest.drop (Match.ofHead c rest).tail) →
        ∃ before d more, c :: rest = before ++ d :: more ∧
          (Match.ofHead d more).fragment = f.node ∧
          f.span.start = offset + Text.byteLength before ∧ f.span.stop = f.span.start +
            Text.byteLength (d :: more.take (Match.ofHead d more).tail) := by
      intro hmem
      obtain ⟨before, d, more, htext, hnode, hstart, hstop⟩ := ih hmem
      refine ⟨c :: rest.take (Match.ofHead c rest).tail ++ before, d, more, ?_, hnode, ?_, hstop⟩
      · rw [List.append_assoc, ← htext, List.cons_append, List.take_append_drop]
      · rw [hstart, Text.byteLength_append, Text.byteLength]
        omega
    rw [fragments_cons] at h
    simp only at h
    split at h
    · exact hlater h
    · rcases List.mem_cons.mp h with rfl | h
      · refine ⟨[], c, rest, rfl, rfl, rfl, ?_⟩
        simp only [Text.byteLength]
        omega
      · exact hlater h

/-- A fragment is a part of the text that is not empty, and its range is that of the part. -/
theorem exists_parts_of_mem {offset : Nat} {text : List Char} {f : Spanned Fragment}
    (h : f ∈ fragments offset text) : ∃ before inside after, text = before ++ inside ++ after ∧
      inside ≠ [] ∧ f.span.start = offset + Text.byteLength before ∧
      f.span.stop = f.span.start + Text.byteLength inside := by
  obtain ⟨before, c, rest, rfl, -, hstart, hstop⟩ := exists_head_of_mem h
  refine ⟨before, c :: rest.take (Match.ofHead c rest).tail, rest.drop (Match.ofHead c rest).tail,
    ?_, List.cons_ne_nil _ _, hstart, hstop⟩
  rw [List.append_assoc, List.cons_append, List.take_append_drop]

theorem byteLength_pos {text : List Char} (h : text ≠ []) : 0 < Text.byteLength text := by
  cases text with
  | nil => exact absurd rfl h
  | cons c rest =>
    have := Char.utf8Size_pos c
    rw [Text.byteLength]
    omega

/-- A fragment takes bytes of the text and no others. -/
theorem span_of_mem {offset : Nat} {text : List Char} {f : Spanned Fragment}
    (h : f ∈ fragments offset text) : offset ≤ f.span.start ∧ f.span.start < f.span.stop ∧
      f.span.stop ≤ offset + Text.byteLength text := by
  obtain ⟨before, inside, after, rfl, hne, hstart, hstop⟩ := exists_parts_of_mem h
  have hpos := byteLength_pos hne
  rw [Text.byteLength_append, Text.byteLength_append]
  omega

/-- Every fragment ends before the next one starts. -/
theorem fragments_pairwise (offset : Nat) (text : List Char) :
    (fragments offset text).Pairwise fun a b => a.span.stop ≤ b.span.start := by
  induction text using fragment_induction generalizing offset with
  | nil =>
    rw [fragments_nil]
    exact .nil
  | cons c rest ih =>
    rw [fragments_cons]
    simp only
    split
    · exact ih _
    · exact .cons (fun f hf => (span_of_mem hf).1) (ih _)

end Lexed
end GrammarText
