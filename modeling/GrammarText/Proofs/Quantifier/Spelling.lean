/-
Texts of marks and numbers.  Where no number stands right behind another, the tokens may be written
one behind the other, with blanks and comments between them or without.  All texts of this form read
as the tokens, and no others do.
-/
import GrammarText.Proofs.Lexer.Layout

namespace GrammarText

open Computability Text LexicalClass

/-- The numerals of a number, with any number of zeros in front. -/
def numerals (value : UInt32) : Language Char :=
  {w : List Char | w ∈ integer.texts ∧ Nat.ofDigitChars 10 w 0 = value.toNat}

/-- How a mark or a number is written. -/
def Token.texts : Token → Language Char
  | .mark m => {m.text.toList}
  | .integer value => numerals value
  | _ => 0

def layout : Language Char :=
  {gap : List Char | Layout gap}

/-- The tokens in their order with layout in between.  The last comment may be open. -/
def laidOut : List Token → Language Char
  | [] => (blanks.texts + comment.texts)∗
  | t :: rest => layout * (t.texts * laidOut rest)

/-- Marks and numbers, of which no number stands right behind another. -/
inductive Apart : List Token → Prop where
  | nil : Apart []
  | mark {m : Mark} {rest : List Token} (hrest : Apart rest) : Apart (.mark m :: rest)
  | integer {value : UInt32} {rest : List Token} (hrest : Apart rest)
      (hnext : ∀ next more, rest ≠ .integer next :: more) : Apart (.integer value :: rest)

variable {t : Token} {tokens : List Token} {w : List Char}

theorem Apart.head (h : Apart (t :: tokens)) : Apart [t] := by
  cases h with
  | mark => exact .mark .nil
  | integer => exact .integer .nil nofun

theorem Apart.tail (h : Apart (t :: tokens)) : Apart tokens := by
  cases h with
  | mark hrest => exact hrest
  | integer hrest => exact hrest

theorem mem_laidOut_cons : w ∈ laidOut (t :: tokens) ↔ ∃ gap piece later,
    w = gap ++ (piece ++ later) ∧ Layout gap ∧ piece ∈ t.texts ∧ later ∈ laidOut tokens := by
  rw [laidOut, Language.mem_mul]
  constructor
  · rintro ⟨gap, hgap, _, ⟨piece, hpiece, later, hlater, rfl⟩, rfl⟩
    exact ⟨gap, piece, later, rfl, hgap, hpiece, hlater⟩
  · rintro ⟨gap, piece, later, rfl, hgap, hpiece, hlater⟩
    exact ⟨gap, hgap, _, Language.append_mem_mul hpiece hlater, rfl⟩

/- Layout. -/

theorem Layout.blanks_append {a gap : List Char} (ha : ∀ c ∈ a, isBlank c = true)
    (h : Layout gap) : Layout (a ++ gap) := by
  induction a with
  | nil => exact h
  | cons c rest ih =>
    exact .blank (ha c (List.mem_cons_self ..)) (ih fun d hd => ha d (List.mem_cons_of_mem _ hd))

theorem Layout.tail {c : Char} {gap : List Char} (h : Layout (c :: gap))
    (hc : isLineEnd c = true) : Layout gap := by
  cases h with
  | blank _ hrest => exact hrest
  | comment => cases hc

/- Marks. -/

/-- All marks but one have a character to themselves. -/
theorem Mark.exists_ofChar? {m : Mark} (h : m ≠ .range) : ∃ c, Mark.ofChar? c = some m := by
  have hhead : m.text.toList.head?.bind Mark.ofChar? = some m := by
    cases m <;> first | rfl | exact absurd rfl h
  obtain ⟨c, -, hc⟩ := Option.bind_eq_some_iff.mp hhead
  exact ⟨c, hc⟩

/-- A mark starts with a character that is no digit and opens no layout. -/
theorem Mark.text_eq_cons (m : Mark) : ∃ c more, m.text.toList = c :: more ∧
    c.isDigit = false ∧ ¬ OpensLayout c := by
  by_cases hm : m = .range
  · subst hm
    exact ⟨'.', ['.'], rfl, rfl, by simp [OpensLayout, isBlank]⟩
  · obtain ⟨c, hc⟩ := exists_ofChar? hm
    refine ⟨c, [], (ofChar?_text hc).1, ?_, fun hopens => ?_⟩
    · unfold Mark.ofChar? at hc
      split at hc <;> cases hc <;> rfl
    · rcases hopens.cases_eq with rfl | rfl | rfl | rfl | rfl | rfl <;> cases hc

theorem Lexed.reading_text (m : Mark) (later : List Char) :
    reading (m.text.toList ++ later) = .token (.mark m) :: reading later := by
  by_cases hm : m = .range
  · subst hm
    exact reading_range later
  · obtain ⟨c, hc⟩ := Mark.exists_ofChar? hm
    rw [(ofChar?_text hc).1]
    exact reading_mark hc later

/-- The text of a token starts with a character that opens no layout. -/
theorem Token.eq_cons_of_mem_texts (h : w ∈ t.texts) :
    ∃ c more, w = c :: more ∧ ¬ OpensLayout c := by
  cases t with
  | integer value =>
    obtain ⟨c, more, rfl, hc, -⟩ := mem_run.mp h.1
    refine ⟨c, more, rfl, fun hopens => ?_⟩
    rw [hopens.not_isDigit] at hc
    cases hc
  | mark m =>
    obtain rfl : w = m.text.toList := h
    obtain ⟨c, more, htext, -, hopens⟩ := m.text_eq_cons
    exact ⟨c, more, htext, hopens⟩
  | _ => exact absurd h (Language.notMem_zero w)

namespace Lexed

/-- What is skipped is blanks, or a comment up to a line end or to the end of the text. -/
theorem skipped_cases {c : Char} {rest : List Char}
    (h : (Match.ofHead c rest).fragment = .skipped) :
    (isBlank c = true ∧ (Match.ofHead c rest).tail = (rest.takeWhile isBlank).length) ∨
      (c = '#' ∧ (Match.ofHead c rest).tail = (rest.takeWhile (!isLineEnd ·)).length) := by
  have hreads := reads_ofHead c rest
  rw [h] at hreads
  rcases mem_of_skipped hreads with hpiece | hpiece
  · obtain ⟨_, _, heq, hc, -⟩ := mem_run.mp hpiece
    obtain ⟨rfl, -⟩ := List.cons.inj heq
    exact .inl ⟨hc, by rw [ofHead_blank hc]⟩
  · obtain ⟨_, _, heq, rfl, -⟩ := mem_run.mp hpiece
    obtain ⟨rfl, -⟩ := List.cons.inj heq
    exact .inr ⟨rfl, rfl⟩

/-- What is skipped is layout with whatever layout stands behind it, if a token comes then. -/
theorem layout_of_skipped {c : Char} {rest gap later : List Char}
    (h : (Match.ofHead c rest).fragment = .skipped) (hgap : Layout gap)
    (hrest : rest.drop (Match.ofHead c rest).tail = gap ++ later)
    (hlater : ∃ d more, later = d :: more ∧ ¬ OpensLayout d) :
    Layout (c :: rest.take (Match.ofHead c rest).tail ++ gap) := by
  have htake : ∀ accept : Char → Bool,
      rest.take (rest.takeWhile accept).length = rest.takeWhile accept :=
    fun accept => (List.prefix_iff_eq_take.mp (List.takeWhile_prefix accept)).symm
  rcases skipped_cases h with ⟨hc, htail⟩ | ⟨rfl, htail⟩
  · rw [htail, htake]
    exact .blank hc (.blanks_append (List.all_eq_true.mp List.all_takeWhile) hgap)
  · -- The comment goes on to a line end, so it is layout that stands behind it.
    rw [htail, drop_length_takeWhile] at hrest
    rw [htail, htake]
    have hline : ∀ d ∈ (gap ++ later).head?, isLineEnd d = true := by
      intro d hd
      have hnot := List.head?_dropWhile_not (!isLineEnd ·) rest
      rw [hrest, Option.mem_def.mp hd] at hnot
      simpa using hnot
    have hbody : ∀ d ∈ rest.takeWhile (!isLineEnd ·), isLineEnd d = false := fun d hd => by
      simpa using List.all_eq_true.mp List.all_takeWhile d hd
    cases gap with
    | nil =>
      obtain ⟨d, more, rfl, hopens⟩ := hlater
      exact absurd (.inl (isBlank_of_isLineEnd (hline d rfl))) hopens
    | cons d gap => exact .comment hbody (hline d rfl) (hgap.tail (hline d rfl))

/-- What is skipped in front of a text that is laid out makes another. -/
theorem mem_laidOut_of_skipped {c : Char} {rest : List Char}
    (h : (Match.ofHead c rest).fragment = .skipped)
    (hrest : rest.drop (Match.ofHead c rest).tail ∈ laidOut tokens) :
    c :: rest ∈ laidOut tokens := by
  have htext : c :: rest = c :: rest.take (Match.ofHead c rest).tail ++
      rest.drop (Match.ofHead c rest).tail := by
    rw [List.cons_append, List.take_append_drop]
  cases tokens with
  | nil =>
    have hreads := reads_ofHead c rest
    rw [h] at hreads
    rw [htext]
    exact append_mem_kstar (mem_of_skipped hreads) hrest
  | cons t more =>
    obtain ⟨gap, piece, later, hdrop, hgap, hpiece, hlater⟩ := mem_laidOut_cons.mp hrest
    obtain ⟨d, behind, rfl, hopens⟩ := Token.eq_cons_of_mem_texts hpiece
    refine mem_laidOut_cons.mpr ⟨c :: rest.take (Match.ofHead c rest).tail ++ gap, d :: behind,
      later, ?_, layout_of_skipped h hgap hdrop ⟨d, behind ++ later, rfl, hopens⟩, hpiece, hlater⟩
    rw [htext, hdrop, List.append_assoc]

/-- A mark or a number is read off one of its texts. -/
theorem mem_texts_of_reads {piece after : List Char} (h : Reads piece after (.token t))
    (ht : Apart [t]) : piece ∈ t.texts := by
  have hexcept : ∀ r, Fragment.ofExcept r = .token t → r = .ok t := by
    intro r hr
    cases r with
    | ok u => rw [Fragment.token.inj hr]
    | error e => cases hr
  generalize hf : Fragment.token t = f at h
  cases h with
  | unexpected => cases hf
  | @longest k h =>
    have hread := hf.symm
    cases ht with
    | @mark m =>
      cases k with
      | literal => exact absurd hread (ofExcept_map_ne nofun)
      | regex => exact absurd hread (ofExcept_map_ne nofun)
      | integer => exact absurd hread (readInteger_ne nofun)
      | mark m' =>
        cases hread
        exact h.allowed
      | _ => cases hread
    | @integer value =>
      cases k with
      | literal => exact absurd hread (ofExcept_map_ne nofun)
      | regex => exact absurd hread (ofExcept_map_ne nofun)
      | integer => exact ⟨h.allowed, readInteger_eq.mp (hexcept _ hread)⟩
      | _ => cases hread

/-- A text that reads as the tokens is laid out from them. -/
theorem mem_laidOut_of_reading (h : Apart tokens) (hw : reading w = tokens.map Fragment.token) :
    w ∈ laidOut tokens := by
  induction w using fragment_induction generalizing tokens with
  | nil =>
    rw [reading_nil] at hw
    obtain rfl := List.map_eq_nil_iff.mp hw.symm
    exact Language.nil_mem_kstar _
  | cons c rest ih =>
    rw [reading_cons] at hw
    split at hw
    · rename_i hskipped
      exact mem_laidOut_of_skipped hskipped (ih h hw)
    · obtain ⟨t, more, rfl, ht, hmore⟩ := List.map_eq_cons_iff.mp hw.symm
      have hreads := reads_ofHead c rest
      rw [← ht] at hreads
      refine mem_laidOut_cons.mpr ⟨[], c :: rest.take (Match.ofHead c rest).tail,
        rest.drop (Match.ofHead c rest).tail, ?_, .nil, mem_texts_of_reads hreads h.head,
        ih h.tail hmore.symm⟩
      rw [List.nil_append, List.cons_append, List.take_append_drop]

/-- Blanks and comments alone start as layout does. -/
theorem opensLayout_of_mem_laidOut (h : w ∈ laidOut []) : ∀ c ∈ w.head?, OpensLayout c := by
  obtain ⟨parts, rfl, hparts⟩ := h
  cases parts with
  | nil => exact fun c hc => nomatch hc
  | cons part rest =>
    rcases hparts part (List.mem_cons_self ..) with hpart | hpart
    · obtain ⟨c, more, rfl, hc, -⟩ := mem_run.mp hpart
      exact fun d hd => .inl (Option.some.inj hd ▸ hc)
    · obtain ⟨c, more, rfl, hc, -⟩ := mem_run.mp hpart
      exact fun d hd => .inr (Option.some.inj hd ▸ hc)

/-- Only the texts of numbers start with a digit. -/
theorem not_isDigit_of_mem_laidOut (h : Apart tokens)
    (hnext : ∀ next more, tokens ≠ .integer next :: more) (hw : w ∈ laidOut tokens) :
    ∀ c ∈ w.head?, c.isDigit = false := by
  cases h with
  | nil => exact fun c hc => (opensLayout_of_mem_laidOut hw c hc).not_isDigit
  | integer => exact absurd rfl (hnext _ _)
  | @mark m =>
    obtain ⟨gap, piece, later, rfl, hgap, rfl, -⟩ := mem_laidOut_cons.mp hw
    rcases hgap.opens (m.text.toList ++ later) with rfl | hopens
    · obtain ⟨c, more, htext, hc, -⟩ := m.text_eq_cons
      rw [htext]
      exact fun d hd => Option.some.inj hd ▸ hc
    · exact fun c hc => (hopens c hc).not_isDigit

/-- A text that reads as nothing does so from its first line end on, too. -/
theorem reading_dropWhile (h : reading w = []) :
    reading (w.dropWhile (!isLineEnd ·)) = [] := by
  cases hline : w.dropWhile (!isLineEnd ·) with
  | nil => exact reading_nil
  | cons c rest =>
    have hc : isLineEnd c = true := by
      have hnot := List.head?_dropWhile_not (!isLineEnd ·) w
      rw [hline] at hnot
      simpa using hnot
    have htext : w = w.takeWhile (!isLineEnd ·) ++ c :: rest := by
      rw [← hline, List.takeWhile_append_dropWhile]
    rw [htext, ← map_node_fragments 0, fragments_lines hc, List.map_append,
      List.append_eq_nil_iff, map_node_fragments, map_node_fragments] at h
    rw [reading_blank (isBlank_of_isLineEnd hc), h.2]

/-- Blanks and comments read as nothing. -/
theorem reading_eq_nil (h : w ∈ laidOut []) : reading w = [] := by
  obtain ⟨parts, rfl, hparts⟩ := h
  induction parts with
  | nil => exact reading_nil
  | cons part rest ih =>
    have hrest := ih fun p hp => hparts p (List.mem_cons_of_mem _ hp)
    rw [List.flatten_cons]
    rcases hparts part (List.mem_cons_self ..) with hpart | hpart
    · obtain ⟨c, more, rfl, hc, hmore⟩ := mem_run.mp hpart
      have hlayout : Layout (c :: more) := by
        have := Layout.blanks_append hmore .nil
        rw [List.append_nil] at this
        exact .blank hc this
      rw [reading_layout hlayout, hrest]
    · obtain ⟨_, more, rfl, rfl, hmore⟩ := mem_run.mp hpart
      -- The comment takes what stands behind it up to a line end.
      have hhead : (Match.ofHead '#' (more ++ rest.flatten)).fragment = .skipped := rfl
      have htail : (Match.ofHead '#' (more ++ rest.flatten)).tail =
          ((more ++ rest.flatten).takeWhile (!isLineEnd ·)).length := rfl
      rw [List.cons_append, reading_cons_skipped hhead, htail, drop_length_takeWhile,
        List.dropWhile_append_of_pos hmore]
      exact reading_dropWhile hrest

/-- A text that is laid out from the tokens reads as them. -/
theorem reading_of_mem_laidOut (h : Apart tokens) (hw : w ∈ laidOut tokens) :
    reading w = tokens.map Fragment.token := by
  induction h generalizing w with
  | nil => exact reading_eq_nil hw
  | mark hrest ih =>
    obtain ⟨gap, piece, later, rfl, hgap, rfl, hlater⟩ := mem_laidOut_cons.mp hw
    rw [reading_layout hgap, reading_text, ih hlater, List.map_cons]
  | @integer value rest hrest hnext ih =>
    obtain ⟨gap, piece, later, rfl, hgap, ⟨hpiece, hvalue⟩, hlater⟩ := mem_laidOut_cons.mp hw
    obtain ⟨d, more, rfl, hd, hmore⟩ := mem_run.mp hpiece
    rw [reading_layout hgap, reading_digits (List.cons_ne_nil _ _)
      (List.forall_mem_cons.mpr ⟨hd, hmore⟩) hvalue (not_isDigit_of_mem_laidOut hrest hnext hlater),
      ih hlater, List.map_cons]

theorem tokenize_iff_laidOut (h : Apart tokens) (source : String) :
    (tokenize source).errors = [] ∧ nodes (tokenize source).tokens = tokens ↔
      source.toList ∈ laidOut tokens :=
  (tokenize_eq_iff source tokens).trans ⟨mem_laidOut_of_reading h, reading_of_mem_laidOut h⟩

end Lexed
end GrammarText
