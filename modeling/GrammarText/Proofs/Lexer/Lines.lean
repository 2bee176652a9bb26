/-
Lexing goes line by line.  Blanks aside, no fragment goes past a line end, whether it is a token or
a fragment that is none.  So what stands behind a line end is lexed as it would be alone, further
on, and what stands before it as if the text ended there.
-/
import GrammarText.Proofs.Lexer.Tiling

namespace GrammarText

open Text

namespace Text

theorem isBlank_of_isLineEnd {c : Char} (h : isLineEnd c = true) : isBlank c = true := by
  unfold isLineEnd at h
  unfold isBlank
  rcases Bool.or_eq_true_iff.mp h with h | h <;> simp [h]

/-- A line end is one of two characters, so it belongs to no class of others. -/
theorem eq_of_isLineEnd {c : Char} (h : isLineEnd c = true) : c = '\r' ∨ c = '\n' := by
  unfold isLineEnd at h
  simpa using h

theorem utf8Size_of_isLineEnd {c : Char} (h : isLineEnd c = true) : c.utf8Size = 1 := by
  rcases eq_of_isLineEnd h with rfl | rfl <;> rfl

/-- What is taken while it is accepted stops before a line end as before the end of the text. -/
theorem takeWhile_append_lineEnd {accept : Char → Bool} {c : Char} (hc : accept c = false)
    (rest later : List Char) :
    (rest ++ c :: later).takeWhile accept = rest.takeWhile accept := by
  induction rest with
  | nil => simp [hc]
  | cons d rest ih => by_cases hd : accept d <;> simp [hd, ih]

/-- A literal stops before a line end as before the end of the text, and a backslash in front of
either opens no unit. -/
theorem Delimited.split_append_lineEnd {delimiter c : Char} (hd : isLineEnd delimiter = false)
    (hc : isLineEnd c = true) (rest later : List Char) :
    (split delimiter (rest ++ c :: later)).1 = (split delimiter rest).1 := by
  have hne : ¬ (c == delimiter) = true := by
    rintro h
    rw [beq_iff_eq.mp h, hd] at hc
    cases hc
  have hb : c ≠ '\\' := by
    rcases eq_of_isLineEnd hc with rfl | rfl <;> decide
  induction hlen : rest.length using Nat.strongRecOn generalizing rest with
  | ind n ih =>
    match rest with
    | [] =>
      rw [List.nil_append, split_cons hb, if_neg hne, if_pos hc]
      rfl
    | d :: rest =>
      by_cases hbackslash : d = '\\'
      · subst hbackslash
        cases rest with
        | nil =>
          rw [List.cons_append, List.nil_append, split_backslash, if_pos hc]
          rfl
        | cons e rest =>
          have hpair := ih rest.length (by simp only [← hlen, List.length_cons]; omega) rest rfl
          rw [List.cons_append, List.cons_append, split_backslash, split_backslash]
          by_cases he : isLineEnd e
          · rw [if_pos he, if_pos he]
          · rw [if_neg he, if_neg he, hpair]
      · have hrest := ih rest.length (by rw [← hlen, List.length_cons]; omega) rest rfl
        rw [List.cons_append, split_cons hbackslash, split_cons hbackslash]
        by_cases he : (d == delimiter) = true
        · rw [if_pos he, if_pos he]
        · rw [if_neg he, if_neg he]
          by_cases hl : isLineEnd d
          · rw [if_pos hl, if_pos hl]
          · rw [if_neg hl, if_neg hl, hrest]

/-- No unit has a line end in it. -/
theorem Delimited.Units.not_isLineEnd {delimiter : Char} {units : List Char}
    (h : Units delimiter units) : ∀ c ∈ units, isLineEnd c = false := by
  induction h with
  | nil => exact fun c hc => nomatch hc
  | plain _ _ hl _ ih => exact List.forall_mem_cons.mpr ⟨hl, ih⟩
  | pair hl _ ih => exact List.forall_mem_cons.mpr ⟨rfl, List.forall_mem_cons.mpr ⟨hl, ih⟩⟩

theorem not_isLineEnd_of_mem_delimited {delimiter : Char} (hd : isLineEnd delimiter = false)
    {w : List Char} (hw : w ∈ delimited delimiter) : ∀ c ∈ w, isLineEnd c = false := by
  obtain ⟨units, hunits, rfl | rfl⟩ := mem_delimited.mp hw
  · exact List.forall_mem_cons.mpr ⟨hd, hunits.not_isLineEnd⟩
  · refine List.forall_mem_cons.mpr ⟨hd, List.forall_mem_append.mpr ⟨hunits.not_isLineEnd, ?_⟩⟩
    exact List.forall_mem_singleton.mpr hd

end Text

namespace LexicalClass

variable {k : LexicalClass} {c d : Char} {rest : List Char}

/-- No class but that of blanks allows a line end. -/
theorem not_isLineEnd_of_mem {w : List Char} (hw : w ∈ k.texts) (hk : k ≠ .blanks) :
    ∀ c ∈ w, isLineEnd c = false := by
  have hrun : ∀ {S T : Char → Prop}, w ∈ run S T → (∀ d, S d → isLineEnd d = false) →
      (∀ d, T d → isLineEnd d = false) → ∀ c ∈ w, isLineEnd c = false := by
    intro S T hw hS hT
    obtain ⟨first, rest, rfl, hfirst, hrest⟩ := mem_run.mp hw
    exact List.forall_mem_cons.mpr ⟨hS _ hfirst, fun d hd => hT d (hrest d hd)⟩
  have hletter : ∀ d, isUppercaseLetter d = true ∨ isLowercaseLetter d = true →
      isLineEnd d = false := by
    intro d hd
    simp [isLineEnd, letter_ne hd]
  have hword : ∀ d, isWord d = true → isLineEnd d = false := by
    intro d h
    refine Bool.eq_false_iff.mpr fun hl => ?_
    rcases eq_of_isLineEnd hl with rfl | rfl <;> revert h <;> decide
  have hdigit : ∀ d : Char, d.isDigit = true → isLineEnd d = false := by
    intro d h
    refine Bool.eq_false_iff.mpr fun hl => ?_
    rcases eq_of_isLineEnd hl with rfl | rfl <;> revert h <;> decide
  cases k with
  | blanks => exact absurd rfl hk
  | comment =>
    refine hrun hw (fun d hd => ?_) fun d hd => by simpa using hd
    subst hd
    rfl
  | tokenName => exact hrun hw (fun d hd => hletter d (.inl hd)) hword
  | ruleName => exact hrun hw (fun d hd => hletter d (.inr hd)) hword
  | literal => exact not_isLineEnd_of_mem_delimited rfl hw
  | regex => exact not_isLineEnd_of_mem_delimited rfl hw
  | integer => exact hrun hw hdigit hdigit
  | mark m =>
    obtain rfl : w = m.text.toList := hw
    have hnone : m.text.toList.any isLineEnd = false := by cases m <;> decide
    exact fun c hc => Bool.eq_false_iff.mpr (List.any_eq_false.mp hnone c hc)

/-- A class takes no more than there is. -/
theorem Opens.tail_le (h : k.Opens c rest) : k.tail rest ≤ rest.length := by
  cases k with
  | mark m =>
    cases m with
    | range =>
      obtain ⟨more, rfl⟩ := List.head?_eq_some_iff.mp h.2
      exact Nat.succ_le_succ (Nat.zero_le _)
    | _ => exact Nat.zero_le _
  | literal => exact (Delimited.split_taken _ _).length_le
  | regex => exact (Delimited.split_taken _ _).length_le
  | _ => exact (List.takeWhile_prefix _).length_le

/-- Before a line end a class other than that of blanks takes what it takes before the end. -/
theorem tail_append_lineEnd (hk : k ≠ .blanks) (hc : isLineEnd c = true)
    (rest later : List Char) : k.tail (rest ++ c :: later) = k.tail rest := by
  have hword : isWord c = false := by
    rcases eq_of_isLineEnd hc with rfl | rfl <;> decide
  have hdigit : c.isDigit = false := by
    rcases eq_of_isLineEnd hc with rfl | rfl <;> decide
  cases k with
  | blanks => exact absurd rfl hk
  | comment => exact congrArg _ (takeWhile_append_lineEnd (by rw [hc]; rfl) rest later)
  | tokenName => exact congrArg _ (takeWhile_append_lineEnd hword rest later)
  | ruleName => exact congrArg _ (takeWhile_append_lineEnd hword rest later)
  | literal => exact congrArg _ (Delimited.split_append_lineEnd rfl hc rest later)
  | regex => exact congrArg _ (Delimited.split_append_lineEnd rfl hc rest later)
  | integer => exact congrArg _ (takeWhile_append_lineEnd hdigit rest later)
  | mark m => cases m <;> rfl

/-- Whether a class opens is decided before the line ends. -/
theorem opens_append_lineEnd (hc : isLineEnd c = true) (rest later : List Char) :
    k.Opens d (rest ++ c :: later) ↔ k.Opens d rest := by
  cases k with
  | mark m =>
    cases m with
    | range =>
      cases rest with
      | nil =>
        have hne : c ≠ '.' := by
          rcases eq_of_isLineEnd hc with rfl | rfl <;> decide
        simp [Opens, hne]
      | cons e rest => exact Iff.rfl
    | _ => exact Iff.rfl
  | _ => exact Iff.rfl

end LexicalClass

namespace Lexed

open LexicalClass

/-- The lexer takes no more than there is. -/
theorem ofHead_tail_le (d : Char) (rest : List Char) :
    (Match.ofHead d rest).tail ≤ rest.length := by
  rcases ofHead_cases d rest with ⟨k, hopens, hhead⟩ | ⟨-, hhead⟩
  · rw [hhead rest hopens]
    exact hopens.tail_le
  · rw [hhead]
    exact Nat.zero_le _

/-- Before a line end the lexer finds what it finds before the end of the text. -/
theorem ofHead_append_lineEnd {c d : Char} (hd : ¬ isBlank d = true) (hc : isLineEnd c = true)
    (rest later : List Char) :
    Match.ofHead d (rest ++ c :: later) = Match.ofHead d rest := by
  rcases ofHead_cases d rest with ⟨k, hopens, hhead⟩ | ⟨hnone, hhead⟩
  · have hk : k ≠ .blanks := by
      rintro rfl
      exact hd hopens
    have htail := tail_append_lineEnd hk hc rest later
    rw [hhead rest hopens, hhead _ ((opens_append_lineEnd hc rest later).mpr hopens), htail,
      List.take_append_of_le_length hopens.tail_le]
  · rcases ofHead_cases d (rest ++ c :: later) with ⟨k, hopens, -⟩ | ⟨-, hlater⟩
    · exact absurd ((opens_append_lineEnd hc rest later).mp hopens) (hnone k)
    · rw [hlater, hhead]

/-- A blank in front of a text is skipped, alone or with the blanks behind it. -/
theorem fragments_blank {c : Char} (hc : isBlank c = true) (offset : Nat) (rest : List Char) :
    fragments offset (c :: rest) = fragments (offset + c.utf8Size) rest := by
  cases rest with
  | nil =>
    rw [fragments_cons, ofHead_blank hc]
    show fragments _ [] = _
    rw [fragments_nil, fragments_nil]
  | cons d rest =>
    rw [fragments_cons, ofHead_blank hc]
    by_cases hd : isBlank d = true
    · rw [fragments_cons _ d, ofHead_blank hd, List.takeWhile_cons_of_pos hd]
      simp only [if_pos, List.length_cons, List.take_succ_cons, List.drop_succ_cons,
        Text.byteLength, Nat.add_assoc]
    · rw [List.takeWhile_cons_of_neg hd]
      rfl

/-- The fragments on either side of a line end are those of the two sides alone. -/
theorem fragments_lines {c : Char} (hc : isLineEnd c = true) (offset : Nat) (a b : List Char) :
    fragments offset (a ++ c :: b) =
      fragments offset a ++ fragments (offset + Text.byteLength a + 1) b := by
  induction hlen : a.length using Nat.strongRecOn generalizing a offset with
  | ind n ih =>
    cases a with
    | nil =>
      rw [List.nil_append, fragments_blank (isBlank_of_isLineEnd hc), utf8Size_of_isLineEnd hc,
        fragments_nil]
      rfl
    | cons d rest =>
      by_cases hd : isBlank d = true
      · have hrest := ih rest.length (by rw [← hlen]; exact Nat.lt_succ_self _)
          (offset + d.utf8Size) rest rfl
        rw [List.cons_append, fragments_blank hd, fragments_blank hd, hrest, Text.byteLength,
          Nat.add_assoc offset]
      · have hle := ofHead_tail_le d rest
        have hrest := ih (rest.drop (Match.ofHead d rest).tail).length
          (by rw [← hlen, List.length_drop, List.length_cons]; omega)
          (offset + d.utf8Size + Text.byteLength (rest.take (Match.ofHead d rest).tail))
          (rest.drop (Match.ofHead d rest).tail) rfl
        have hbytes : offset + d.utf8Size + Text.byteLength (rest.take (Match.ofHead d rest).tail) +
            Text.byteLength (rest.drop (Match.ofHead d rest).tail) =
              offset + Text.byteLength (d :: rest) := by
          rw [Nat.add_assoc, ← Text.byteLength_append, List.take_append_drop, Nat.add_assoc]
          rfl
        rw [hbytes] at hrest
        rw [List.cons_append, fragments_cons, fragments_cons offset d rest,
          ofHead_append_lineEnd hd hc]
        simp only [List.take_append_of_le_length hle, List.drop_append_of_le_length hle, hrest]
        split
        · rfl
        · rfl

/-- Texts that are joined by line feeds read one after another. -/
theorem reading_intercalate (texts : List String) :
    reading (String.intercalate "\n" texts).toList =
      texts.flatMap fun text => reading text.toList := by
  have hlines : ∀ a b : List Char, reading (a ++ '\n' :: b) = reading a ++ reading b := by
    intro a b
    rw [← map_node_fragments 0, fragments_lines rfl, List.map_append, map_node_fragments,
      map_node_fragments]
  induction texts with
  | nil =>
    rw [String.intercalate_nil]
    exact reading_nil
  | cons first rest ih =>
    cases rest with
    | nil => rw [String.intercalate_singleton, List.flatMap_singleton]
    | cons second more =>
      rw [String.intercalate_cons_cons, String.toList_append, String.toList_append,
        List.append_assoc, List.flatMap_cons, ← ih]
      exact hlines first.toList _

/-- A fragment other than blanks is on one line. -/
theorem not_isLineEnd_of_reads {piece after : List Char} {f : Fragment}
    (h : Reads piece after f) (hf : f ≠ .skipped) : ∀ c ∈ piece, isLineEnd c = false := by
  cases h with
  | @longest k h =>
    refine not_isLineEnd_of_mem h.allowed ?_
    rintro rfl
    exact hf rfl
  | @unexpected c hpiece h =>
    subst hpiece
    refine List.forall_mem_singleton.mpr (Bool.eq_false_iff.mpr fun hc => ?_)
    -- A line end alone is a text that the class of blanks allows.
    have hblanks : [c] ∈ LexicalClass.blanks.texts :=
      mem_run.mpr ⟨c, [], rfl, isBlank_of_isLineEnd hc, fun d hd => nomatch hd⟩
    exact h _ _ hblanks (List.prefix_append _ _)

/-- The text of a fragment that is not skipped has no line end in it. -/
theorem not_isLineEnd_of_mem_slice {text : List Char} {f : Spanned Fragment}
    (h : f ∈ fragments 0 text) :
    ∀ c ∈ Text.slice text f.span.start f.span.stop, isLineEnd c = false := by
  obtain ⟨cut, hreads, -⟩ := exists_cut_of_mem h
  rw [cut.slice_eq]
  exact not_isLineEnd_of_reads hreads (not_skipped_of_mem h)

/-- No token and no lexical error of a source has a line end in it, and what stands on either side
of a line feed is lexed as it would be alone, the second part further on. -/
theorem tokenize_lines (a b : String) :
    (∀ t ∈ (tokenize a).tokens, ∀ c ∈ Text.slice a.toList t.span.start t.span.stop,
      c ≠ '\r' ∧ c ≠ '\n') ∧
    (∀ e ∈ (tokenize a).errors, ∀ c ∈ Text.slice a.toList e.span.start e.span.stop,
      c ≠ '\r' ∧ c ≠ '\n') ∧
    (tokenize (a ++ "\n" ++ b)).tokens = (tokenize a).tokens ++
      (tokenize b).tokens.map (·.shift (Text.byteLength a.toList + 1)) ∧
    (tokenize (a ++ "\n" ++ b)).errors = (tokenize a).errors ++
      (tokenize b).errors.map (·.shift (Text.byteLength a.toList + 1)) := by
  have hne : ∀ {c : Char}, isLineEnd c = false → c ≠ '\r' ∧ c ≠ '\n' := by
    intro c hc
    constructor <;> rintro rfl <;> cases hc
  have hshift := fragments_shift (Text.byteLength a.toList + 1) 0 b.toList
  have hlines := fragments_lines (c := '\n') rfl 0 a.toList b.toList
  rw [Nat.add_assoc 0, hshift] at hlines
  have htext : (a ++ "\n" ++ b).toList = a.toList ++ '\n' :: b.toList := by
    simp
  refine ⟨fun t ht c hc => hne ?_, fun e he c hc => hne ?_, ?_⟩
  · exact not_isLineEnd_of_mem_slice (mem_tokens_iff.mp ht) c hc
  · exact not_isLineEnd_of_mem_slice (mem_errors_iff.mp he) c hc
  · unfold tokenize
    rw [htext, scan_eq, scan_eq, scan_eq, hlines]
    simp only [List.filterMap_append, filterMap_lexeme?_shift, filterMap_lexError?_shift, and_self]

end Lexed
end GrammarText
