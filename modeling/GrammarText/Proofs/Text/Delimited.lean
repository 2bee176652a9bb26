/-
Delimited literals are read back as they are written.  What stands between the delimiters is a
sequence of units, and a sequence of units has an even number of backslashes at its end, so that the
delimiter behind it closes.
-/
import GrammarText.Proofs.Text.Units

namespace GrammarText
namespace Text

namespace Delimited

/-- A sequence of units: plain characters, and backslashes with a character behind each. -/
inductive Units (delimiter : Char) : List Char → Prop where
  | nil : Units delimiter []
  | plain {c : Char} {rest : List Char} (hd : c ≠ delimiter) (hb : c ≠ '\\')
      (hl : isLineEnd c = false) (later : Units delimiter rest) : Units delimiter (c :: rest)
  | pair {c : Char} {rest : List Char} (hl : isLineEnd c = false)
      (later : Units delimiter rest) : Units delimiter ('\\' :: c :: rest)

variable {delimiter : Char} {body : List Char}

theorem split_backslash (delimiter c : Char) (rest : List Char) :
    split delimiter ('\\' :: c :: rest) =
      if isLineEnd c then ([], '\\' :: c :: rest)
      else ('\\' :: c :: (split delimiter rest).1, (split delimiter rest).2) := by
  rw [split]

theorem split_cons {delimiter c : Char} (hb : c ≠ '\\') (rest : List Char) :
    split delimiter (c :: rest) =
      if c == delimiter then ([c], rest)
      else if isLineEnd c then ([], c :: rest)
      else (c :: (split delimiter rest).1, (split delimiter rest).2) := by
  rw [split.eq_def]
  split
  · rename_i h
    cases h
  · rename_i h
    exact absurd (List.cons.inj h).1 hb
  · rename_i h
    exact absurd (List.cons.inj h).1 hb
  · rename_i h
    obtain ⟨rfl, rfl⟩ := List.cons.inj h
    rfl

/-- A literal ends at the first delimiter behind its units. -/
theorem Units.split (h : Units delimiter body) (hb : delimiter ≠ '\\') (later : List Char) :
    split delimiter (body ++ [delimiter] ++ later) = (body ++ [delimiter], later) := by
  induction h with
  | nil =>
    show Delimited.split delimiter (delimiter :: later) = ([delimiter], later)
    rw [split_cons hb, if_pos (beq_self_eq_true _)]
  | @plain c rest hd hc hl _ ih =>
    show Delimited.split delimiter (c :: (rest ++ [delimiter] ++ later)) = _
    rw [split_cons hc, ih, if_neg (by simpa using hd), if_neg (by simp [hl])]
    rfl
  | @pair c rest hl _ ih =>
    show Delimited.split delimiter ('\\' :: c :: (rest ++ [delimiter] ++ later)) = _
    rw [split_backslash, ih, if_neg (by simp [hl])]
    rfl

/-- What is split off has no line end in it. -/
theorem not_isLineEnd_of_mem_split {text : List Char} (hd : isLineEnd delimiter = false) {c : Char}
    (h : c ∈ (split delimiter text).1) : isLineEnd c = false := by
  fun_induction Delimited.split delimiter text with
  | case1 => cases h
  | case2 => cases h
  | case3 => cases h
  | case4 c' rest hl inside outside hsplit ih =>
    rw [hsplit] at ih
    rcases List.mem_cons.mp h with rfl | h
    · rfl
    rcases List.mem_cons.mp h with rfl | h
    · simpa using hl
    · exact ih h
  | case5 c' rest _ _ heq =>
    rw [List.mem_singleton.mp h, beq_iff_eq.mp heq]
    exact hd
  | case6 => cases h
  | case7 c' rest _ _ hne hl inside outside hsplit ih =>
    rw [hsplit] at ih
    rcases List.mem_cons.mp h with rfl | h
    · simpa using hl
    · exact ih h

/-- The units one by one. -/
theorem Units.exists_items (h : Units delimiter body) : ∃ items : List Item,
    Item.plain '\\' ∉ items ∧ Item.plain delimiter ∉ items ∧
      body = items.flatMap Item.text := by
  induction h with
  | nil => exact ⟨[], List.not_mem_nil, List.not_mem_nil, rfl⟩
  | @plain c rest hd hb _ _ ih =>
    obtain ⟨items, hplain, hdelimiter, rfl⟩ := ih
    exact ⟨.plain c :: items, by simpa [hb.symm] using hplain,
      by simpa [hd.symm] using hdelimiter, rfl⟩
  | @pair c rest _ _ ih =>
    obtain ⟨items, hplain, hdelimiter, rfl⟩ := ih
    exact ⟨.pair c :: items, by simpa using hplain, by simpa using hdelimiter, rfl⟩

theorem Units.body? (h : Units delimiter body) :
    body? delimiter (delimiter :: (body ++ [delimiter])) = some body := by
  obtain ⟨items, hplain, -, rfl⟩ := h.exists_items
  exact body?_eq_some.mpr ⟨rfl, trailing_items hplain⟩

/-- Units alone leave a literal open, since a delimiter at their end is part of a pair. -/
theorem Units.body?_open (h : Units delimiter body) :
    Delimited.body? delimiter (delimiter :: body) = none := by
  obtain ⟨items, hplain, hdelimiter, rfl⟩ := h.exists_items
  exact Reading.body?_eq ⟨items, false, by simp, hplain, hdelimiter⟩

end Delimited

namespace Quoted

open Delimited

theorem units_escape (c : Char) {rest : List Char} (h : Units '\'' rest) :
    Units '\'' (escape c ++ rest) := by
  unfold escape
  split
  · exact .pair (by decide) h
  · exact .pair (by decide) h
  · exact .pair (by decide) h
  · exact .pair (by decide) h
  · exact .pair (by decide) h
  · rename_i h1 h2 h3 h4 h5
    refine .plain h2 h1 ?_ h
    have hn : c ≠ '\n' := h3
    have hr : c ≠ '\r' := h5
    simp [isLineEnd, hn, hr]

theorem units_flatMap_escape (text : List Char) : Units '\'' (text.flatMap escape) := by
  induction text with
  | nil => exact .nil
  | cons c rest ih =>
    rw [List.flatMap_cons]
    exact units_escape c ih

theorem unescape_escape (c : Char) (rest : List Char) :
    unescape (escape c ++ rest) = (unescape rest).map (c :: ·) := by
  unfold escape
  split
  · rfl
  · rfl
  · rfl
  · rfl
  · rfl
  · rename_i h1 _ _ _ _
    rw [List.singleton_append, unescape]
    · exact fun h _ => h1 h
    · exact fun _ _ h _ => h1 h

theorem unescape_flatMap_escape (text : List Char) :
    unescape (text.flatMap escape) = some text := by
  induction text with
  | nil => rfl
  | cons c rest ih =>
    rw [List.flatMap_cons, unescape_escape, ih]
    rfl

/-- A quoted text is read back, whatever its characters are. -/
theorem decode_escape (text : List Char) :
    decode ('\'' :: (text.flatMap escape ++ ['\''])) = .ok (String.ofList text) := by
  unfold decode
  rw [(units_flatMap_escape text).body?]
  simp only
  rw [unescape_flatMap_escape]

end Quoted

namespace Slashed

open Delimited

/-- Read from left to right in pairs, every backslash is followed by a character other than a
slash. -/
def PairsEscapes : List Char → Prop
  | [] => True
  | ['\\'] => False
  | '\\' :: c :: rest => c ≠ '/' ∧ PairsEscapes rest
  | _ :: rest => PairsEscapes rest

/-- What may be the body of a regex: one line in which every backslash escapes something. -/
def IsBody (body : List Char) : Prop :=
  (∀ c ∈ body, isLineEnd c = false) ∧ PairsEscapes body

/-- How a character is written between slashes. -/
def written (c : Char) : List Char :=
  if c == '/' then ['\\', '/'] else [c]

theorem written_of_ne {c : Char} (h : c ≠ '/') : written c = [c] := by
  simp [written, h]

theorem units_written {body : List Char} (hline : ∀ c ∈ body, isLineEnd c = false)
    (h : PairsEscapes body) : Units '/' (body.flatMap written) := by
  fun_induction PairsEscapes body with
  | case1 => exact .nil
  | case2 => exact h.elim
  | case3 c rest ih =>
    have hc : isLineEnd c = false := hline c (by simp)
    rw [List.flatMap_cons, List.flatMap_cons, written_of_ne h.1]
    exact .pair hc (ih (fun d hd => hline d (by simp [hd])) h.2)
  | case4 c rest hlast hpair ih =>
    have hlater := ih (fun d hd => hline d (by simp [hd])) h
    rw [List.flatMap_cons]
    by_cases hc : c = '/'
    · subst hc
      exact .pair (by decide) hlater
    · rw [written_of_ne hc]
      exact .plain hc (ne_backslash hlast hpair) (hline c (by simp)) hlater

theorem unescape_written {body : List Char} (h : PairsEscapes body) :
    unescape (body.flatMap written) = some body := by
  fun_induction PairsEscapes body with
  | case1 => rfl
  | case2 => exact h.elim
  | case3 c rest ih =>
    have hc : (c == '/') = false := by simpa using h.1
    rw [List.flatMap_cons, List.flatMap_cons, written_of_ne h.1]
    show unescape ('\\' :: c :: rest.flatMap written) = _
    rw [unescape, ih h.2, hc]
    rfl
  | case4 c rest hlast hpair ih =>
    rw [List.flatMap_cons]
    by_cases hc : c = '/'
    · subst hc
      show unescape ('\\' :: '/' :: rest.flatMap written) = _
      rw [unescape, ih h]
      rfl
    · rw [written_of_ne hc, List.singleton_append, unescape_plain (ne_backslash hlast hpair),
        ih h]
      rfl

/-- What a slashed text stands for has its escapes in pairs. -/
theorem pairsEscapes_of_unescape {raw body : List Char} (h : unescape raw = some body) :
    PairsEscapes body := by
  fun_induction unescape raw generalizing body with
  | case1 =>
    cases h
    trivial
  | case2 => cases h
  | case3 c rest ih =>
    obtain ⟨tail, htail, rfl⟩ := Option.map_eq_some_iff.mp h
    by_cases hc : c = '/'
    · subst hc
      have hlater : PairsEscapes tail := ih htail
      exact hlater
    · rw [if_neg (by simpa using hc)]
      exact ⟨hc, ih htail⟩
  | case4 c rest hlast hpair ih =>
    obtain ⟨tail, htail, rfl⟩ := Option.map_eq_some_iff.mp h
    have hc := ne_backslash hlast hpair
    rw [PairsEscapes]
    · exact ih htail
    · exact fun h _ => hc h
    · exact fun _ _ h _ => hc h

/-- What is written between slashes has no line end unless its meaning has one. -/
theorem mem_of_unescape {raw body : List Char} (h : unescape raw = some body) {c : Char}
    (hc : c ∈ body) : c ∈ raw := by
  fun_induction unescape raw generalizing body with
  | case1 =>
    cases h
    cases hc
  | case2 => cases h
  | case3 d rest ih =>
    obtain ⟨tail, htail, rfl⟩ := Option.map_eq_some_iff.mp h
    have htail' := fun hmem => ih htail hmem
    split at hc
    · rename_i hd
      rw [beq_iff_eq.mp hd]
      rcases List.mem_cons.mp hc with rfl | hc
      · simp
      · simp [htail' hc]
    · rcases List.mem_cons.mp hc with rfl | hc
      · simp
      rcases List.mem_cons.mp hc with rfl | hc
      · simp
      · simp [htail' hc]
  | case4 d rest _ _ ih =>
    obtain ⟨tail, htail, rfl⟩ := Option.map_eq_some_iff.mp h
    rcases List.mem_cons.mp hc with rfl | hc
    · simp
    · simp [ih htail hc]

/-- A regex is read back from between its slashes. -/
theorem decode_written {body : List Char} (h : IsBody body) :
    decode ('/' :: (body.flatMap written ++ ['/'])) = .ok (String.ofList body) := by
  unfold decode
  rw [(units_written h.1 h.2).body?]
  simp only
  rw [unescape_written h.2]

/-- What one line is read as may be the body of a regex. -/
theorem isBody_of_decode {raw : List Char} {body : String} (hline : ∀ c ∈ raw, isLineEnd c = false)
    (h : decode raw = .ok body) : IsBody body.toList := by
  unfold decode at h
  split at h
  · cases h
  · rename_i inside hinside
    split at h
    · rename_i found hfound
      cases h
      rw [String.toList_ofList]
      obtain ⟨rfl, -⟩ := body?_eq_some.mp hinside
      refine ⟨fun c hc => hline c ?_, pairsEscapes_of_unescape hfound⟩
      exact List.mem_cons_of_mem _ (List.mem_append_left _ (mem_of_unescape hfound hc))
    · cases h

end Slashed
end Text
end GrammarText
