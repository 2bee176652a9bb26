/-
Texts that read as certain tokens whatever stands behind them.  A name goes on as long as word
characters do, so what stands behind must start with none: `Spells text tokens` is about every
continuation that breaks words, and spellings are put together by `Spells.append`.
-/
import GrammarText.Proofs.Lexer.Fragments
import GrammarText.Proofs.Text.Delimited
import GrammarText.Quantifier

namespace GrammarText
namespace Lexed

open Text

/-- The text does not start with a word character. -/
def Breaks (text : List Char) : Prop :=
  ∀ c more, text = c :: more → isWord c = false

/-- Before whatever breaks words, the text reads as the tokens. -/
def Spells (text : List Char) (tokens : List Token) : Prop :=
  ∀ later, Breaks later → reading (text ++ later) = tokens.map Fragment.token ++ reading later

theorem breaks_nil : Breaks [] := fun _ _ h => nomatch h

theorem breaks_cons {c : Char} {more : List Char} (h : isWord c = false) : Breaks (c :: more) := by
  intro d later hd
  rw [← (List.cons.inj hd).1]
  exact h

theorem spells_nil : Spells [] [] := fun _ _ => rfl

theorem Spells.reading_eq {text : List Char} {tokens : List Token} (h : Spells text tokens) :
    reading text = tokens.map Fragment.token := by
  have := h [] breaks_nil
  rwa [List.append_nil, reading_nil, List.append_nil] at this

/-- One spelling behind another, of which the second starts with no word character. -/
theorem Spells.append {a b : List Char} {tokens more : List Token} (ha : Spells a tokens)
    (hb : Spells b more) (hbreaks : ∀ later, Breaks later → Breaks (b ++ later)) :
    Spells (a ++ b) (tokens ++ more) := by
  intro later hlater
  rw [List.append_assoc, ha _ (hbreaks later hlater), hb later hlater, List.map_append,
    List.append_assoc]

theorem Spells.append_cons {a b : List Char} {c : Char} {tokens more : List Token}
    (ha : Spells a tokens) (hb : Spells (c :: b) more) (hc : isWord c = false) :
    Spells (a ++ c :: b) (tokens ++ more) :=
  ha.append hb fun _ _ => breaks_cons hc

/- Marks and blanks. -/

theorem drop_length_takeWhile (p : Char → Bool) (text : List Char) :
    text.drop (text.takeWhile p).length = text.dropWhile p := by
  calc text.drop (text.takeWhile p).length
      = (text.takeWhile p ++ text.dropWhile p).drop (text.takeWhile p).length := by
        rw [List.takeWhile_append_dropWhile]
    _ = text.dropWhile p := List.drop_left

theorem ofHead_blank {c : Char} (h : isBlank c = true) (rest : List Char) :
    Match.ofHead c rest = ⟨.skipped, (rest.takeWhile isBlank).length⟩ := by
  rw [Match.ofHead, if_pos h]

theorem reading_blank {c : Char} (h : isBlank c = true) (rest : List Char) :
    reading (c :: rest) = reading rest := by
  rw [reading_cons_skipped (by rw [ofHead_blank h]), ofHead_blank h, drop_length_takeWhile]
  -- All further blanks go together with the first.
  cases rest with
  | nil => rfl
  | cons d more =>
    by_cases hd : isBlank d = true
    · rw [List.dropWhile_cons_of_pos hd, reading_cons_skipped (by rw [ofHead_blank hd]),
        ofHead_blank hd, drop_length_takeWhile]
    · rw [List.dropWhile_cons_of_neg hd]

theorem Spells.blank {c : Char} {text : List Char} {tokens : List Token} (h : Spells text tokens)
    (hc : isBlank c = true) : Spells (c :: text) tokens := by
  intro later hlater
  rw [List.cons_append, reading_blank hc, h later hlater]

theorem ofHead_mark {c : Char} {m : Mark} (h : Mark.ofChar? c = some m) (rest : List Char) :
    Match.ofHead c rest = ⟨.token (.mark m), 0⟩ := by
  unfold Mark.ofChar? at h
  split at h <;> cases h <;> rfl

theorem ofHead_range (rest : List Char) :
    Match.ofHead '.' ('.' :: rest) = ⟨.token (.mark .range), 1⟩ := rfl

theorem reading_mark {c : Char} {m : Mark} (h : Mark.ofChar? c = some m) (rest : List Char) :
    reading (c :: rest) = .token (.mark m) :: reading rest :=
  reading_cons_of_ofHead (ofHead_mark h rest) (by simp)

theorem reading_range (rest : List Char) :
    reading ('.' :: '.' :: rest) = .token (.mark .range) :: reading rest :=
  reading_cons_of_ofHead (ofHead_range rest) (by simp)

theorem Spells.mark {c : Char} {m : Mark} {text : List Char} {tokens : List Token}
    (h : Spells text tokens) (hc : Mark.ofChar? c = some m) :
    Spells (c :: text) (.mark m :: tokens) := by
  intro later hlater
  rw [List.cons_append, reading_mark hc, h later hlater]
  rfl

theorem Spells.range {text : List Char} {tokens : List Token} (h : Spells text tokens) :
    Spells ('.' :: '.' :: text) (.mark .range :: tokens) := by
  intro later hlater
  rw [List.cons_append, List.cons_append, reading_range, h later hlater]
  rfl

/- Names. -/

/-- Wherever the character starts a fragment, the fragment is a name that `make` makes a token. -/
def OpensName (make : String → Token) (c : Char) : Prop :=
  ∀ rest, Match.ofHead c rest =
    ⟨.token (make (String.ofList (c :: rest.takeWhile isWord))), (rest.takeWhile isWord).length⟩

/-- A name is made a token by `make` only behind a character that opens such names. -/
def Names (make : String → Token) : Prop :=
  ∀ ⦃c rest name⦄, (Match.ofHead c rest).fragment = .token (make name) →
    OpensName make c ∧ name = String.ofList (c :: rest.takeWhile isWord)

theorem takeWhile_word {more later : List Char} (hmore : ∀ d ∈ more, isWord d = true)
    (hlater : Breaks later) : (more ++ later).takeWhile isWord = more := by
  rw [List.takeWhile_append_of_pos hmore]
  cases later with
  | nil => simp
  | cons d rest =>
    rw [List.takeWhile_cons_of_neg (by simp [hlater d rest rfl]), List.append_nil]

theorem spells_name {make : String → Token} {c : Char} {more : List Char} (hc : OpensName make c)
    (hmore : ∀ d ∈ more, isWord d = true) :
    Spells (c :: more) [make (String.ofList (c :: more))] := by
  intro later hlater
  have hhead := hc (more ++ later)
  rw [takeWhile_word hmore hlater] at hhead
  rw [List.cons_append, reading_cons_of_ofHead hhead (by simp), List.drop_left]
  rfl

/-- The outcome of a decoding is no name. -/
theorem ofExcept_map_ne {α : Type} {r : Except LexFault α} {f : α → Token} {t : Token}
    (h : ∀ a, f a ≠ t) : Fragment.ofExcept (r.map f) ≠ .token t := by
  cases r with
  | error e => simp [Except.map, Fragment.ofExcept]
  | ok a => simpa [Except.map, Fragment.ofExcept] using h a

theorem readInteger_ne {digits : List Char} {t : Token} (h : ∀ value, .integer value ≠ t) :
    Fragment.ofExcept (readInteger digits) ≠ .token t := by
  unfold readInteger
  simp only
  split
  · simpa [Fragment.ofExcept] using h _
  · simp [Fragment.ofExcept]

/-- Uppercase letters open the names of tokens and lowercase letters those of rules, and nothing
else makes a name. -/
theorem names_of {make : String → Token} (hmake : make = .tokenName ∨ make = .ruleName) :
    Names make := by
  have hliteral : ∀ text name, Token.literal text ≠ make name := by
    intro text name
    rcases hmake with rfl | rfl <;> simp
  have hregex : ∀ body name, Token.regex body ≠ make name := by
    intro body name
    rcases hmake with rfl | rfl <;> simp
  have hinteger : ∀ value name, Token.integer value ≠ make name := by
    intro value name
    rcases hmake with rfl | rfl <;> simp
  have hmark : ∀ m name, Token.mark m ≠ make name := by
    intro m name
    rcases hmake with rfl | rfl <;> simp
  intro c rest name h
  unfold Match.ofHead at h
  split at h
  · cases h
  rename_i hblank
  split at h
  · cases h
  rename_i hcomment
  split at h
  · exact absurd h (ofExcept_map_ne fun text => hliteral text name)
  rename_i hquote
  split at h
  · exact absurd h (ofExcept_map_ne fun body => hregex body name)
  rename_i hslash
  split at h
  · rename_i hupper
    rcases hmake with rfl | rfl <;> cases h
    refine ⟨fun rest => ?_, rfl⟩
    rw [Match.ofHead, if_neg hblank, if_neg hcomment, if_neg hquote, if_neg hslash, if_pos hupper]
  rename_i hupper
  split at h
  · rename_i hlower
    rcases hmake with rfl | rfl <;> cases h
    refine ⟨fun rest => ?_, rfl⟩
    rw [Match.ofHead, if_neg hblank, if_neg hcomment, if_neg hquote, if_neg hslash,
      if_neg hupper, if_pos hlower]
  split at h
  · exact absurd h (readInteger_ne fun value => hinteger value name)
  split at h
  · exact absurd (Fragment.token.inj h) (hmark _ name)
  split at h
  · exact absurd (Fragment.token.inj h) (hmark _ name)
  · cases h

theorem names_tokenName : Names .tokenName :=
  names_of (.inl rfl)

theorem names_ruleName : Names .ruleName :=
  names_of (.inr rfl)

/-- A name in a text is no longer than the text. -/
theorem length_le_of_mem_reading {make : String → Token} (hmake : Names make) {text : List Char}
    {name : String} (h : .token (make name) ∈ reading text) :
    name.toList.length ≤ text.length := by
  induction text using fragment_induction with
  | nil =>
    rw [reading_nil] at h
    cases h
  | cons c rest ih =>
    have hdrop : (rest.drop (Match.ofHead c rest).tail).length ≤ rest.length := by
      rw [List.length_drop]
      omega
    rw [reading_cons] at h
    split at h
    · have := ih h
      rw [List.length_cons]
      omega
    · rcases List.mem_cons.mp h with h | h
      · obtain ⟨-, rfl⟩ := hmake h.symm
        have := (List.takeWhile_prefix isWord (l := rest)).length_le
        rw [String.toList_ofList, List.length_cons, List.length_cons]
        omega
      · have := ih h
        rw [List.length_cons]
        omega

/-- A text that reads as itself and nothing more is a name from its first character on. -/
theorem name_of_reading_eq {make : String → Token} (hmake : Names make) {name : String}
    (h : reading name.toList = [.token (make name)]) :
    ∃ c more, name.toList = c :: more ∧ OpensName make c ∧ ∀ d ∈ more, isWord d = true := by
  cases htext : name.toList with
  | nil =>
    rw [htext, reading_nil] at h
    cases h
  | cons c rest =>
    rw [htext, reading_cons] at h
    split at h
    · -- What stands behind something skipped is shorter than the name.
      have hle := length_le_of_mem_reading hmake (h ▸ List.mem_singleton_self _)
      rw [htext, List.length_drop, List.length_cons] at hle
      omega
    · obtain ⟨hc, hname⟩ := hmake (List.cons.inj h).1
      have hall : rest = rest.takeWhile isWord := by
        rw [hname, String.toList_ofList] at htext
        exact (List.cons.inj htext).2.symm
      refine ⟨c, rest, rfl, hc, fun d hd => ?_⟩
      rw [hall] at hd
      exact List.all_eq_true.mp List.all_takeWhile d hd

/-- A name that reads as itself spells itself. -/
theorem spells_of_reading_eq {make : String → Token} (hmake : Names make) {name : String}
    (h : reading name.toList = [.token (make name)]) : Spells name.toList [make name] := by
  obtain ⟨c, more, hname, hc, hmore⟩ := name_of_reading_eq hmake h
  have := spells_name hc hmore
  rwa [← hname, String.ofList_toList] at this

/-- A name in a text reads as itself. -/
theorem reading_eq_of_mem {make : String → Token} (hmake : Names make) {text : List Char}
    {name : String} (h : .token (make name) ∈ reading text) :
    reading name.toList = [.token (make name)] := by
  induction text using fragment_induction with
  | nil =>
    rw [reading_nil] at h
    cases h
  | cons c rest ih =>
    rw [reading_cons] at h
    split at h
    · exact ih h
    · rcases List.mem_cons.mp h with h | h
      · obtain ⟨hc, rfl⟩ := hmake h.symm
        rw [String.toList_ofList]
        exact (spells_name hc fun d hd => List.all_eq_true.mp List.all_takeWhile d hd).reading_eq
      · exact ih h

end Lexed
end GrammarText
