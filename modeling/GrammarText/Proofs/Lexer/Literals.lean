/-
Spellings of literals, regexes, words and quantifiers, and what is known of the tokens of a text: a
name among them reads as itself, and a regex has its escapes in pairs.
-/
import GrammarText.Proofs.Lexer.Spelling

namespace GrammarText

/-- The tokens of a quantifier in its shortest spelling. -/
def Quantifier.tokens (q : Quantifier) : List Token :=
  match q.max with
  | none =>
      if q.min == 0 then [.mark .star]
      else if q.min == 1 then [.mark .plus]
      else [.mark .openBrace, .integer q.min, .mark .range, .mark .closeBrace]
  | some max =>
      if q.min == 0 && max == 1 then [.mark .question]
      else if q.min == max then [.mark .openBrace, .integer q.min, .mark .closeBrace]
      else
        [.mark .openBrace, .integer q.min, .mark .range, .integer max, .mark .closeBrace]

namespace Lexed

open Text

theorem ofHead_quote (rest : List Char) : Match.ofHead '\'' rest =
    ⟨.ofExcept ((Quoted.decode ('\'' :: (Delimited.split '\'' rest).1)).map .literal),
      (Delimited.split '\'' rest).1.length⟩ := rfl

theorem ofHead_slash (rest : List Char) : Match.ofHead '/' rest =
    ⟨.ofExcept ((Slashed.decode ('/' :: (Delimited.split '/' rest).1)).map .regex),
      (Delimited.split '/' rest).1.length⟩ := rfl

/-- A fragment that takes its first character and what stands in `inside`. -/
theorem reading_append {c : Char} {inside later : List Char} {t : Token}
    (h : Match.ofHead c (inside ++ later) = ⟨.token t, inside.length⟩) :
    reading (c :: inside ++ later) = .token t :: reading later := by
  rw [List.cons_append, reading_cons_of_ofHead h (by simp), List.drop_left]

/-- What stands behind the first quote of a quoted text is taken up to the last one. -/
theorem ofHead_encode (text : String) (later : List Char) :
    Match.ofHead '\'' (text.toList.flatMap Quoted.escape ++ ['\''] ++ later) =
      ⟨.token (.literal text), (text.toList.flatMap Quoted.escape ++ ['\'']).length⟩ := by
  rw [ofHead_quote, (Quoted.units_flatMap_escape text.toList).split (by decide),
    Quoted.decode_escape, String.ofList_toList]
  rfl

theorem spells_literal (text : String) : Spells (Quoted.encode text).toList [.literal text] := by
  intro later _
  rw [Quoted.encode, String.toList_ofList]
  exact reading_append (ofHead_encode text later)

theorem spells_regex {body : String} (h : Slashed.IsBody body.toList) :
    Spells (Slashed.encode body).toList [.regex body] := by
  intro later _
  have hhead := ofHead_slash (body.toList.flatMap Slashed.written ++ ['/'] ++ later)
  rw [(Slashed.units_written h.1 h.2).split (by decide), Slashed.decode_written h,
    String.ofList_toList] at hhead
  rw [Slashed.encode, String.toList_ofList]
  exact reading_append hhead

/-- A word in lowercase letters spells the name of a rule. -/
theorem spells_word {word : String} {c : Char} {more : List Char}
    (h : word = String.ofList (c :: more)) (hc : OpensName .ruleName c)
    (hmore : more.all isWord = true) :
    Spells word.toList [.ruleName word] := by
  have := spells_name hc (List.all_eq_true.mp hmore)
  rwa [← h, ← String.toList_ofList (l := c :: more), ← h] at this

/- Numbers. -/

theorem ofHead_digit {c : Char} (h : c.isDigit = true) (rest : List Char) :
    Match.ofHead c rest = ⟨.ofExcept (readInteger (c :: rest.takeWhile Char.isDigit)),
      (rest.takeWhile Char.isDigit).length⟩ := by
  have hrange : '0'.toNat ≤ c.toNat ∧ c.toNat ≤ '9'.toNat := Char.isDigit_iff_toNat.mp h
  have hcases : c.toNat = 48 ∨ c.toNat = 49 ∨ c.toNat = 50 ∨ c.toNat = 51 ∨ c.toNat = 52 ∨
      c.toNat = 53 ∨ c.toNat = 54 ∨ c.toNat = 55 ∨ c.toNat = 56 ∨ c.toNat = 57 := by
    simp only [Char.reduceToNat] at hrange
    omega
  rcases hcases with h | h | h | h | h | h | h | h | h | h <;>
    (have hc := congrArg Char.ofNat h; rw [Char.ofNat_toNat] at hc; subst hc; rfl)

theorem readInteger_eq {digits : List Char} {value : UInt32} :
    readInteger digits = .ok (.integer value) ↔ Nat.ofDigitChars 10 digits 0 = value.toNat := by
  rw [Nat.ofDigitChars_eq_foldl]
  show (if decimalValue digits < UInt32.size then _ else _) = _ ↔ decimalValue digits = _
  constructor
  · intro h
    split at h
    · rename_i hlt
      rw [← Token.integer.inj (Except.ok.inj h), UInt32.toNat_ofNat_of_lt' hlt]
    · cases h
  · intro h
    rw [h, if_pos value.toNat_lt, UInt32.ofNat_toNat]

/-- A number is read up to the first character that is no digit. -/
theorem reading_digits {digits : List Char} (hne : digits ≠ [])
    (hall : ∀ d ∈ digits, d.isDigit = true) {value : UInt32}
    (hvalue : Nat.ofDigitChars 10 digits 0 = value.toNat) {later : List Char}
    (hlater : ∀ c ∈ later.head?, c.isDigit = false) :
    reading (digits ++ later) = .token (.integer value) :: reading later := by
  obtain ⟨d, more, rfl⟩ := List.exists_cons_of_ne_nil hne
  have hstops : later.takeWhile Char.isDigit = [] := by
    cases later with
    | nil => rfl
    | cons c rest => exact List.takeWhile_cons_of_neg (by simp [hlater c rfl])
  have htake : (more ++ later).takeWhile Char.isDigit = more := by
    rw [List.takeWhile_append_of_pos fun e he => hall e (List.mem_cons_of_mem _ he), hstops,
      List.append_nil]
  have hhead := ofHead_digit (hall d (List.mem_cons_self ..)) (more ++ later)
  rw [htake, readInteger_eq.mpr hvalue] at hhead
  exact reading_append hhead

theorem reading_integer (value : UInt32) {c : Char} (hc : c.isDigit = false) (later : List Char) :
    reading ((toString value.toNat).toList ++ c :: later) =
      .token (.integer value) :: reading (c :: later) := by
  have htext : (toString value.toNat).toList = Nat.toDigits 10 value.toNat := Nat.toList_repr
  rw [htext]
  refine reading_digits Nat.toDigits_ne_nil (fun d hd => ?_) Nat.ofDigitChars_ten_toDigits ?_
  · exact Nat.isDigit_of_mem_toDigits (by decide) (by decide) hd
  · exact fun d hd => Option.some.inj hd ▸ hc

theorem Spells.integer {value : UInt32} {c : Char} {text : List Char} {tokens : List Token}
    (h : Spells (c :: text) tokens) (hc : c.isDigit = false) :
    Spells ((toString value.toNat).toList ++ c :: text) (.integer value :: tokens) := by
  intro later hlater
  rw [List.append_assoc, List.cons_append, reading_integer value hc, ← List.cons_append,
    h later hlater]
  rfl

theorem spells_mark {c : Char} {m : Mark} (h : Mark.ofChar? c = some m) : Spells [c] [.mark m] :=
  spells_nil.mark h

theorem spells_quantifier (q : Quantifier) : Spells q.text.toList q.tokens := by
  obtain ⟨min, max, ordered⟩ := q
  have hclose : Spells ['\x7d'] [.mark .closeBrace] := spells_mark rfl
  cases max with
  | none =>
    have htext : ("\x7b" ++ toString min.toNat ++ "..\x7d").toList =
        '\x7b' :: ((toString min.toNat).toList ++ ['.', '.', '\x7d']) := by simp
    unfold Quantifier.text Quantifier.tokens
    simp only
    split
    · exact spells_mark (c := '*') rfl
    split
    · exact spells_mark (c := '+') rfl
    · rw [htext]
      exact (hclose.range.integer (by decide)).mark rfl
  | some max =>
    have hexact : ("\x7b" ++ toString min.toNat ++ "\x7d").toList =
        '\x7b' :: ((toString min.toNat).toList ++ ['\x7d']) := by simp
    have htext : ("\x7b" ++ toString min.toNat ++ ".." ++ toString max.toNat ++ "\x7d").toList =
        '\x7b' :: ((toString min.toNat).toList ++
          '.' :: '.' :: ((toString max.toNat).toList ++ ['\x7d'])) := by simp
    unfold Quantifier.text Quantifier.tokens
    simp only
    split
    · exact spells_mark (c := '?') rfl
    split
    · rw [hexact]
      exact (hclose.integer (by decide)).mark rfl
    · rw [htext]
      exact ((hclose.integer (by decide)).range.integer (by decide)).mark rfl

/- What is known of the tokens of a text. -/

end Lexed

/-- What holds of every token of a text.  Names read as themselves, and a regex is the body of
one. -/
def Token.IsLexed : Token → Prop
  | tokenName name => Lexed.reading name.toList = [.token (.tokenName name)]
  | ruleName name => Lexed.reading name.toList = [.token (.ruleName name)]
  | regex body => Text.Slashed.IsBody body.toList
  | _ => True

namespace Lexed

open Text

/-- A regex comes from what stands between two slashes. -/
theorem isBody_of_ofHead {c : Char} {rest : List Char} {body : String}
    (h : (Match.ofHead c rest).fragment = .token (.regex body)) : Slashed.IsBody body.toList := by
  unfold Match.ofHead at h
  split at h
  · cases h
  split at h
  · cases h
  split at h
  · exact absurd h (ofExcept_map_ne (by simp))
  split at h
  · rename_i hslash
    rw [beq_iff_eq.mp hslash] at h
    simp only at h
    cases hdecode : Slashed.decode ('/' :: (Delimited.split '/' rest).1) with
    | error e =>
      rw [hdecode] at h
      cases h
    | ok found =>
      rw [hdecode] at h
      cases h
      refine Slashed.isBody_of_decode (List.forall_mem_cons.mpr ⟨rfl, fun c hc => ?_⟩) hdecode
      exact Delimited.not_isLineEnd_of_mem_split rfl hc
  split at h
  · cases h
  split at h
  · cases h
  split at h
  · exact absurd h (readInteger_ne (by simp))
  split at h
  · cases h
  split at h
  · cases h
  · cases h

theorem isBody_of_mem_reading {text : List Char} {body : String}
    (h : .token (.regex body) ∈ reading text) : Slashed.IsBody body.toList := by
  induction text using fragment_induction with
  | nil =>
    rw [reading_nil] at h
    cases h
  | cons c rest ih =>
    rw [reading_cons] at h
    split at h
    · exact ih h
    · rcases List.mem_cons.mp h with h | h
      · exact isBody_of_ofHead h.symm
      · exact ih h

theorem isLexed_of_mem_reading {text : List Char} {t : Token} (h : .token t ∈ reading text) :
    t.IsLexed := by
  cases t with
  | tokenName name => exact reading_eq_of_mem names_tokenName h
  | ruleName name => exact reading_eq_of_mem names_ruleName h
  | regex body => exact isBody_of_mem_reading h
  | literal _ => trivial
  | integer _ => trivial
  | mark _ => trivial

theorem isLexed_of_mem_tokens {source : String} {t : Token}
    (h : t ∈ nodes (tokenize source).tokens) : t.IsLexed :=
  isLexed_of_mem_reading (mem_reading_of_mem_tokens h)

end Lexed
end GrammarText
