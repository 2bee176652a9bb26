/-
The classes of fragments as languages.  A class is said by the texts it allows and by what it makes
of them.  The lexer looks at the first character, or at two for the range mark, and takes as much as
one class allows.  No other class allows more there, so what it takes is the longest prefix that any
class allows, and where no class allows any it takes one character.
-/
import GrammarText.Proofs.Lexer.Replacement
import Mathlib.Computability.Language

namespace GrammarText

open Computability

namespace Text

/-- The texts of one character in `S`. -/
def chars (S : Char → Prop) : Language Char :=
  {w : List Char | ∃ c, S c ∧ w = [c]}

/-- A character in `S` and any number of characters in `T`. -/
def run (S T : Char → Prop) : Language Char :=
  chars S * (chars T)∗

/-- A delimiter, a sequence of units and perhaps the delimiter again.  A unit is a character other
than the delimiter, the backslash and a line end, or a backslash with a character that ends no
line. -/
def delimited (delimiter : Char) : Language Char :=
  chars (· = delimiter) *
    (chars (fun c => c ≠ delimiter ∧ c ≠ '\\' ∧ isLineEnd c = false) +
      chars (· = '\\') * chars (fun c => isLineEnd c = false))∗ *
    (1 + chars (· = delimiter))

end Text

/-- The classes of fragments. -/
inductive LexicalClass where
  | blanks
  | comment
  | tokenName
  | ruleName
  | literal
  | regex
  | integer
  | mark (m : Mark)
  deriving Repr, DecidableEq

namespace LexicalClass

open Text

/-- The texts that a class allows.  The closing delimiter of a literal or a regex may be missing. -/
def texts : LexicalClass → Language Char
  | blanks => run (fun c => isBlank c = true) fun c => isBlank c = true
  | comment => run (· = '#') fun c => (!isLineEnd c) = true
  | tokenName => run (fun c => isUppercaseLetter c = true) fun c => isWord c = true
  | ruleName => run (fun c => isLowercaseLetter c = true) fun c => isWord c = true
  | literal => delimited '\''
  | regex => delimited '/'
  | integer => run (fun c => c.isDigit = true) fun c => c.isDigit = true
  | mark m => {m.text.toList}

/-- What a class makes of a text that it allows. -/
def read : LexicalClass → List Char → Fragment
  | blanks, _ | comment, _ => .skipped
  | tokenName, w => .token (.tokenName (String.ofList w))
  | ruleName, w => .token (.ruleName (String.ofList w))
  | literal, w => .ofExcept ((Quoted.decode w).map .literal)
  | regex, w => .ofExcept ((Slashed.decode w).map .regex)
  | integer, w => .ofExcept (readInteger w)
  | mark m, _ => .token (.mark m)

/-- The class allows the piece, and no class allows a longer prefix of the text. -/
structure Longest (k : LexicalClass) (piece text : List Char) : Prop where
  isPrefix : piece <+: text
  allowed : piece ∈ k.texts
  longest : ∀ other : LexicalClass, ∀ w ∈ other.texts, w <+: text → w.length ≤ piece.length

/-- No class allows a prefix of the text. -/
def Unmatched (text : List Char) : Prop :=
  ∀ k : LexicalClass, ∀ w ∈ k.texts, ¬ w <+: text

end LexicalClass

namespace Text

theorem mem_chars_mul {S : Char → Prop} {K : Language Char} {w : List Char} :
    w ∈ chars S * K ↔ ∃ c rest, w = c :: rest ∧ S c ∧ rest ∈ K := by
  rw [Language.mem_mul]
  constructor
  · rintro ⟨_, ⟨c, hc, rfl⟩, rest, hrest, rfl⟩
    exact ⟨c, rest, rfl, hc, hrest⟩
  · rintro ⟨c, rest, rfl, hc, hrest⟩
    exact ⟨[c], ⟨c, hc, rfl⟩, rest, hrest, rfl⟩

theorem append_mem_kstar {D : Language Char} {a w : List Char} (ha : a ∈ D) (hw : w ∈ D∗) :
    a ++ w ∈ D∗ :=
  (mul_kstar_le_kstar : D * D∗ ≤ D∗) (Language.append_mem_mul ha hw)

theorem mem_chars_kstar {S : Char → Prop} {w : List Char} :
    w ∈ (chars S)∗ ↔ ∀ c ∈ w, S c := by
  constructor
  · rintro ⟨parts, rfl, hparts⟩ c hc
    obtain ⟨part, hpart, hc⟩ := List.mem_flatten.mp hc
    obtain ⟨d, hd, rfl⟩ := hparts part hpart
    rwa [List.mem_singleton.mp hc]
  · intro h
    induction w with
    | nil => exact Language.nil_mem_kstar _
    | cons c rest ih =>
      exact append_mem_kstar (a := [c]) ⟨c, h c (List.mem_cons_self ..), rfl⟩
        (ih fun d hd => h d (List.mem_cons_of_mem _ hd))

theorem mem_run {S T : Char → Prop} {w : List Char} :
    w ∈ run S T ↔ ∃ c rest, w = c :: rest ∧ S c ∧ ∀ d ∈ rest, T d := by
  simp only [run, mem_chars_mul, mem_chars_kstar]

open Delimited in
theorem mem_units {delimiter : Char} {w : List Char} :
    w ∈ (chars (fun c => c ≠ delimiter ∧ c ≠ '\\' ∧ isLineEnd c = false) +
      chars (· = '\\') * chars (fun c => isLineEnd c = false))∗ ↔ Units delimiter w := by
  constructor
  · rintro ⟨parts, rfl, hparts⟩
    induction parts with
    | nil => exact .nil
    | cons part rest ih =>
      have hrest := ih fun p hp => hparts p (List.mem_cons_of_mem _ hp)
      rcases hparts part (List.mem_cons_self ..) with ⟨c, ⟨hd, hb, hl⟩, rfl⟩ | hpair
      · exact .plain hd hb hl hrest
      · obtain ⟨_, _, rfl, rfl, d, hl, rfl⟩ := mem_chars_mul.mp hpair
        exact .pair hl hrest
  · intro h
    induction h with
    | nil => exact Language.nil_mem_kstar _
    | @plain c rest hd hb hl _ ih =>
      exact append_mem_kstar (a := [c]) (.inl ⟨c, ⟨hd, hb, hl⟩, rfl⟩) ih
    | @pair c rest hl _ ih =>
      exact append_mem_kstar (a := ['\\', c])
        (.inr (mem_chars_mul.mpr ⟨_, _, rfl, rfl, c, hl, rfl⟩)) ih

theorem mem_delimited {delimiter : Char} {w : List Char} :
    w ∈ delimited delimiter ↔ ∃ units, Delimited.Units delimiter units ∧
      (w = delimiter :: units ∨ w = delimiter :: (units ++ [delimiter])) := by
  unfold delimited
  rw [mul_assoc, mem_chars_mul]
  simp only [Language.mem_mul, mem_units]
  constructor
  · rintro ⟨_, _, rfl, rfl, units, hunits, last, hlast, rfl⟩
    refine ⟨units, hunits, ?_⟩
    rcases hlast with rfl | ⟨_, rfl, rfl⟩
    · exact .inl (by rw [List.append_nil])
    · exact .inr rfl
  · rintro ⟨units, hunits, rfl | rfl⟩
    · exact ⟨_, _, rfl, rfl, units, hunits, [], .inl rfl, List.append_nil _⟩
    · exact ⟨_, _, rfl, rfl, units, hunits, [delimiter], .inr ⟨_, rfl, rfl⟩, rfl⟩

theorem length_le_takeWhile {accept : Char → Bool} {w rest : List Char}
    (hw : ∀ c ∈ w, accept c = true) (h : w <+: rest) :
    w.length ≤ (rest.takeWhile accept).length := by
  obtain ⟨later, rfl⟩ := h
  rw [List.takeWhile_append_of_pos hw, List.length_append]
  exact Nat.le_add_right _ _

/-- No sequence of units goes on where the literal stops, and no delimiter is left there. -/
theorem Delimited.Units.length_le_split {delimiter : Char} (hb : delimiter ≠ '\\')
    {units last rest : List Char} (h : Delimited.Units delimiter units)
    (hlast : last = [] ∨ last = [delimiter]) (hstarts : units ++ last <+: rest) :
    (units ++ last).length ≤ (Delimited.split delimiter rest).1.length := by
  obtain ⟨later, rfl⟩ := hstarts
  induction h with
  | nil =>
    rcases hlast with rfl | rfl
    · exact Nat.zero_le _
    · show _ ≤ (Delimited.split delimiter (delimiter :: later)).1.length
      rw [Delimited.split_cons hb, if_pos (beq_self_eq_true _)]
      exact Nat.le_refl _
  | @plain c rest hd hc hl _ ih =>
    show _ ≤ (Delimited.split delimiter (c :: (rest ++ last ++ later))).1.length
    rw [Delimited.split_cons hc, if_neg (by simpa using hd), if_neg (by simp [hl])]
    exact Nat.succ_le_succ ih
  | @pair c rest hl _ ih =>
    show _ ≤ (Delimited.split delimiter ('\\' :: c :: (rest ++ last ++ later))).1.length
    rw [Delimited.split_backslash, if_neg (by simp [hl])]
    exact Nat.succ_le_succ (Nat.succ_le_succ ih)

end Text

namespace LexicalClass

open Text

/-- The number of characters that the class takes behind the first. -/
def tail (rest : List Char) : LexicalClass → Nat
  | blanks => (rest.takeWhile isBlank).length
  | comment => (rest.takeWhile (!isLineEnd ·)).length
  | tokenName | ruleName => (rest.takeWhile isWord).length
  | literal => (Delimited.split '\'' rest).1.length
  | regex => (Delimited.split '/' rest).1.length
  | integer => (rest.takeWhile Char.isDigit).length
  | mark .range => 1
  | mark _ => 0

/-- The class allows some text that starts with `c` and goes on into `rest`. -/
def Opens (c : Char) (rest : List Char) : LexicalClass → Prop
  | blanks => isBlank c = true
  | comment => c = '#'
  | tokenName => isUppercaseLetter c = true
  | ruleName => isLowercaseLetter c = true
  | literal => c = '\''
  | regex => c = '/'
  | integer => c.isDigit = true
  | mark .range => c = '.' ∧ rest.head? = some '.'
  | mark m => Mark.ofChar? c = some m

/-- A prefix that is allowed starts as the class asks and is no longer than what it takes. -/
theorem opens_of_mem {k : LexicalClass} {c : Char} {w rest : List Char} (hw : w ∈ k.texts)
    (h : w <+: c :: rest) : k.Opens c rest ∧ w.length ≤ k.tail rest + 1 := by
  have hrun : ∀ {S : Char → Prop} {accept : Char → Bool},
      w ∈ run S (fun d => accept d = true) →
      S c ∧ w.length ≤ (rest.takeWhile accept).length + 1 := by
    intro S accept hw
    obtain ⟨d, more, rfl, hd, hmore⟩ := mem_run.mp hw
    obtain ⟨rfl, hrest⟩ := List.cons_prefix_cons.mp h
    exact ⟨hd, Nat.succ_le_succ (length_le_takeWhile hmore hrest)⟩
  have hdelimited : ∀ {delimiter : Char}, delimiter ≠ '\\' → w ∈ delimited delimiter →
      c = delimiter ∧ w.length ≤ (Delimited.split delimiter rest).1.length + 1 := by
    intro delimiter hb hw
    obtain ⟨units, hunits, hw⟩ := mem_delimited.mp hw
    obtain ⟨last, hlast, rfl⟩ : ∃ last, (last = [] ∨ last = [delimiter]) ∧
        w = delimiter :: (units ++ last) := by
      rcases hw with rfl | rfl
      · exact ⟨[], .inl rfl, by rw [List.append_nil]⟩
      · exact ⟨_, .inr rfl, rfl⟩
    obtain ⟨rfl, hrest⟩ := List.cons_prefix_cons.mp h
    exact ⟨rfl, Nat.succ_le_succ (hunits.length_le_split hb hlast hrest)⟩
  cases k with
  | blanks => exact hrun hw
  | comment => exact hrun hw
  | tokenName => exact hrun hw
  | ruleName => exact hrun hw
  | literal => exact hdelimited (by decide) hw
  | regex => exact hdelimited (by decide) hw
  | integer => exact hrun hw
  | mark m =>
    obtain rfl : w = m.text.toList := hw
    cases m with
    | range =>
      obtain ⟨rfl, hrest⟩ := List.cons_prefix_cons.mp h
      obtain ⟨later, rfl⟩ := hrest
      exact ⟨⟨rfl, rfl⟩, Nat.le_refl 2⟩
    | _ =>
      obtain ⟨rfl, -⟩ := List.cons_prefix_cons.mp h
      exact ⟨rfl, Nat.le_refl 1⟩

theorem ofChar?_text {c : Char} {m : Mark} (h : Mark.ofChar? c = some m) :
    m.text.toList = [c] ∧ m ≠ .range := by
  unfold Mark.ofChar? at h
  split at h <;> cases h <;> exact ⟨rfl, nofun⟩

/-- What a class takes it allows. -/
theorem mem_of_opens {k : LexicalClass} {c : Char} {rest : List Char} (h : k.Opens c rest) :
    c :: rest.take (k.tail rest) ∈ k.texts := by
  have htaken : ∀ {more : List Char}, more <+: rest → rest.take more.length = more :=
    fun h => (List.prefix_iff_eq_take.mp h).symm
  have hrun : ∀ {S : Char → Prop} {accept : Char → Bool}, S c →
      c :: rest.take (rest.takeWhile accept).length ∈ run S fun d => accept d = true := by
    intro S accept hc
    rw [htaken (List.takeWhile_prefix _)]
    exact mem_run.mpr ⟨c, _, rfl, hc, List.all_eq_true.mp List.all_takeWhile⟩
  have hdelimited : ∀ {delimiter : Char}, c = delimiter →
      c :: rest.take (Delimited.split delimiter rest).1.length ∈ delimited delimiter := by
    rintro delimiter rfl
    rw [htaken (Delimited.split_taken _ _)]
    obtain ⟨units, hunits, hsplit⟩ := Delimited.split_units c rest
    exact mem_delimited.mpr ⟨units, hunits, hsplit.imp (by rw [·]) (by rw [·])⟩
  cases k with
  | blanks => exact hrun h
  | comment => exact @hrun (· = '#') (!isLineEnd ·) h
  | tokenName => exact hrun h
  | ruleName => exact hrun h
  | literal => exact hdelimited h
  | regex => exact hdelimited h
  | integer => exact hrun h
  | mark m =>
    show c :: rest.take _ = m.text.toList
    by_cases hm : m = .range
    · subst hm
      obtain ⟨rfl, hhead⟩ := h
      cases rest with
      | nil => cases hhead
      | cons d more =>
        cases hhead
        rfl
    · have hc : Mark.ofChar? c = some m := by
        cases m <;> first | exact h | exact absurd rfl hm
      have htail : (mark m).tail rest = 0 := by
        cases m <;> first | rfl | exact absurd rfl hm
      rw [(ofChar?_text hc).1, htail, List.take_zero]

/-- No letter is one of the characters that the lexer looks for before it looks for letters. -/
theorem letter_ne {c d : Char} (hc : isUppercaseLetter c = true ∨ isLowercaseLetter c = true)
    (hd : d ∈ [' ', '\t', '\r', '\n', '\x0c', '#', '\'', '/']) : c ≠ d := by
  have hall : ([' ', '\t', '\r', '\n', '\x0c', '#', '\'', '/'].all fun d =>
      !(isUppercaseLetter d || isLowercaseLetter d)) = true := by decide
  rintro rfl
  have hletter := List.all_eq_true.mp hall c hd
  rcases hc with hc | hc <;> simp [hc] at hletter

/-- A letter that opens a name. -/
theorem ofHead_letter {c : Char} (hc : isUppercaseLetter c = true ∨ isLowercaseLetter c = true)
    (rest : List Char) : Match.ofHead c rest =
      ⟨.token ((if isUppercaseLetter c then Token.tokenName else .ruleName)
        (String.ofList (c :: rest.takeWhile isWord))), (rest.takeWhile isWord).length⟩ := by
  have hblank : ¬ isBlank c = true := by
    simp [isBlank, letter_ne hc]
  rw [Match.ofHead, if_neg hblank, if_neg (by simp [letter_ne hc]), if_neg (by simp [letter_ne hc]),
    if_neg (by simp [letter_ne hc])]
  by_cases hupper : isUppercaseLetter c = true
  · rw [if_pos hupper, if_pos hupper]
  · rw [if_neg hupper, if_pos (hc.resolve_left hupper), if_neg hupper]

/-- Where a class opens, the lexer takes what the class takes. -/
theorem ofHead_tail {k : LexicalClass} {c : Char} {rest : List Char} (h : k.Opens c rest) :
    (Match.ofHead c rest).tail = k.tail rest := by
  cases k with
  | blanks => rw [Lexed.ofHead_blank h, tail]
  | comment =>
    obtain rfl : c = '#' := h
    rfl
  | tokenName => rw [ofHead_letter (.inl h), tail]
  | ruleName => rw [ofHead_letter (.inr h), tail]
  | literal =>
    obtain rfl : c = '\'' := h
    rw [Lexed.ofHead_quote, tail]
  | regex =>
    obtain rfl : c = '/' := h
    rw [Lexed.ofHead_slash, tail]
  | integer => rw [Lexed.ofHead_digit h, tail]
  | mark m =>
    cases m with
    | range =>
      obtain ⟨rfl, hhead⟩ := h
      obtain ⟨more, rfl⟩ := List.head?_eq_some_iff.mp hhead
      rw [Lexed.ofHead_range, tail]
    | _ => exact congrArg Match.tail (Lexed.ofHead_mark h rest)

/-- The lexer reads a text by a class that opens there.  If none does it faults one character. -/
theorem ofHead_cases (c : Char) (rest : List Char) :
    (∃ k : LexicalClass, k.Opens c rest ∧ ∀ more, k.Opens c more →
      Match.ofHead c more = ⟨k.read (c :: more.take (k.tail more)), k.tail more⟩) ∨
    ((∀ k : LexicalClass, ¬ k.Opens c rest) ∧
      Match.ofHead c rest = ⟨.fault .unexpectedCharacter, 0⟩) := by
  have htake : ∀ {accept : Char → Bool} (more : List Char),
      more.take (more.takeWhile accept).length = more.takeWhile accept :=
    fun more => (List.prefix_iff_eq_take.mp (List.takeWhile_prefix _)).symm
  have hsplit : ∀ delimiter (more : List Char),
      more.take (Delimited.split delimiter more).1.length = (Delimited.split delimiter more).1 :=
    fun delimiter more => (List.prefix_iff_eq_take.mp (Delimited.split_taken delimiter more)).symm
  by_cases hblank : isBlank c = true
  · exact .inl ⟨.blanks, hblank, fun more _ => Lexed.ofHead_blank hblank more⟩
  by_cases hcomment : c = '#'
  · subst hcomment
    exact .inl ⟨.comment, rfl, fun more _ => rfl⟩
  by_cases hquote : c = '\''
  · subst hquote
    refine .inl ⟨.literal, rfl, fun more _ => ?_⟩
    rw [Lexed.ofHead_quote, read, tail, hsplit]
  by_cases hslash : c = '/'
  · subst hslash
    refine .inl ⟨.regex, rfl, fun more _ => ?_⟩
    rw [Lexed.ofHead_slash, read, tail, hsplit]
  by_cases hupper : isUppercaseLetter c = true
  · refine .inl ⟨.tokenName, hupper, fun more _ => ?_⟩
    rw [ofHead_letter (.inl hupper), if_pos hupper, read, tail, htake]
  by_cases hlower : isLowercaseLetter c = true
  · refine .inl ⟨.ruleName, hlower, fun more _ => ?_⟩
    rw [ofHead_letter (.inr hlower), if_neg hupper, read, tail, htake]
  by_cases hdigit : c.isDigit = true
  · refine .inl ⟨.integer, hdigit, fun more _ => ?_⟩
    rw [Lexed.ofHead_digit hdigit, read, tail, htake]
  by_cases hrange : c = '.' ∧ rest.head? = some '.'
  · refine .inl ⟨.mark .range, hrange, fun more hmore => ?_⟩
    obtain ⟨rfl, hhead⟩ := hmore
    obtain ⟨later, rfl⟩ := List.head?_eq_some_iff.mp hhead
    rw [Lexed.ofHead_range, read, tail]
  cases hmark : Mark.ofChar? c with
  | some m =>
    have hm : ∀ more, (mark m).Opens c more ∧ (mark m).tail more = 0 := by
      intro more
      have hne := (ofChar?_text hmark).2
      cases m <;> first | exact ⟨hmark, rfl⟩ | exact absurd rfl hne
    refine .inl ⟨.mark m, (hm rest).1, fun more _ => ?_⟩
    rw [Lexed.ofHead_mark hmark, read, (hm more).2]
  | none =>
    refine .inr ⟨fun k hk => ?_, ?_⟩
    · cases k with
      | mark m =>
        cases m with
        | range => exact hrange hk
        | _ => exact nomatch hmark.symm.trans hk
      | blanks => exact hblank hk
      | comment => exact hcomment hk
      | tokenName => exact hupper hk
      | ruleName => exact hlower hk
      | literal => exact hquote hk
      | regex => exact hslash hk
      | integer => exact hdigit hk
    · rw [Match.ofHead, if_neg hblank, if_neg (by simpa using hcomment),
        if_neg (by simpa using hquote), if_neg (by simpa using hslash), if_neg hupper,
        if_neg hlower, if_neg hdigit, if_neg (by simpa using hrange), hmark]

/-- What the lexer takes is the longest prefix that any class allows, read as the class reads it. -/
theorem longest_of_opens {k : LexicalClass} {c : Char} {rest : List Char} (h : k.Opens c rest) :
    k.Longest (c :: rest.take (k.tail rest)) (c :: rest) := by
  refine ⟨List.cons_prefix_cons.mpr ⟨rfl, List.take_prefix _ _⟩, mem_of_opens h, ?_⟩
  intro other w hw hprefix
  obtain ⟨hopens, hlength⟩ := opens_of_mem hw hprefix
  have htail : other.tail rest = k.tail rest := by rw [← ofHead_tail hopens, ofHead_tail h]
  have hw' : w.length ≤ rest.length + 1 := hprefix.length_le
  rw [List.length_cons, List.length_take]
  omega

theorem unmatched_of_not_opens {c : Char} {rest : List Char}
    (h : ∀ k : LexicalClass, ¬ k.Opens c rest) : Unmatched (c :: rest) :=
  fun k _ hw hprefix => h k (opens_of_mem hw hprefix).1

end LexicalClass
end GrammarText
