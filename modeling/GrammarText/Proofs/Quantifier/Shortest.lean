/-
The printed text of a quantifier.  It is made of the texts of tokens, one right behind the other,
and laid out in any other way the tokens take up as much room at least.  Of all tokens that a
quantifier can be written with, the printed ones take up the least.
-/
import GrammarText.Proofs.Printer.Derivation
import GrammarText.Proofs.Quantifier.Resolution

namespace GrammarText

open Text LexicalClass GrammarText.Grammar

variable {t : Token} {tokens : List Token} {w : List Char}

namespace Text

theorem length_le_byteLength (w : List Char) : w.length ≤ byteLength w := by
  induction w with
  | nil => exact Nat.le_refl _
  | cons c rest ih =>
    have hpos := c.utf8Size_pos
    simp only [List.length_cons, byteLength]
    omega

theorem byteLength_eq_length (h : ∀ c ∈ w, c.utf8Size = 1) : byteLength w = w.length := by
  induction w with
  | nil => rfl
  | cons c rest ih =>
    obtain ⟨hc, hrest⟩ := List.forall_mem_cons.mp h
    simp only [List.length_cons, byteLength, hc, ih hrest]
    omega

end Text

/- Numbers. -/

theorem ofDigitChars_lt {digits : List Char} (h : ∀ d ∈ digits, d.isDigit = true) (init : Nat) :
    Nat.ofDigitChars 10 digits init < (init + 1) * 10 ^ digits.length := by
  induction digits generalizing init with
  | nil => simp
  | cons d rest ih =>
    obtain ⟨hd, hrest⟩ := List.forall_mem_cons.mp h
    have hdigit : d.toNat - '0'.toNat ≤ 9 := by
      have := (Char.isDigit_iff_toNat.mp hd).2
      simp only [Char.reduceToNat] at this ⊢
      omega
    rw [Nat.ofDigitChars_cons]
    calc Nat.ofDigitChars 10 rest (10 * init + (d.toNat - '0'.toNat))
        < (10 * init + (d.toNat - '0'.toNat) + 1) * 10 ^ rest.length := ih hrest _
      _ ≤ ((init + 1) * 10) * 10 ^ rest.length := Nat.mul_le_mul_right _ (by omega)
      _ = (init + 1) * 10 ^ (d :: rest).length := by
        rw [List.length_cons, Nat.pow_succ', Nat.mul_assoc]

/-- Zeros in front are all that numerals can have beyond those that are printed. -/
theorem length_toDigits_le {value : UInt32} (h : w ∈ numerals value) :
    (Nat.toDigits 10 value.toNat).length ≤ w.length := by
  obtain ⟨hdigits, hvalue⟩ := h
  obtain ⟨d, more, rfl, hd, hmore⟩ := mem_run.mp hdigits
  have hlt := ofDigitChars_lt (List.forall_mem_cons.mpr ⟨hd, hmore⟩) 0
  rw [hvalue, Nat.zero_add, Nat.one_mul] at hlt
  exact (Nat.length_toDigits_le_iff (by decide) (Nat.succ_pos _)).mpr hlt

namespace Token

theorem text_integer (value : UInt32) :
    (Token.integer value).text.toList = Nat.toDigits 10 value.toNat :=
  Nat.toList_repr

theorem isDigit_text (value : UInt32) :
    ∀ d ∈ (Token.integer value).text.toList, d.isDigit = true := by
  rw [text_integer]
  exact fun d hd => Nat.isDigit_of_mem_toDigits (by decide) (by decide) hd

theorem text_mem_texts (h : Apart [t]) : t.text.toList ∈ t.texts := by
  cases h with
  | mark => rfl
  | @integer value =>
    have hdigits := isDigit_text value
    rw [text_integer] at hdigits ⊢
    refine ⟨?_, Nat.ofDigitChars_ten_toDigits⟩
    obtain ⟨d, more, heq⟩ :=
      List.exists_cons_of_ne_nil (Nat.toDigits_ne_nil (n := value.toNat) (b := 10))
    rw [heq] at hdigits ⊢
    obtain ⟨hd, hmore⟩ := List.forall_mem_cons.mp hdigits
    exact mem_run.mpr ⟨d, more, rfl, hd, hmore⟩

theorem length_text_le (h : w ∈ t.texts) : t.text.toList.length ≤ w.length := by
  cases t with
  | integer value =>
    rw [text_integer]
    exact length_toDigits_le h
  | mark m =>
    obtain rfl : w = m.text.toList := h
    exact Nat.le_refl _
  | _ => exact absurd h (Language.notMem_zero w)

theorem utf8Size_text (h : Apart [t]) : ∀ c ∈ t.text.toList, c.utf8Size = 1 := by
  cases h with
  | @mark m =>
    have hall : m.text.toList.all (·.utf8Size == 1) = true := by cases m <;> rfl
    exact fun c hc => beq_iff_eq.mp (List.all_eq_true.mp hall c hc)
  | @integer value =>
    intro d hd
    have hdigit := Bool.and_eq_true_iff.mp (isDigit_text value d hd)
    exact Char.utf8Size_eq_one_iff.mpr
      (UInt32.le_trans (of_decide_eq_true hdigit.2) (by decide))

end Token

/-- The texts of the tokens, one right behind the other. -/
def bareText (tokens : List Token) : List Char :=
  tokens.flatMap (·.text.toList)

theorem bareText_mem_laidOut (h : Apart tokens) : bareText tokens ∈ laidOut tokens := by
  induction tokens with
  | nil => exact Language.nil_mem_kstar _
  | cons t rest ih =>
    exact mem_laidOut_cons.mpr
      ⟨[], t.text.toList, bareText rest, rfl, .nil, Token.text_mem_texts h.head, ih h.tail⟩

theorem length_bareText_le (h : w ∈ laidOut tokens) : (bareText tokens).length ≤ w.length := by
  induction tokens generalizing w with
  | nil => exact Nat.zero_le _
  | cons t rest ih =>
    obtain ⟨gap, piece, later, rfl, -, hpiece, hlater⟩ := mem_laidOut_cons.mp h
    have hfirst := Token.length_text_le hpiece
    have hbehind := ih hlater
    rw [bareText, List.flatMap_cons, ← bareText]
    simp only [List.length_append]
    omega

theorem utf8Size_bareText (h : Apart tokens) : ∀ c ∈ bareText tokens, c.utf8Size = 1 := by
  induction tokens with
  | nil => exact fun c hc => nomatch hc
  | cons t rest ih =>
    intro c hc
    rcases List.mem_append.mp hc with hc | hc
    · exact Token.utf8Size_text h.head c hc
    · exact ih h.tail c hc

namespace Quantifier

theorem toList_text (q : Quantifier) : q.text.toList = bareText q.tokens := by
  obtain ⟨min, max, ordered⟩ := q
  unfold Quantifier.text Quantifier.tokens bareText
  cases max with
  | none =>
    simp only
    split
    · rfl
    split
    · rfl
    · simp [Token.text, Mark.text]
  | some max =>
    simp only
    split
    · rfl
    split
    · simp [Token.text, Mark.text]
    · simp [Token.text, Mark.text]

theorem tokens_exactly (count : UInt32) :
    (exactly count).tokens = [.mark .openBrace, .integer count, .mark .closeBrace] := by
  have hoptional : ¬ (count == 0 && count == 1) = true := fun h => by
    obtain ⟨rfl, hone⟩ : count = 0 ∧ count = 1 := by simpa using h
    cases hone
  exact (if_neg hoptional).trans (if_pos (beq_self_eq_true count))

theorem tokens_atLeast (min : UInt32) : (atLeast min).tokens =
    if min == 0 then [.mark .star] else if min == 1 then [.mark .plus]
    else [.mark .openBrace, .integer min, .mark .range, .mark .closeBrace] :=
  rfl

theorem tokens_between {min max : UInt32} (ordered : min ≤ max) : (between ordered).tokens =
    if min == 0 && max == 1 then [.mark .question]
    else if min == max then [.mark .openBrace, .integer min, .mark .closeBrace]
    else [.mark .openBrace, .integer min, .mark .range, .integer max, .mark .closeBrace] :=
  rfl

/-- A quantifier can be written with other tokens, but they do not take up less room. -/
theorem length_bareText_le_of_bounds {q : Quantifier} (h : Bounds tokens q []) :
    (bareText q.tokens).length ≤ (bareText tokens).length := by
  cases h with
  | optional => exact Nat.le_refl _
  | zeroOrMore => exact Nat.le_refl _
  | oneOrMore => exact Nat.le_refl _
  | exactly => rw [tokens_exactly]
  | atLeast =>
    rw [tokens_atLeast]
    split_ifs
    · simp [bareText, Token.text, Mark.text]
    · simp [bareText, Token.text, Mark.text]
    · exact Nat.le_refl _
  | between ordered =>
    rw [tokens_between]
    split_ifs
    · simp [bareText, Token.text, Mark.text]
    · simp [bareText, Token.text, Mark.text]
    · exact Nat.le_refl _

/-- The printed text of a quantifier resolves to it, and no shorter text does. -/
theorem text_shortest (q : Quantifier) : resolve q.text = .ok (some q) ∧
    ∀ text, resolve text = .ok (some q) → q.text.length ≤ text.length ∧
      byteLength q.text.toList ≤ byteLength text.toList := by
  have hbounds : Bounds q.tokens q [] := by
    have := quantifier_derives q []
    rwa [List.append_nil] at this
  have hprinted : q.text.toList ∈ q.spellings :=
    ⟨q.tokens, hbounds, q.toList_text ▸ bareText_mem_laidOut hbounds.apart⟩
  refine ⟨resolve_eq_some.mpr hprinted, fun text htext => ?_⟩
  obtain ⟨tokens, hspelled, hlaid⟩ := resolve_eq_some.mp htext
  have hlength : q.text.toList.length ≤ text.toList.length := by
    rw [q.toList_text]
    exact (length_bareText_le_of_bounds hspelled).trans (length_bareText_le hlaid)
  have hbytes : byteLength q.text.toList = q.text.toList.length := by
    rw [q.toList_text]
    exact byteLength_eq_length (utf8Size_bareText hbounds.apart)
  exact ⟨hlength, hbytes ▸ hlength.trans (length_le_byteLength _)⟩

/-- The bounds from none to one are longer than the question mark. -/
theorem text_shortest_optional :
    resolve "{00 .. 1} # or a mark" = .ok (some optional) ∧
      optional.text.length ≤ "{00 .. 1} # or a mark".length := by
  have hresolve : resolve "{00 .. 1} # or a mark" = .ok (some optional) := by decide +kernel
  exact ⟨hresolve, ((text_shortest optional).2 _ hresolve).1⟩

end Quantifier
end GrammarText
