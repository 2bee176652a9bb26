/-
Lexing and decoding of literals agree.  A fragment that the class of literals or that of regexes
allows is units behind an opening delimiter, so its decoding is told by its units.  What is written
by the rules of escaping is read back, and a regex is read back only if a regex of some text is read
as its body.
-/
import GrammarText.Pattern.Printer
import GrammarText.Proofs.Canonical
import GrammarText.Proofs.Lexer.Lines
import Mathlib.Tactic.TFAE

namespace GrammarText

namespace Text

open Delimited

/-- Whatever is allowed between delimiters is read as units, in one way. -/
theorem exists_reading {delimiter : Char} {raw : List Char} (h : raw ∈ delimited delimiter) :
    ∃ r : Reading delimiter raw, ∀ other, other = r := by
  obtain ⟨units, hunits, hraw⟩ := mem_delimited.mp h
  obtain ⟨items, hplain, hdelimiter, rfl⟩ := hunits.exists_items
  rcases hraw with rfl | rfl
  · exact ⟨⟨items, false, by simp, hplain, hdelimiter⟩, fun other => other.eq _⟩
  · exact ⟨⟨items, true, by simp, hplain, hdelimiter⟩, fun other => other.eq _⟩

namespace Quoted

variable {raw : List Char} (r : Reading '\'' raw)
include r

theorem known_items : (∀ item ∈ r.items, Known item) ↔ ∀ c, .pair c ∈ r.items → c ∈ escapes := by
  constructor
  · exact fun h c hc => h _ hc
  · intro h item hitem
    cases item with
    | plain c => trivial
    | pair c => exact h c hitem

theorem decode_eq_unterminated : decode raw = .error .unterminatedLiteral ↔ r.closed = false := by
  rw [decode_reading r]
  cases r.closed with
  | false => exact iff_of_true rfl rfl
  | true =>
    rw [if_neg Bool.true_eq_false_eq_False]
    split <;> exact iff_of_false nofun nofun

theorem decode_eq_malformed : decode raw = .error .malformedEscape ↔
    r.closed = true ∧ ∃ c ∉ escapes, .pair c ∈ r.items := by
  have hknown : (¬ ∀ item ∈ r.items, Known item) ↔ ∃ c ∉ escapes, .pair c ∈ r.items := by
    rw [known_items r]
    push Not
    simp only [and_comm]
  rw [decode_reading r, ← hknown]
  cases r.closed with
  | false => exact iff_of_false nofun nofun
  | true =>
    rw [if_neg Bool.true_eq_false_eq_False]
    split
    · exact iff_of_false nofun fun h => h.2 ‹_›
    · exact iff_of_true rfl ⟨rfl, ‹_›⟩

theorem decode_eq_ok (text : String) : decode raw = .ok text ↔ r.closed = true ∧
    (∀ c, .pair c ∈ r.items → c ∈ escapes) ∧ text = String.ofList (r.items.map value) := by
  rw [decode_reading r, ← known_items r]
  cases r.closed with
  | false => exact iff_of_false nofun nofun
  | true =>
    rw [if_neg Bool.true_eq_false_eq_False, eq_self, true_and]
    split
    · rw [Except.ok.injEq, eq_comm, and_iff_right ‹_›]
    · exact iff_of_false nofun fun h => absurd h.1 ‹_›

end Quoted

namespace Slashed

section

variable {raw : List Char} (r : Reading '/' raw)
include r

theorem decode_eq_unterminated : decode raw = .error .unterminatedRegex ↔ r.closed = false := by
  rw [decode_reading r]
  cases r.closed with
  | false => exact iff_of_true rfl rfl
  | true => exact iff_of_false nofun nofun

theorem decode_eq_ok (body : String) : decode raw = .ok body ↔
    r.closed = true ∧ body = String.ofList (r.items.flatMap kept) := by
  rw [decode_reading r]
  cases r.closed with
  | false => exact iff_of_false nofun nofun
  | true => simp [eq_comm]

end

/-- What may be the body of a regex is read from what the class of regexes takes at some place. -/
theorem exists_longest {body : String} (h : IsBody body.toList) :
    ∃ raw text, LexicalClass.regex.Longest raw text ∧ decode raw = .ok body := by
  have hsplit := (units_written h.1 h.2).split (by decide) []
  rw [List.append_nil] at hsplit
  have hopens : LexicalClass.regex.Opens '/' (body.toList.flatMap written ++ ['/']) := rfl
  have hlongest := LexicalClass.longest_of_opens hopens
  rw [LexicalClass.tail, hsplit, List.take_length] at hlongest
  have hdecode := decode_written h
  rw [String.ofList_toList] at hdecode
  exact ⟨_, _, hlongest, hdecode⟩

theorem isBody_of_mem {raw : List Char} {body : String} (hraw : raw ∈ LexicalClass.regex.texts)
    (h : decode raw = .ok body) : IsBody body.toList :=
  isBody_of_decode (LexicalClass.not_isLineEnd_of_mem hraw nofun) h

end Slashed
end Text

open Text Delimited

/-- What a literal or a regex is decoded as is told by its one reading in units, from the left.  It
is open if no delimiter stands behind the units.  A closed literal has its units one by one unless
one of them is an escape that is not known, and a closed regex loses the backslashes before its
slashes and nothing more.  Whatever the text, what stands between slashes of which the second closes
is whole units, so that no backslash is left over. -/
theorem decoders_read_units :
    (∀ raw ∈ LexicalClass.literal.texts, ∃ r : Reading '\'' raw, (∀ other, other = r) ∧
      (Quoted.decode raw = .error .unterminatedLiteral ↔ r.closed = false) ∧
      (Quoted.decode raw = .error .malformedEscape ↔
        r.closed = true ∧ ∃ c ∉ Quoted.escapes, .pair c ∈ r.items) ∧
      ∀ text, Quoted.decode raw = .ok text ↔ r.closed = true ∧
        (∀ c, .pair c ∈ r.items → c ∈ Quoted.escapes) ∧
        text = String.ofList (r.items.map Quoted.value)) ∧
    (∀ raw ∈ LexicalClass.regex.texts, ∃ r : Reading '/' raw, (∀ other, other = r) ∧
      (Slashed.decode raw = .error .unterminatedRegex ↔ r.closed = false) ∧
      ∀ body, Slashed.decode raw = .ok body ↔
        r.closed = true ∧ body = String.ofList (r.items.flatMap Slashed.kept)) ∧
    ∀ raw inside, body? '/' raw = some inside → Slashed.unescape inside ≠ none ∧
      ∃ items : List Item, .plain '\\' ∉ items ∧ inside = items.flatMap Item.text := by
  refine ⟨fun raw hraw => ?literal, fun raw hraw => ?regex, fun raw inside hinside => ?inside⟩
  case literal =>
    obtain ⟨r, hunique⟩ := exists_reading hraw
    exact ⟨r, hunique, Quoted.decode_eq_unterminated r, Quoted.decode_eq_malformed r,
      Quoted.decode_eq_ok r⟩
  case regex =>
    obtain ⟨r, hunique⟩ := exists_reading hraw
    exact ⟨r, hunique, Slashed.decode_eq_unterminated r, Slashed.decode_eq_ok r⟩
  case inside =>
    obtain ⟨items, hplain, rfl⟩ := exists_items_of_body? hinside
    rw [Slashed.unescape_items hplain]
    exact ⟨Option.some_ne_none _, items, hplain, rfl⟩

/-- A literal that ends in an escaped quote is open, and so it is not decoded. -/
theorem decoders_read_units_open :
    ['\'', 'a', '\\', '\''] ∈ LexicalClass.literal.texts ∧
    ∃ r : Reading '\'' ['\'', 'a', '\\', '\''], r.closed = false ∧
      Quoted.decode ['\'', 'a', '\\', '\''] = .error .unterminatedLiteral := by
  have hunits : Units '\'' ['a', '\\', '\''] :=
    .plain (by decide) (by decide) rfl (.pair rfl .nil)
  have hmem : ['\'', 'a', '\\', '\''] ∈ LexicalClass.literal.texts :=
    mem_delimited.mpr ⟨_, hunits, .inl rfl⟩
  obtain ⟨r, -, hopen, -⟩ := decoders_read_units.1 _ hmem
  have hdecode : Quoted.decode ['\'', 'a', '\\', '\''] = .error .unterminatedLiteral := by decide
  exact ⟨hmem, r, hopen.mp hdecode, hdecode⟩

/-- A text that is quoted is read back as one token, and so is a regex that is printed, if it is
read anywhere.  Those are the regexes on one line with their escapes in pairs. -/
theorem written_literals_read_back :
    (∀ text, ReadsAs (Quoted.encode text) (.literal text) ∧
      Quoted.decode (Quoted.encode text).toList = .ok text) ∧
    ∀ body, List.TFAE [
      ReadsAs (Expr.print (.leaf (.regex body) : Pattern)) (.regex body),
      ∃ source, .regex body ∈ nodes (tokenize source).tokens,
      ∃ raw text, LexicalClass.regex.Longest raw text ∧ Slashed.decode raw = .ok body,
      Slashed.IsBody body.toList] := by
  refine ⟨fun text => ⟨?reads, ?decodes⟩, fun body => ?regex⟩
  case reads => exact (Lexed.tokenize_eq_iff _ _).mpr (Lexed.spells_literal text).reading_eq
  case decodes =>
    rw [Quoted.encode, String.toList_ofList, List.cons_append, Quoted.decode_escape,
      String.ofList_toList]
  case regex =>
    tfae_have 1 → 2 := fun h => ⟨_, h.2 ▸ List.mem_singleton_self _⟩
    tfae_have 2 → 4 := by
      rintro ⟨_, h⟩
      exact Lexed.isLexed_of_mem_tokens h
    tfae_have 4 → 3 := Slashed.exists_longest
    tfae_have 3 → 4 := by
      rintro ⟨_, _, hlongest, h⟩
      exact Slashed.isBody_of_mem hlongest.allowed h
    tfae_have 4 → 1 := fun h =>
      (Lexed.tokenize_eq_iff _ _).mpr (Lexed.spells_regex h).reading_eq
    tfae_finish

end GrammarText
