/-
Literals unit by unit.  Whether a literal is closed is settled from the right, by the number of
backslashes before the last delimiter, while its escapes are decoded from the left, in pairs.  The
two agree: a delimiter closes if and only if the text before it is a sequence of whole units, since
whole units have an even number of backslashes at their end, and a backslash behind them makes it
odd.  So what either decoder makes of a text is said of the units of the text.
-/
import GrammarText.Text.Delimited
import Mathlib.Data.List.Induction

namespace GrammarText
namespace Text

namespace Slashed

/-- A character that opens no pair is no backslash. -/
theorem ne_backslash {c : Char} {rest : List Char} (h : c = '\\' → rest = [] → False)
    (h' : ∀ d more, c = '\\' → rest = d :: more → False) : c ≠ '\\' := by
  intro hc
  cases rest with
  | nil => exact h hc rfl
  | cons d more => exact h' d more hc rfl

theorem unescape_plain {c : Char} (hc : c ≠ '\\') (rest : List Char) :
    unescape (c :: rest) = (unescape rest).map (c :: ·) := by
  rw [unescape]
  · exact fun h _ => hc h
  · exact fun _ _ h _ => hc h

end Slashed

namespace Delimited

/-- A unit of a literal. -/
inductive Item where
  /-- A character that stands for itself. -/
  | plain (c : Char)
  /-- A backslash together with the character after it. -/
  | pair (c : Char)
  deriving Repr, DecidableEq

def Item.text : Item → List Char
  | plain c => [c]
  | pair c => ['\\', c]

/-- A text read from left to right as an opening delimiter, units and perhaps a closing delimiter.
Neither the backslash nor the delimiter stands for itself. -/
structure Reading (delimiter : Char) (raw : List Char) where
  items : List Item
  closed : Bool
  text_eq : delimiter :: (items.flatMap Item.text ++ if closed then [delimiter] else []) = raw
  no_backslash : Item.plain '\\' ∉ items
  no_delimiter : Item.plain delimiter ∉ items

variable {delimiter : Char} {raw body : List Char} {items : List Item}

/- From the right: backslashes at the end. -/

/-- The number of backslashes at the end. -/
def trailing (body : List Char) : Nat :=
  (body.reverse.takeWhile (· == '\\')).length

theorem trailing_concat (body : List Char) (c : Char) :
    trailing (body ++ [c]) = if c = '\\' then trailing body + 1 else 0 := by
  unfold trailing
  rw [List.reverse_concat, List.takeWhile_cons]
  by_cases hc : c = '\\' <;> simp [hc]

/-- Whole units have an even number of backslashes at their end. -/
theorem trailing_items (h : Item.plain '\\' ∉ items) :
    trailing (items.flatMap Item.text) % 2 = 0 := by
  induction items using List.reverseRecOn with
  | nil => rfl
  | append_singleton before last ih =>
    have hbefore := ih fun hmem => h (List.mem_append_left _ hmem)
    rw [List.flatMap_append, List.flatMap_singleton]
    cases last with
    | plain c =>
      have hc : c ≠ '\\' := by
        rintro rfl
        exact h (List.mem_append_right _ (List.mem_singleton_self _))
      rw [Item.text, trailing_concat, if_neg hc]
    | pair c =>
      rw [Item.text, List.append_cons, trailing_concat, trailing_concat, if_pos rfl]
      split <;> omega

/-- The delimiter at the end of a text closes it if the backslashes before it are even in number. -/
theorem body?_concat (body : List Char) (closing : Char) :
    body? delimiter (delimiter :: (body ++ [closing])) =
      if closing = delimiter ∧ trailing body % 2 = 0 then some body else none := by
  unfold body? trailing
  simp only [bne_self_eq_false, Bool.false_eq_true, if_false, List.reverse_concat,
    List.reverse_reverse, Bool.and_eq_true, beq_iff_eq]

theorem body?_eq_some : body? delimiter raw = some body ↔
    raw = delimiter :: (body ++ [delimiter]) ∧ trailing body % 2 = 0 := by
  constructor
  · intro h
    cases raw with
    | nil => cases h
    | cons opening inner =>
      obtain rfl : opening = delimiter := by
        by_contra hne
        simp [body?, hne] at h
      cases inner using List.reverseRecOn with
      | nil => simp [body?] at h
      | append_singleton before closing =>
        rw [body?_concat] at h
        split at h
        · rename_i hclosing
          obtain ⟨rfl, heven⟩ := hclosing
          cases h
          exact ⟨rfl, heven⟩
        · cases h
  · rintro ⟨rfl, heven⟩
    rw [body?_concat, if_pos ⟨rfl, heven⟩]

/-- Read in pairs from the left, a text is whole units, or whole units and a lone backslash. -/
theorem exists_items (text : List Char) : ∃ items : List Item, Item.plain '\\' ∉ items ∧
    (text = items.flatMap Item.text ∨ text = items.flatMap Item.text ++ ['\\']) := by
  induction text using Slashed.unescape.induct with
  | case1 => exact ⟨[], List.not_mem_nil, .inl rfl⟩
  | case2 => exact ⟨[], List.not_mem_nil, .inr rfl⟩
  | case3 c rest ih =>
    obtain ⟨items, hplain, htext⟩ := ih
    refine ⟨.pair c :: items, by simpa using hplain, ?_⟩
    exact htext.imp (fun h => by rw [h]; rfl) fun h => by rw [h]; rfl
  | case4 c rest hlast hpair ih =>
    obtain ⟨items, hplain, htext⟩ := ih
    have hc : c ≠ '\\' := Slashed.ne_backslash hlast hpair
    refine ⟨.plain c :: items, by simpa [hc.symm] using hplain, ?_⟩
    exact htext.imp (fun h => by rw [h]; rfl) fun h => by rw [h]; rfl

/-- What stands between delimiters of which the second closes is whole units: it never ends in a
backslash that is not part of a pair. -/
theorem exists_items_of_body? (h : body? delimiter raw = some body) :
    ∃ items : List Item, Item.plain '\\' ∉ items ∧ body = items.flatMap Item.text := by
  obtain ⟨-, heven⟩ := body?_eq_some.mp h
  obtain ⟨items, hplain, rfl | rfl⟩ := exists_items body
  · exact ⟨items, hplain, rfl⟩
  · have hitems := trailing_items hplain
    rw [trailing_concat, if_pos rfl] at heven
    omega

namespace Reading

/-- What the delimiters enclose is the units, if there is a closing one. -/
theorem body?_eq (r : Reading delimiter raw) :
    body? delimiter raw = if r.closed then some (r.items.flatMap Item.text) else none := by
  obtain ⟨items, closed, rfl, hplain, hdelimiter⟩ := r
  cases closed with
  | true => exact body?_eq_some.mpr ⟨rfl, trailing_items hplain⟩
  | false =>
    refine Option.eq_none_iff_forall_ne_some.mpr fun body hbody => ?_
    obtain ⟨htext, heven⟩ := body?_eq_some.mp hbody
    simp only [Bool.false_eq_true, if_false, List.append_nil, List.cons.injEq, true_and] at htext
    -- A delimiter at the end of units is part of a pair, so the backslashes before it are odd.
    cases items using List.reverseRecOn with
    | nil => exact absurd htext.symm (List.append_ne_nil_of_right_ne_nil _ (List.cons_ne_nil _ _))
    | append_singleton before last =>
      rw [List.flatMap_append, List.flatMap_singleton] at htext
      cases last with
      | plain c =>
        obtain ⟨-, hc⟩ := List.append_inj' htext rfl
        rw [(List.cons.inj hc).1] at hdelimiter
        exact hdelimiter (List.mem_append_right _ (List.mem_singleton_self _))
      | pair c =>
        rw [Item.text, List.append_cons] at htext
        obtain ⟨rfl, -⟩ := List.append_inj' htext rfl
        have hbefore := trailing_items fun hmem => hplain (List.mem_append_left _ hmem)
        rw [trailing_concat, if_pos rfl] at heven
        omega

/-- No two sequences of units are written alike. -/
theorem items_inj {items items' : List Item} (h : Item.plain '\\' ∉ items)
    (h' : Item.plain '\\' ∉ items') (heq : items.flatMap Item.text = items'.flatMap Item.text) :
    items = items' := by
  induction items generalizing items' with
  | nil =>
    cases items' with
    | nil => rfl
    | cons item rest => cases item <;> cases heq
  | cons item rest ih =>
    cases items' with
    | nil => cases item <;> cases heq
    | cons item' rest' =>
      have hrest : item = item' ∧ rest.flatMap Item.text = rest'.flatMap Item.text := by
        cases item <;> cases item' <;> simp_all [Item.text]
      obtain ⟨rfl, hrest⟩ := hrest
      rw [ih (fun hmem => h (List.mem_cons_of_mem _ hmem))
        (fun hmem => h' (List.mem_cons_of_mem _ hmem)) hrest]

theorem closed_eq (r : Reading delimiter raw) : r.closed = (body? delimiter raw).isSome := by
  rw [r.body?_eq]
  cases r.closed <;> rfl

/-- A text is read in one way. -/
theorem eq (r r' : Reading delimiter raw) : r = r' := by
  have hclosed : r.closed = r'.closed := r.closed_eq.trans r'.closed_eq.symm
  have htext := r.text_eq.trans r'.text_eq.symm
  rw [hclosed] at htext
  have hitems : r.items = r'.items := items_inj r.no_backslash r'.no_backslash
    (List.append_cancel_right (List.cons.inj htext).2)
  cases r
  cases r'
  cases hclosed
  cases hitems
  rfl

end Reading

end Delimited

open Delimited

namespace Quoted

/-- The characters that make an escape behind a backslash. -/
def escapes : List Char :=
  ['n', 't', 'r', '\'', '\\']

/-- What a unit of a literal stands for. -/
def value : Item → Char
  | .plain c => c
  | .pair 'n' => '\n'
  | .pair 't' => '\t'
  | .pair 'r' => '\r'
  | .pair c => c

theorem escaped?_eq (c : Char) :
    escaped? c = if c ∈ escapes then some (value (.pair c)) else none := by
  unfold escaped?
  split
  · rfl
  · rfl
  · rfl
  · rfl
  · rfl
  · rename_i hn ht hr hquote hbackslash
    refine (if_neg ?_).symm
    simp only [escapes, List.mem_cons, List.not_mem_nil, or_false, not_or]
    exact ⟨hn, ht, hr, hquote, hbackslash⟩

/-- A unit has a meaning unless it is an escape that is not known. -/
def Known : Item → Prop
  | .plain _ => True
  | .pair c => c ∈ escapes

instance : DecidablePred Known
  | .plain _ => inferInstanceAs (Decidable True)
  | .pair c => inferInstanceAs (Decidable (c ∈ escapes))

theorem unescape_item {item : Item} (h : item ≠ .plain '\\') (rest : List Char) :
    unescape (item.text ++ rest) =
      if Known item then (unescape rest).map (value item :: ·) else none := by
  cases item with
  | plain c =>
    have hc : c ≠ '\\' := fun heq => h (congrArg Item.plain heq)
    have hknown : Known (.plain c) := trivial
    rw [if_pos hknown]
    show unescape (c :: rest) = _
    rw [unescape]
    · rfl
    · exact fun heq _ => hc heq
    · exact fun _ _ heq _ => hc heq
  | pair c =>
    show unescape ('\\' :: c :: rest) = if c ∈ escapes then _ else none
    rw [unescape, escaped?_eq]
    by_cases hc : c ∈ escapes
    · rw [if_pos hc, if_pos hc]
    · rw [if_neg hc, if_neg hc]

/-- Units are decoded one by one, and one without a meaning spoils them all. -/
theorem unescape_items {items : List Item} (h : Item.plain '\\' ∉ items) :
    unescape (items.flatMap Item.text) =
      if ∀ item ∈ items, Known item then some (items.map value) else none := by
  induction items with
  | nil => rfl
  | cons item rest ih =>
    have hne : item ≠ .plain '\\' := fun heq => h (heq ▸ List.mem_cons_self ..)
    rw [List.flatMap_cons, unescape_item hne, ih fun hmem => h (List.mem_cons_of_mem _ hmem)]
    simp only [List.forall_mem_cons]
    by_cases hitem : Known item
    · by_cases hrest : ∀ item ∈ rest, Known item
      · rw [if_pos hitem, if_pos hrest, if_pos ⟨hitem, hrest⟩]
        rfl
      · rw [if_pos hitem, if_neg hrest, if_neg fun hall => hrest hall.2]
        rfl
    · rw [if_neg hitem, if_neg fun hall => hitem hall.1]

theorem decode_reading {raw : List Char} (r : Reading '\'' raw) :
    decode raw =
      if r.closed = false then .error .unterminatedLiteral
      else if ∀ item ∈ r.items, Known item then .ok (String.ofList (r.items.map value))
      else .error .malformedEscape := by
  unfold decode
  rw [r.body?_eq]
  cases r.closed with
  | false => rfl
  | true =>
    simp only [if_true, Bool.true_eq_false, if_false]
    rw [unescape_items r.no_backslash]
    by_cases hknown : ∀ item ∈ r.items, Known item
    · rw [if_pos hknown, if_pos hknown]
    · rw [if_neg hknown, if_neg hknown]

end Quoted

namespace Slashed

/-- What is kept of a unit of a regex: all of it, but for the backslash before a slash. -/
def kept : Item → List Char
  | .pair '/' => ['/']
  | item => item.text

theorem unescape_item {item : Item} (h : item ≠ .plain '\\') (rest : List Char) :
    unescape (item.text ++ rest) = (unescape rest).map (kept item ++ ·) := by
  cases item with
  | plain c => exact unescape_plain (fun heq => h (congrArg Item.plain heq)) rest
  | pair c =>
    show unescape ('\\' :: c :: rest) = _
    rw [unescape]
    by_cases hc : c = '/'
    · subst hc
      rfl
    · have hkept : kept (.pair c) = ['\\', c] := by
        unfold kept
        split
        · rename_i heq
          exact absurd (Item.pair.inj heq) hc
        · rfl
      simp only [hkept, beq_iff_eq, hc, if_false]
      rfl

/-- Whole units are always decoded. -/
theorem unescape_items {items : List Item} (h : Item.plain '\\' ∉ items) :
    unescape (items.flatMap Item.text) = some (items.flatMap kept) := by
  induction items with
  | nil => rfl
  | cons item rest ih =>
    have hne : item ≠ .plain '\\' := fun heq => h (heq ▸ List.mem_cons_self ..)
    rw [List.flatMap_cons, unescape_item hne, ih fun hmem => h (List.mem_cons_of_mem _ hmem)]
    rfl

theorem decode_reading {raw : List Char} (r : Reading '/' raw) :
    decode raw =
      if r.closed = false then .error .unterminatedRegex
      else .ok (String.ofList (r.items.flatMap kept)) := by
  unfold decode
  rw [r.body?_eq]
  cases r.closed with
  | false => rfl
  | true =>
    simp only [if_true, Bool.true_eq_false, if_false]
    rw [unescape_items r.no_backslash]

end Slashed

end Text
end GrammarText
