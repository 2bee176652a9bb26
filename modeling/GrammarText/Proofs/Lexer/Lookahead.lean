/-
Lexing is local.  Whether a fragment stops at a place is settled by the character behind it, or by
the two behind it if the first is a backslash.  So the fragments before a place where one starts do
not depend on what the text goes on with, and where the text starts makes no difference but to the
ranges.
-/
import GrammarText.Proofs.Lexer.Fragments
import GrammarText.Proofs.Text.Delimited

namespace GrammarText

/-- The same value, further on. -/
def Spanned.shift {α : Type} (s : Spanned α) (distance : Nat) : Spanned α :=
  ⟨s.node, s.span.shift distance⟩

def LexError.shift (e : LexError) (distance : Nat) : LexError :=
  ⟨e.fault, e.span.shift distance⟩

/-- The same value at another range. -/
def Spanned.relocate {α : Type} (s : Spanned α) (move : Span → Span) : Spanned α :=
  ⟨s.node, move s.span⟩

def LexError.relocate (e : LexError) (move : Span → Span) : LexError :=
  ⟨e.fault, move e.span⟩

/-- A text that is not empty and is not a lone backslash settles where the fragment before it
stops. -/
def Settles (text : List Char) : Prop :=
  text ≠ [] ∧ text ≠ ['\\']

theorem Settles.append_left {text : List Char} (h : Settles text) (before : List Char) :
    Settles (before ++ text) := by
  obtain ⟨hnil, hlone⟩ := h
  cases before with
  | nil => exact ⟨hnil, hlone⟩
  | cons c rest =>
    refine ⟨List.cons_ne_nil _ _, fun heq => ?_⟩
    exact hnil (List.append_eq_nil_iff.mp (List.cons.inj heq).2).2

/-- A way to take characters off the front of a text.  Whether it stops at a place depends on the
text up to there and on what settles it. -/
structure Bounded (take : List Char → List Char) : Prop where
  taken : ∀ text, take text <+: text
  stops : ∀ x p w, Settles p → (take (x ++ p ++ w) = x ↔ take (x ++ p) = x)

theorem Bounded.take_eq {take : List Char → List Char} (h : Bounded take) {x p w w' : List Char}
    (hp : Settles p) (hlength : (take (x ++ p ++ w)).length = x.length) :
    take (x ++ p ++ w') = take (x ++ p ++ w) := by
  have hprefix : take (x ++ p ++ w) <+: x ++ p ++ w := h.taken _
  have htake : take (x ++ p ++ w) = x := by
    rw [List.append_assoc] at hprefix ⊢
    rw [List.append_assoc] at hlength
    rw [List.prefix_iff_eq_take.mp hprefix, hlength, List.take_left]
  rw [htake, h.stops x p w' hp, ← h.stops x p w hp]
  exact htake

theorem bounded_takeWhile (accept : Char → Bool) : Bounded (List.takeWhile accept) := by
  refine ⟨fun text => List.takeWhile_prefix accept, fun x p w hp => ?_⟩
  induction x with
  | nil =>
    obtain ⟨hnil, -⟩ := hp
    cases p with
    | nil => exact absurd rfl hnil
    | cons c rest => by_cases hc : accept c <;> simp [hc]
  | cons c x ih =>
    by_cases hc : accept c
    · simpa [hc] using ih
    · simp [hc]

namespace Text
namespace Delimited

theorem split_taken (delimiter : Char) (text : List Char) :
    (split delimiter text).1 <+: text := by
  fun_induction split delimiter text with
  | case1 => exact List.prefix_rfl
  | case2 => exact List.nil_prefix
  | case3 => exact List.nil_prefix
  | case4 c rest hl inside outside hsplit ih =>
    rw [hsplit] at ih
    simpa using ih
  | case5 c rest _ _ heq => simp
  | case6 => exact List.nil_prefix
  | case7 c rest _ _ hne hl inside outside hsplit ih =>
    rw [hsplit] at ih
    simpa using ih

/-- Nothing at all is split off only where a line end or an open backslash comes first. -/
theorem split_eq_nil (delimiter : Char) {p : List Char} (hp : Settles p) (w : List Char) :
    (split delimiter (p ++ w)).1 = [] ↔ (split delimiter p).1 = [] := by
  obtain ⟨hnil, hlone⟩ := hp
  cases p with
  | nil => exact absurd rfl hnil
  | cons c rest =>
    by_cases hc : c = '\\'
    · subst hc
      cases rest with
      | nil => exact absurd rfl hlone
      | cons d rest =>
        rw [List.cons_append, List.cons_append, split_backslash, split_backslash]
        by_cases hl : isLineEnd d <;> simp [hl]
    · rw [List.cons_append, split_cons hc, split_cons hc]
      by_cases hd : c == delimiter
      · simp [hd]
      · by_cases hl : isLineEnd c <;> simp [hd, hl]

theorem bounded_split (delimiter : Char) : Bounded fun text => (split delimiter text).1 := by
  refine ⟨split_taken delimiter, fun x p w hp => ?_⟩
  induction hlen : x.length using Nat.strongRecOn generalizing x with
  | ind n ih =>
    match x with
    | [] => exact split_eq_nil delimiter hp w
    | c :: x =>
      have hx : (split delimiter (x ++ p ++ w)).1 = x ↔ (split delimiter (x ++ p)).1 = x :=
        ih x.length (by rw [← hlen, List.length_cons]; omega) x rfl
      by_cases hc : c = '\\'
      · subst hc
        cases x with
        | nil =>
          -- One character of a pair is never split off without the other.
          obtain ⟨d, rest, rfl⟩ := List.exists_cons_of_ne_nil hp.1
          simp only [List.cons_append, List.nil_append, split_backslash]
          by_cases hl : isLineEnd d <;> simp [hl]
        | cons d x =>
          have hpair : (split delimiter (x ++ p ++ w)).1 = x ↔ (split delimiter (x ++ p)).1 = x :=
            ih x.length (by rw [← hlen, List.length_cons, List.length_cons]; omega) x rfl
          simp only [List.cons_append, split_backslash]
          by_cases hl : isLineEnd d
          · simp [hl]
          · simpa [hl] using hpair
      · simp only [List.cons_append, split_cons hc]
        by_cases hd : c == delimiter
        · simp [hd]
        · by_cases hl : isLineEnd c
          · simp [hl, hd]
          · simpa [hl, hd] using hx

end Delimited
end Text

/-- A fragment that stops at a place stops there whatever the text goes on with. -/
theorem Match.ofHead_lookahead {c : Char} {x p w w' : List Char} (hp : Settles p)
    (h : (ofHead c (x ++ p ++ w)).tail = x.length) :
    ofHead c (x ++ p ++ w') = ofHead c (x ++ p ++ w) := by
  have hhead : (x ++ p ++ w').head? = (x ++ p ++ w).head? := by
    obtain ⟨d, rest, hd⟩ := List.exists_cons_of_ne_nil (hp.append_left x).1
    rw [hd]
    rfl
  unfold ofHead at *
  by_cases hblank : isBlank c
  · simp only [if_pos hblank] at *
    rw [(bounded_takeWhile _).take_eq hp h]
  simp only [if_neg hblank] at *
  by_cases hcomment : c == '#'
  · simp only [if_pos hcomment] at *
    rw [(bounded_takeWhile _).take_eq hp h]
  simp only [if_neg hcomment] at *
  by_cases hquote : c == '\''
  · simp only [if_pos hquote] at *
    rw [(Text.Delimited.bounded_split _).take_eq hp h]
  simp only [if_neg hquote] at *
  by_cases hslash : c == '/'
  · simp only [if_pos hslash] at *
    rw [(Text.Delimited.bounded_split _).take_eq hp h]
  simp only [if_neg hslash] at *
  by_cases hupper : Text.isUppercaseLetter c
  · simp only [if_pos hupper] at *
    rw [(bounded_takeWhile _).take_eq hp h]
  simp only [if_neg hupper] at *
  by_cases hlower : Text.isLowercaseLetter c
  · simp only [if_pos hlower] at *
    rw [(bounded_takeWhile _).take_eq hp h]
  simp only [if_neg hlower] at *
  by_cases hdigit : c.isDigit
  · simp only [if_pos hdigit] at *
    rw [(bounded_takeWhile _).take_eq hp h]
  simp only [if_neg hdigit] at *
  rw [hhead]

namespace Lexed

/-- Taking no more bytes than a part has goes no further than the part. -/
theorem le_length_of_byteLength_take {x y : List Char} (hy : y ≠ []) {count : Nat}
    (h : Text.byteLength ((x ++ y).take count) ≤ Text.byteLength x) : count ≤ x.length := by
  rcases Nat.lt_or_ge x.length count with hlong | hshort
  · have hpos : 0 < Text.byteLength (y.take (count - x.length)) := by
      refine byteLength_pos fun hnil => ?_
      rcases List.take_eq_nil_iff.mp hnil with hzero | hnil
      · omega
      · exact hy hnil
    rw [List.take_append, List.take_of_length_le (by omega), Text.byteLength_append] at h
    omega
  · exact hshort

/-- Fragments of a text that starts further on are the same fragments, further on. -/
theorem fragments_shift (distance offset : Nat) (text : List Char) :
    fragments (offset + distance) text = (fragments offset text).map (·.shift distance) := by
  induction text using fragment_induction generalizing offset with
  | nil => rw [fragments_nil, fragments_nil, List.map_nil]
  | cons c rest ih =>
    rw [fragments_cons, fragments_cons offset]
    simp only
    have hstop : ∀ taken, offset + distance + c.utf8Size + taken =
        offset + c.utf8Size + taken + distance := fun _ => by omega
    rw [hstop, ih]
    split
    · rfl
    · rfl

theorem filterMap_lexeme?_relocate (move : Span → Span) (found : List (Spanned Fragment)) :
    (found.map (·.relocate move)).filterMap lexeme? =
      (found.filterMap lexeme?).map (·.relocate move) := by
  rw [List.filterMap_map, List.map_filterMap]
  congr 1
  funext ⟨node, span⟩
  cases node <;> rfl

theorem filterMap_lexError?_relocate (move : Span → Span) (found : List (Spanned Fragment)) :
    (found.map (·.relocate move)).filterMap lexError? =
      (found.filterMap lexError?).map (·.relocate move) := by
  rw [List.filterMap_map, List.map_filterMap]
  congr 1
  funext ⟨node, span⟩
  cases node <;> rfl

theorem filterMap_lexeme?_shift (distance : Nat) (found : List (Spanned Fragment)) :
    (found.map (·.shift distance)).filterMap lexeme? =
      (found.filterMap lexeme?).map (·.shift distance) :=
  filterMap_lexeme?_relocate (·.shift distance) found

theorem filterMap_lexError?_shift (distance : Nat) (found : List (Spanned Fragment)) :
    (found.map (·.shift distance)).filterMap lexError? =
      (found.filterMap lexError?).map (·.shift distance) :=
  filterMap_lexError?_relocate (·.shift distance) found

/-- Where a fragment starts, the text before it has its fragments, whatever is put behind. -/
theorem fragments_before {offset : Nat} {x p w : List Char} (hp : Settles p)
    {f : Spanned Fragment} (hf : f ∈ fragments offset (x ++ p ++ w))
    (hstart : f.span.start = offset + Text.byteLength x) :
    ∃ before, ∀ w', fragments offset (x ++ p ++ w') =
      before ++ fragments (offset + Text.byteLength x) (p ++ w') := by
  induction hlen : x.length using Nat.strongRecOn generalizing x offset with
  | ind n ih =>
    cases x with
    | nil => exact ⟨[], fun w' => rfl⟩
    | cons c x =>
      rw [List.cons_append, List.cons_append, fragments_cons] at hf
      generalize hfound : Match.ofHead c (x ++ p ++ w) = found at hf
      have hlater : f ∈ fragments
          (offset + c.utf8Size + Text.byteLength ((x ++ p ++ w).take found.tail))
          ((x ++ p ++ w).drop found.tail) := by
        simp only at hf
        split at hf
        · exact hf
        · rcases List.mem_cons.mp hf with rfl | hf
          · simp only [Text.byteLength] at hstart
            have := c.utf8Size_pos
            omega
          · exact hf
      -- The first fragment ends no later than the place, since the fragment there is a later one.
      have hle := (span_of_mem hlater).1
      rw [hstart, Text.byteLength] at hle
      have htail : found.tail ≤ x.length := by
        have hne : p ++ w ≠ [] := List.append_ne_nil_of_left_ne_nil hp.1 w
        rw [List.append_assoc] at hle
        exact le_length_of_byteLength_take hne (by omega)
      obtain ⟨u, v, rfl, hu⟩ : ∃ u v, x = u ++ v ∧ u.length = found.tail :=
        ⟨x.take found.tail, x.drop found.tail, (List.take_append_drop _ _).symm,
          List.length_take_of_le htail⟩
      have htext : ∀ w', u ++ v ++ p ++ w' = u ++ (v ++ p) ++ w' := fun w' => by
        rw [List.append_assoc u]
      have hsame : ∀ w', Match.ofHead c (u ++ v ++ p ++ w') = found := by
        intro w'
        rw [htext] at hfound ⊢
        rw [← hfound]
        exact Match.ofHead_lookahead (hp.append_left v) (by rw [hfound, hu])
      have htake : ∀ w', (u ++ v ++ p ++ w').take found.tail = u := fun w' => by
        rw [htext, List.append_assoc, ← hu, List.take_left]
      have hdrop : ∀ w', (u ++ v ++ p ++ w').drop found.tail = v ++ p ++ w' := fun w' => by
        rw [htext, List.append_assoc, ← hu, List.drop_left]
      rw [htake, hdrop] at hlater
      have hshorter : v.length < n := by
        rw [← hlen, List.length_cons, List.length_append]
        omega
      have hbytes : offset + Text.byteLength (c :: (u ++ v)) =
          offset + c.utf8Size + Text.byteLength u + Text.byteLength v := by
        rw [Text.byteLength, Text.byteLength_append]
        omega
      rw [hbytes] at hstart ⊢
      obtain ⟨before, hbefore⟩ := ih v.length hshorter hlater hstart rfl
      by_cases hskipped : found.fragment = .skipped
      · refine ⟨before, fun w' => ?_⟩
        rw [List.cons_append, List.cons_append, fragments_cons, hsame]
        simp only
        rw [if_pos hskipped, htake, hdrop, hbefore]
      · refine ⟨⟨found.fragment, ⟨offset, offset + c.utf8Size + Text.byteLength u⟩⟩ :: before,
          fun w' => ?_⟩
        rw [List.cons_append, List.cons_append, fragments_cons, hsame]
        simp only
        rw [if_neg hskipped, htake, hdrop, hbefore, List.cons_append]

end Lexed
end GrammarText
