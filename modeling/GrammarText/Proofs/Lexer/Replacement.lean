/-
Literals of a text put out of shape.  Where one literal of a text is replaced by another quoted text
that is closed, the lexer finds the same fragments before it and behind it.
-/
import GrammarText.Proofs.Lexer.Literals
import GrammarText.Proofs.Lexer.Lookahead
import GrammarText.Proofs.Recovery.Stream
import Mathlib.Data.List.Forall2

namespace GrammarText

namespace Text
namespace Delimited

variable {delimiter : Char} {text : List Char}

/-- What is split off is units, with the closing delimiter behind them or without it. -/
theorem split_units (delimiter : Char) (text : List Char) : ∃ units, Units delimiter units ∧
    ((split delimiter text).1 = units ∨ (split delimiter text).1 = units ++ [delimiter]) := by
  fun_induction split delimiter text with
  | case1 => exact ⟨[], .nil, .inl rfl⟩
  | case2 => exact ⟨[], .nil, .inl rfl⟩
  | case3 => exact ⟨[], .nil, .inl rfl⟩
  | case4 c rest hl inside outside hsplit ih =>
    rw [hsplit] at ih
    obtain ⟨units, hunits, h⟩ := ih
    have hline : isLineEnd c = false := Bool.eq_false_iff.mpr hl
    rcases h with rfl | rfl
    · exact ⟨_, .pair hline hunits, .inl rfl⟩
    · exact ⟨_, .pair hline hunits, .inr rfl⟩
  | case5 c rest _ _ heq => exact ⟨[], .nil, .inr (by rw [beq_iff_eq.mp heq]; rfl)⟩
  | case6 => exact ⟨[], .nil, .inl rfl⟩
  | case7 c rest hlast hpair hne hl inside outside hsplit ih =>
    rw [hsplit] at ih
    obtain ⟨units, hunits, h⟩ := ih
    have hline : isLineEnd c = false := Bool.eq_false_iff.mpr hl
    have hd : c ≠ delimiter := fun h => hne (beq_iff_eq.mpr h)
    have hc : c ≠ '\\' := Slashed.ne_backslash hlast hpair
    rcases h with rfl | rfl
    · exact ⟨_, .plain hd hc hline hunits, .inl rfl⟩
    · exact ⟨_, .plain hd hc hline hunits, .inr rfl⟩

end Delimited
end Text

/-- A literal of a text, what stands before it from the literal before, and what is put in its
place. -/
structure Edit where
  before : String
  literal : String
  replacement : String

namespace Edit

/-- The text with one side of every edit, and what stands behind the last one. -/
def text (side : Edit → String) (tail : String) : List Edit → String
  | [] => tail
  | e :: more => e.before ++ side e ++ text side tail more

/-- Where that side of the edits stands. -/
def places (side : Edit → String) (offset : Nat) : List Edit → List Span
  | [] => []
  | e :: more =>
      let start := offset + Text.byteLength e.before.toList
      let stop := start + Text.byteLength (side e).toList
      ⟨start, stop⟩ :: places side stop more

theorem le_start_of_mem_places {side : Edit → String} {offset : Nat} {edits : List Edit}
    {place : Span} (h : place ∈ places side offset edits) : offset ≤ place.start := by
  induction edits generalizing offset with
  | nil => cases h
  | cons e more ih =>
    rcases List.mem_cons.mp h with rfl | h
    · exact Nat.le_add_right _ _
    · have := ih h
      omega

end Edit

/-- A text that lexes as one literal with an unknown escape. -/
def IsMalformed (text : String) : Prop :=
  tokenize text = ⟨[], [⟨.malformedEscape, ⟨0, Text.byteLength text.toList⟩⟩]⟩

instance (text : String) : Decidable (IsMalformed text) :=
  inferInstanceAs (Decidable (tokenize text = _))

/-- A fragment of a text and the one that comes of it where some literals are put out of shape. -/
inductive Edited (places : List Span) : Spanned Fragment → Spanned Fragment → Prop where
  | kept {node : Fragment} {here there : Span} (outside : here ∉ places) :
      Edited places ⟨node, here⟩ ⟨node, there⟩
  | replaced {text : String} {here there : Span} (inside : here ∈ places) :
      Edited places ⟨.token (.literal text), here⟩ ⟨.fault .malformedEscape, there⟩

namespace Lexed

open Text Delimited

/-- Only a quote opens a literal, with known escapes or with unknown ones. -/
theorem quote_of_ofHead {c : Char} {rest : List Char}
    (h : (∃ text, (Match.ofHead c rest).fragment = .token (.literal text)) ∨
      (Match.ofHead c rest).fragment = .fault .malformedEscape) : c = '\'' := by
  have hslashed : ∀ raw, Slashed.decode raw ≠ .error .malformedEscape := by
    intro raw
    unfold Slashed.decode
    split
    · simp
    · split <;> simp
  have hinteger : ∀ digits, readInteger digits ≠ .error .malformedEscape := by
    intro digits
    unfold readInteger
    simp only
    split <;> simp
  have hexcept : ∀ (r : Except LexFault Token) fault, Fragment.ofExcept r = .fault fault →
      r = .error fault := by
    intro r fault hr
    cases r with
    | ok t => cases hr
    | error e =>
      cases hr
      rfl
  unfold Match.ofHead at h
  split at h
  · rcases h with ⟨_, h⟩ | h <;> cases h
  split at h
  · rcases h with ⟨_, h⟩ | h <;> cases h
  split at h
  · rename_i hquote
    exact beq_iff_eq.mp hquote
  split at h
  · rcases h with ⟨_, h⟩ | h
    · exact absurd h (ofExcept_map_ne fun body => by simp)
    · have hdecode := hexcept _ _ h
      cases hslash : Slashed.decode (c :: (split '/' rest).1) with
      | ok body =>
        simp only [hslash] at hdecode
        cases hdecode
      | error e =>
        simp only [hslash] at hdecode
        cases hdecode
        exact absurd hslash (hslashed _)
  split at h
  · rcases h with ⟨_, h⟩ | h <;> cases h
  split at h
  · rcases h with ⟨_, h⟩ | h <;> cases h
  split at h
  · rcases h with ⟨_, h⟩ | h
    · exact absurd h (readInteger_ne fun value => by simp)
    · exact absurd (hexcept _ _ h) (hinteger _)
  split at h
  · rcases h with ⟨_, h⟩ | h <;> cases h
  split at h
  · rcases h with ⟨_, h⟩ | h <;> cases h
  · rcases h with ⟨_, h⟩ | h <;> cases h

/-- Where a fragment takes a part of a text, the fragments from there on are it and those of the
rest. -/
theorem fragments_of_mem {offset : Nat} {x y rest : List Char} {node : Fragment}
    (h : ⟨node, ⟨offset + byteLength x, offset + byteLength x + byteLength y⟩⟩ ∈
      fragments offset (x ++ (y ++ rest))) :
    (∃ c more, y ++ rest = c :: more ∧ (Match.ofHead c more).fragment = node ∧
      y = c :: more.take (Match.ofHead c more).tail) ∧
    ∀ start, fragments start (y ++ rest) =
      ⟨node, ⟨start, start + byteLength y⟩⟩ :: fragments (start + byteLength y) rest := by
  obtain ⟨before, c, more, htext, hnode, hstart, hstop⟩ := exists_head_of_mem h
  simp only at hnode hstart hstop
  obtain ⟨-, hrest⟩ := append_inj_of_byteLength htext (by omega)
  have hparts : y ++ rest = c :: more.take (Match.ofHead c more).tail ++
      more.drop (Match.ofHead c more).tail := by
    rw [hrest, List.cons_append, List.take_append_drop]
  obtain ⟨hy, hdrop⟩ := append_inj_of_byteLength hparts (by omega)
  refine ⟨⟨c, more, hrest, hnode, hy⟩, fun start => ?_⟩
  have hbytes : start + c.utf8Size + byteLength (more.take (Match.ofHead c more).tail) =
      start + byteLength y := by
    rw [hy, byteLength]
    omega
  rw [hrest, fragments_cons]
  simp only
  rw [if_neg (by rw [hnode]; exact not_skipped_of_mem h), hnode, ← hdrop, hbytes]

/-- A malformed literal is closed: it is units between quotes. -/
theorem exists_units {text : String} (h : IsMalformed text) :
    ∃ units, Units '\'' units ∧ text.toList = '\'' :: (units ++ ['\'']) ∧
      Quoted.decode ('\'' :: (units ++ ['\''])) = .error .malformedEscape := by
  have hmem : ⟨.malformedEscape, ⟨0, byteLength text.toList⟩⟩ ∈ (tokenize text).errors := by
    rw [h]
    exact List.mem_singleton_self _
  have hfragment : ⟨.fault .malformedEscape, ⟨0 + byteLength [], 0 + byteLength [] +
      byteLength text.toList⟩⟩ ∈ fragments 0 ([] ++ (text.toList ++ [])) := by
    rw [List.append_nil, List.nil_append, byteLength, Nat.zero_add, Nat.zero_add]
    exact mem_errors_iff.mp hmem
  obtain ⟨⟨c, rest, htext, hnode, hall⟩, -⟩ := fragments_of_mem hfragment
  obtain rfl := quote_of_ofHead (.inr hnode)
  rw [List.append_nil] at htext
  rw [ofHead_quote] at hnode hall
  have hinside : (split '\'' rest).1 = rest := by
    rw [htext] at hall
    rw [List.prefix_iff_eq_take.mp (split_taken '\'' rest)]
    exact (List.cons.inj hall).2.symm
  have hdecode : Quoted.decode ('\'' :: rest) = .error .malformedEscape := by
    rw [hinside] at hnode
    cases hdecode : Quoted.decode ('\'' :: rest) with
    | ok text =>
      rw [hdecode] at hnode
      cases hnode
    | error e =>
      rw [hdecode] at hnode
      cases hnode
      rfl
  -- All that stands behind the quote is split off.  Units alone would leave the literal open.
  obtain ⟨units, hunits, hsplit | hsplit⟩ := split_units '\'' rest
  · rw [hinside] at hsplit
    rw [hsplit, Quoted.decode, hunits.body?_open] at hdecode
    cases hdecode
  · rw [hinside] at hsplit
    rw [hsplit] at htext hdecode
    exact ⟨units, hunits, htext, hdecode⟩

/-- A malformed literal is one fragment, whatever stands behind it. -/
theorem fragments_malformed {text : String} (h : IsMalformed text) (offset : Nat)
    (later : List Char) : fragments offset (text.toList ++ later) =
      ⟨.fault .malformedEscape, ⟨offset, offset + byteLength text.toList⟩⟩ ::
        fragments (offset + byteLength text.toList) later := by
  obtain ⟨units, hunits, htext, hdecode⟩ := exists_units h
  rw [htext, List.cons_append, fragments_cons, ofHead_quote, hunits.split (by decide)]
  simp only [hdecode, List.take_left, List.drop_left]
  rw [byteLength, Nat.add_assoc]
  rfl

/-- Where a fragment starts with a quote, what stands before has its fragments, whatever the quote
opens and wherever the text starts. -/
theorem fragments_quote {offset : Nat} {x w : List Char} {f : Spanned Fragment}
    (hf : f ∈ fragments offset (x ++ '\'' :: w))
    (hstart : f.span.start = offset + byteLength x) :
    ∃ before : List (Spanned Fragment), ∀ start w', fragments start (x ++ '\'' :: w') =
      before.map (·.shift start) ++ fragments (start + byteLength x) ('\'' :: w') := by
  have hshift : ∀ start text, fragments start text = (fragments 0 text).map (·.shift start) :=
    fun start text => by rw [← fragments_shift, Nat.zero_add]
  have htext : ∀ w, x ++ '\'' :: w = x ++ ['\''] ++ w := fun w => by simp
  rw [hshift, htext] at hf
  obtain ⟨g, hg, rfl⟩ := List.mem_map.mp hf
  have hplace : g.span.start = 0 + byteLength x := by
    simp only [Spanned.shift, Span.shift] at hstart
    omega
  obtain ⟨before, hbefore⟩ := fragments_before ⟨by simp, by decide⟩ hg hplace
  refine ⟨before, fun start w' => ?_⟩
  rw [hshift, htext, hbefore, List.map_append, ← fragments_shift, Nat.zero_add,
    Nat.add_comm (byteLength x)]
  rfl

/-- Where a malformed literal is put in the place of a literal, the fragments before it stay, and
one fragment comes of another. -/
theorem fragments_replace {x y rest : List Char} {literal replacement : String} {here : Nat}
    (h : ⟨.token (.literal literal), ⟨here + byteLength x, here + byteLength x + byteLength y⟩⟩ ∈
      fragments here (x ++ (y ++ rest))) (hmalformed : IsMalformed replacement) :
    ∃ before : List (Spanned Fragment),
      fragments here (x ++ (y ++ rest)) = before.map (·.shift here) ++
        ⟨.token (.literal literal), ⟨here + byteLength x, here + byteLength x + byteLength y⟩⟩ ::
          fragments (here + byteLength x + byteLength y) rest ∧
      ∀ there rest', fragments there (x ++ (replacement.toList ++ rest')) =
        before.map (·.shift there) ++
          ⟨.fault .malformedEscape, ⟨there + byteLength x,
            there + byteLength x + byteLength replacement.toList⟩⟩ ::
            fragments (there + byteLength x + byteLength replacement.toList) rest' := by
  obtain ⟨⟨c, more, hall, hnode, -⟩, hbehind⟩ := fragments_of_mem h
  obtain rfl := quote_of_ofHead (.inl ⟨_, hnode⟩)
  obtain ⟨units, -, hunits, -⟩ := exists_units hmalformed
  obtain ⟨before, hbefore⟩ := fragments_quote (by rwa [hall] at h) rfl
  refine ⟨before, ?_, fun there rest' => ?_⟩
  · rw [hall, hbefore, ← hall, hbehind]
  · have htext : replacement.toList ++ rest' = '\'' :: (units ++ ['\''] ++ rest') := by
      rw [hunits, List.cons_append]
    rw [htext, hbefore, ← htext, fragments_malformed hmalformed]

theorem edited_shift {found : List (Spanned Fragment)} {places : List Span} {here : Nat}
    (h : ∀ f ∈ found.map (·.shift here), f.span ∉ places) (there : Nat) :
    List.Forall₂ (Edited places) (found.map (·.shift here)) (found.map (·.shift there)) := by
  rw [List.forall₂_map_left_iff, List.forall₂_map_right_iff, List.forall₂_same]
  exact fun f hf => .kept (h _ (List.mem_map_of_mem hf))

theorem filterMap_lexError?_shift_eq_nil {found : List (Spanned Fragment)} {here : Nat}
    (h : (found.map (·.shift here)).filterMap lexError? = []) (there : Nat) :
    (found.map (·.shift there)).filterMap lexError? = [] := by
  rw [filterMap_lexError?_shift, List.map_eq_nil_iff] at h ⊢
  exact h

/-- Malformed literals in the places of literals leave every other fragment as it is, and they are
the lexical errors if there was none before. -/
theorem fragments_edited {edits : List Edit} {tail : String} {places : List Span} {here : Nat}
    (hliteral : ∀ place ∈ Edit.places Edit.literal here edits, ∃ text,
      ⟨.token (.literal text), place⟩ ∈ fragments here (Edit.text Edit.literal tail edits).toList)
    (hmalformed : ∀ e ∈ edits, IsMalformed e.replacement)
    (hplaces : ∀ span : Span, here ≤ span.start →
      (span ∈ places ↔ span ∈ Edit.places Edit.literal here edits)) (there : Nat) :
    List.Forall₂ (Edited places) (fragments here (Edit.text Edit.literal tail edits).toList)
        (fragments there (Edit.text Edit.replacement tail edits).toList) ∧
      ((fragments here (Edit.text Edit.literal tail edits).toList).filterMap lexError? = [] →
        (fragments there (Edit.text Edit.replacement tail edits).toList).filterMap lexError? =
          (Edit.places Edit.replacement there edits).map (⟨.malformedEscape, ·⟩)) := by
  -- The offsets drift apart with every edit, so the induction is over both of them.  All the places
  -- are known from the start, and from an offset on they are those of the edits that are left.
  induction edits generalizing here there with
  | nil =>
    have hshift : ∀ start, fragments start tail.toList =
        (fragments 0 tail.toList).map (·.shift start) := fun start => by
      rw [← fragments_shift, Nat.zero_add]
    rw [Edit.text, Edit.text, Edit.places, hshift here, hshift there]
    refine ⟨edited_shift (fun f hf => ?_) there, fun h => filterMap_lexError?_shift_eq_nil h there⟩
    obtain ⟨g, -, rfl⟩ := List.mem_map.mp hf
    rw [hplaces _ (Nat.le_add_left _ _)]
    exact List.not_mem_nil
  | cons e more ih =>
    have htext : ∀ side, (Edit.text side tail (e :: more)).toList =
        e.before.toList ++ ((side e).toList ++ (Edit.text side tail more).toList) := fun side => by
      rw [Edit.text, String.toList_append, String.toList_append, List.append_assoc]
    rw [htext, htext]
    rw [htext] at hliteral
    obtain ⟨literal, hmem⟩ := hliteral _ (List.mem_cons_self ..)
    obtain ⟨before, hsource, htarget⟩ :=
      fragments_replace hmem (hmalformed e (List.mem_cons_self ..))
    have hplace := (span_of_mem hmem).2.1
    -- What stands before the literal starts before its place, so it is in none of the places.
    have hspan : ∀ f ∈ before.map (·.shift here), here ≤ f.span.start ∧
        f.span.start < here + byteLength e.before.toList := by
      intro f hf
      have hordered := fragments_pairwise here
        (e.before.toList ++ (e.literal.toList ++ (Edit.text Edit.literal tail more).toList))
      have hinside := span_of_mem (hsource ▸ List.mem_append_left _ hf)
      rw [hsource] at hordered
      have hbefore := (List.pairwise_append.mp hordered).2.2 f hf _ (List.mem_cons_self ..)
      simp only at hbefore
      omega
    have hliteral' : ∀ place ∈ Edit.places Edit.literal
        (here + byteLength e.before.toList + byteLength e.literal.toList) more, ∃ text,
          ⟨.token (.literal text), place⟩ ∈ fragments
            (here + byteLength e.before.toList + byteLength e.literal.toList)
            (Edit.text Edit.literal tail more).toList := by
      intro place hin
      obtain ⟨text, ht⟩ := hliteral place (List.mem_cons_of_mem _ hin)
      have hle := Edit.le_start_of_mem_places hin
      rw [hsource] at ht
      rcases List.mem_append.mp ht with ht | ht
      · have := (hspan _ ht).2
        simp only at this
        omega
      rcases List.mem_cons.mp ht with heq | ht
      · cases heq
        simp only at hle hplace
        omega
      · exact ⟨text, ht⟩
    have hplaces' : ∀ span : Span,
        here + byteLength e.before.toList + byteLength e.literal.toList ≤ span.start →
          (span ∈ places ↔ span ∈ Edit.places Edit.literal
            (here + byteLength e.before.toList + byteLength e.literal.toList) more) := by
      intro span hle
      rw [hplaces span (by omega)]
      refine List.mem_cons.trans (or_iff_right ?_)
      rintro rfl
      simp only at hle hplace
      omega
    obtain ⟨hforall, herrors⟩ := ih hliteral'
      (fun e' he' => hmalformed e' (List.mem_cons_of_mem _ he')) hplaces'
      (there + byteLength e.before.toList + byteLength e.replacement.toList)
    rw [hsource, htarget]
    refine ⟨?_, fun hclean => ?_⟩
    · refine List.rel_append (edited_shift (fun f hf hin => ?_) there)
        (.cons (.replaced ?_) hforall)
      · have hbefore := hspan f hf
        rcases List.mem_cons.mp ((hplaces f.span hbefore.1).mp hin) with heq | hin
        · rw [heq] at hbefore
          exact Nat.lt_irrefl _ hbefore.2
        · have := Edit.le_start_of_mem_places hin
          omega
      · exact (hplaces _ (Nat.le_add_right _ _)).mpr (List.mem_cons_self ..)
    · rw [List.filterMap_append, List.append_eq_nil_iff,
        List.filterMap_cons_none (by rfl)] at hclean
      rw [List.filterMap_append, filterMap_lexError?_shift_eq_nil hclean.1, List.nil_append,
        List.filterMap_cons_some (by rfl), herrors hclean.2]
      rfl

end Lexed
end GrammarText
