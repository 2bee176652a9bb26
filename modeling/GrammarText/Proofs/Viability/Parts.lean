/-
What the values of a declaration say.  A declaration is cut into parts, of which one is a whole run
of literals, bounds from one number to another, a directive for keywords, or a single token.  The
checks of values are about parts: bounds whose upper number is below the lower one are faulty, and
so is a run of which some literals end in a word character and some do not.
-/
import GrammarText.Proofs.Grammar.Derivation
import GrammarText.Proofs.Parser.Nodes

namespace GrammarText
namespace Grammar

/-- How many tokens bars join to a literal before them, with the bars. -/
def joined : List Token → Nat
  | .mark .bar :: .literal _ :: rest => joined rest + 2
  | _ => 0

/-- How many tokens behind the first belong to the part that it opens. -/
def extent : List Token → Nat
  | .literal _ :: rest => joined rest
  | .mark .openBrace :: .integer _ :: .mark .range :: .integer _ :: .mark .closeBrace :: _ => 4
  | .mark .dollar :: .ruleName "keyword" :: .literal _ :: _ => 2
  | .mark .dollar :: .ruleName "keyword" :: .ruleName "choice" :: .literal _ :: rest =>
      joined rest + 3
  | _ => 0

/-- The tokens cut into parts. -/
def parts (tokens : List Lexeme) : List (List Lexeme) :=
  match tokens with
  | [] => []
  | t :: rest =>
      let count := extent (t.node :: nodes rest)
      (t :: rest.take count) :: parts (rest.drop count)
  termination_by tokens.length
  decreasing_by
    rw [List.length_drop, List.length_cons]
    omega

/-- From the first token of a part to the last. -/
def range (part : List Lexeme) : Span where
  start := part.head?.elim 0 (·.span.start)
  stop := part.getLast?.elim 0 (·.span.stop)

/-- The literals of a part. -/
def texts (part : List Token) : List String :=
  part.filterMap fun
    | .literal text => some text
    | _ => none

/-- What is wrong with the value of a part, if anything is. -/
def fault? (part : List Lexeme) : Option ParseError :=
  match nodes part with
  | [.mark .openBrace, .integer min, .mark .range, .integer max, .mark .closeBrace] =>
      if max < min then some (.invertedBounds (range part) min max) else none
  | .literal text :: more =>
      if (texts (.literal text :: more)).any Text.endsInWord &&
          (texts (.literal text :: more)).any (!Text.endsInWord ·) then
        some (.mixedLiterals (range part))
      else none
  | _ => none

/-- The first faulty part, with the number of tokens behind it. -/
def leftmost? : List (List Lexeme) → Option Setback
  | [] => none
  | part :: later =>
      match fault? part with
      | some e => some ⟨later.flatten.length, e⟩
      | none => leftmost? later

/-- The fault that is leftmost in the tokens. -/
def firstFault (tokens : List Lexeme) : Option Setback :=
  leftmost? (parts tokens)

theorem parts_nil : parts [] = [] := by
  rw [parts]

theorem parts_cons (t : Lexeme) (rest : List Lexeme) :
    parts (t :: rest) = (t :: rest.take (extent (t.node :: nodes rest))) ::
      parts (rest.drop (extent (t.node :: nodes rest))) := by
  rw [parts]

/-- An induction over tokens goes from what stands behind the first part to the whole. -/
theorem part_induction {motive : List Lexeme → Prop} (nil : motive [])
    (cons : ∀ t rest, motive (rest.drop (extent (t.node :: nodes rest))) → motive (t :: rest))
    (tokens : List Lexeme) : motive tokens := by
  induction hlen : tokens.length using Nat.strongRecOn generalizing tokens with
  | ind n ih =>
    cases tokens with
    | nil => exact nil
    | cons t rest =>
      refine cons t rest (ih _ ?_ _ rfl)
      rw [← hlen, List.length_drop, List.length_cons]
      omega

/-- The parts are the tokens, and nothing is left out. -/
theorem parts_flatten (tokens : List Lexeme) : (parts tokens).flatten = tokens := by
  induction tokens using part_induction with
  | nil => rw [parts_nil, List.flatten_nil]
  | cons t rest ih =>
    rw [parts_cons, List.flatten_cons, ih, List.cons_append, List.take_append_drop]

theorem firstFault_nil : firstFault [] = none := by
  rw [firstFault, parts_nil, leftmost?]

theorem firstFault_of_fault {t : Lexeme} {rest : List Lexeme} {e : ParseError}
    (h : fault? (t :: rest.take (extent (t.node :: nodes rest))) = some e) :
    firstFault (t :: rest) = some ⟨(rest.drop (extent (t.node :: nodes rest))).length, e⟩ := by
  rw [firstFault, parts_cons, leftmost?, h, parts_flatten]

theorem firstFault_of_sound {t : Lexeme} {rest : List Lexeme}
    (h : fault? (t :: rest.take (extent (t.node :: nodes rest))) = none) :
    firstFault (t :: rest) = firstFault (rest.drop (extent (t.node :: nodes rest))) := by
  rw [firstFault, parts_cons, leftmost?, h]
  rfl

/-- The first faulty part has none before it. -/
theorem leftmost?_eq_some {found : List (List Lexeme)} {f : Setback}
    (h : leftmost? found = some f) : ∃ before value behind, found = before ++ value :: behind ∧
      (∀ part ∈ before, fault? part = none) ∧ fault? value = some f.error := by
  induction found with
  | nil => cases h
  | cons part later ih =>
    rw [leftmost?] at h
    cases hfault : fault? part with
    | some e =>
      rw [hfault] at h
      cases h
      exact ⟨[], part, later, rfl, fun _ h => absurd h List.not_mem_nil, hfault⟩
    | none =>
      rw [hfault] at h
      obtain ⟨before, value, behind, rfl, hbefore, hvalue⟩ := ih h
      exact ⟨part :: before, value, behind, rfl, List.forall_mem_cons.mpr ⟨hfault, hbefore⟩, hvalue⟩

/-- A part reaches as far as the tokens from there on say. -/
theorem parts_cut {tokens value : List Lexeme} {before behind : List (List Lexeme)}
    (h : parts tokens = before ++ value :: behind) :
    ∃ (t : Lexeme) (rest : List Lexeme), value = t :: rest.take (extent (t.node :: nodes rest)) ∧
      behind.flatten = rest.drop (extent (t.node :: nodes rest)) := by
  induction tokens using part_induction generalizing before with
  | nil =>
    rw [parts_nil] at h
    exact absurd h.symm (List.append_ne_nil_of_right_ne_nil _ (List.cons_ne_nil _ _))
  | cons t rest ih =>
    rw [parts_cons] at h
    cases before with
    | nil =>
      obtain ⟨rfl, rfl⟩ := List.cons.inj h
      exact ⟨t, rest, rfl, parts_flatten _⟩
    | cons part before => exact ih (List.cons.inj h).2

/-- A faulty part has a token, so fewer are left behind it than there are. -/
theorem left_lt_of_firstFault {tokens : List Lexeme} {f : Setback}
    (h : firstFault tokens = some f) : f.left < tokens.length := by
  induction tokens using part_induction with
  | nil =>
    rw [firstFault_nil] at h
    cases h
  | cons t rest ih =>
    have hle : (rest.drop (extent (t.node :: nodes rest))).length ≤ rest.length := by
      rw [List.length_drop]
      exact Nat.sub_le _ _
    rw [List.length_cons]
    cases hfault : fault? (t :: rest.take (extent (t.node :: nodes rest))) with
    | some e =>
      rw [firstFault_of_fault hfault] at h
      cases h
      exact Nat.lt_succ_of_le hle
    | none =>
      rw [firstFault_of_sound hfault] at h
      exact Nat.lt_succ_of_lt (Nat.lt_of_lt_of_le (ih h) hle)

/-- A token that is a part by itself wherever it stands at the front. -/
def Lone (t : Token) : Prop :=
  (∀ text, t ≠ .literal text) ∧ t ≠ .mark .openBrace ∧ t ≠ .mark .dollar

theorem extent_lone {t : Token} (h : Lone t) (rest : List Token) : extent (t :: rest) = 0 := by
  obtain ⟨hliteral, hbrace, hdollar⟩ := h
  unfold extent
  split
  · rename_i heq
    exact absurd (List.cons.inj heq).1 (hliteral _)
  · rename_i heq
    exact absurd (List.cons.inj heq).1 hbrace
  · rename_i heq
    exact absurd (List.cons.inj heq).1 hdollar
  · rename_i heq
    exact absurd (List.cons.inj heq).1 hdollar
  · rfl

theorem fault?_singleton {t : Lexeme} (h : ∀ text, t.node ≠ .literal text) : fault? [t] = none := by
  unfold fault?
  split
  · rename_i heq
    cases (List.cons.inj heq).2
  · rename_i heq
    exact absurd (List.cons.inj heq).1 (h _)
  · rfl

theorem firstFault_lone {t : Lexeme} (h : Lone t.node) (rest : List Lexeme) :
    firstFault (t :: rest) = firstFault rest := by
  have hextent := extent_lone h (nodes rest)
  rw [firstFault_of_sound, hextent, List.drop_zero]
  rw [hextent, List.take_zero]
  exact fault?_singleton h.1

theorem firstFault_lones {names : List Lexeme} (h : ∀ t ∈ names, Lone t.node)
    (rest : List Lexeme) : firstFault (names ++ rest) = firstFault rest := by
  induction names with
  | nil => rfl
  | cons t more ih =>
    rw [List.cons_append, firstFault_lone (h t (List.mem_cons_self ..)),
      ih fun u hu => h u (List.mem_cons_of_mem _ hu)]

/- Bounds. -/

variable {t d k : Lexeme} {rest : List Lexeme}

/-- Bounds from one number to another whose upper number is below the lower one. -/
structure Inverted (value : List Lexeme) (min max : UInt32) : Prop where
  nodes_eq : nodes value =
    [.mark .openBrace, .integer min, .mark .range, .integer max, .mark .closeBrace]
  lt : max < min

theorem firstFault_inverted {value : List Lexeme} {min max : UInt32} (h : Inverted value min max)
    (behind : List Lexeme) : firstFault (value ++ behind) =
      some ⟨behind.length, .invertedBounds (range value) min max⟩ := by
  obtain ⟨hvalue, hlt⟩ := h
  obtain ⟨t, rest, rfl, ht, hrest⟩ := nodes_eq_cons.mp hvalue
  have hcount : rest.length = 4 := by
    rw [← nodes_length, hrest]
    rfl
  have hextent : extent (t.node :: nodes (rest ++ behind)) = 4 := by
    rw [ht, nodes_append, hrest]
    rfl
  have hfault : fault? (t :: rest) = some (.invertedBounds (range (t :: rest)) min max) := by
    unfold fault?
    rw [hvalue]
    exact if_pos hlt
  rw [List.cons_append, firstFault_of_fault (e := .invertedBounds (range (t :: rest)) min max),
    hextent, ← hcount, List.drop_left]
  rw [hextent, ← hcount, List.take_left, hfault]

/-- Other bounds have no fault. -/
theorem firstFault_brace (ht : t.node = .mark .openBrace)
    (h : ∀ value behind min max, t :: rest = value ++ behind → ¬ Inverted value min max) :
    firstFault (t :: rest) = firstFault rest := by
  by_cases hwhole : ∃ min max more, nodes rest =
      .integer min :: .mark .range :: .integer max :: .mark .closeBrace :: more
  · obtain ⟨min, max, more, hrest⟩ := hwhole
    obtain ⟨lower, rest, rfl, hlower, hrest⟩ := nodes_eq_cons.mp hrest
    obtain ⟨dots, rest, rfl, hdots, hrest⟩ := nodes_eq_cons.mp hrest
    obtain ⟨upper, rest, rfl, hupper, hrest⟩ := nodes_eq_cons.mp hrest
    obtain ⟨closing, rest, rfl, hclosing, -⟩ := nodes_eq_cons.mp hrest
    have hordered : ¬ max < min := fun hlt =>
      h [t, lower, dots, upper, closing] rest min max rfl
        ⟨by simp only [nodes_cons, nodes_nil, ht, hlower, hdots, hupper, hclosing], hlt⟩
    have hextent : extent (t.node :: nodes (lower :: dots :: upper :: closing :: rest)) = 4 := by
      simp only [nodes_cons, ht, hlower, hdots, hupper, hclosing]
      rfl
    have hsound : fault? [t, lower, dots, upper, closing] = none := by
      unfold fault?
      simp only [nodes_cons, nodes_nil, ht, hlower, hdots, hupper, hclosing]
      exact if_neg hordered
    have hlone : ∀ u ∈ [lower, dots, upper, closing], Lone u.node := by
      simp [Lone, hlower, hdots, hupper, hclosing]
    rw [firstFault_of_sound (by rw [hextent]; exact hsound), hextent]
    exact (firstFault_lones hlone rest).symm
  · have hextent : extent (t.node :: nodes rest) = 0 := by
      rw [ht]
      unfold extent
      split
      · rename_i heq
        cases heq
      · rename_i heq
        exact absurd ⟨_, _, _, (List.cons.inj heq).2⟩ hwhole
      · rename_i heq
        cases heq
      · rename_i heq
        cases heq
      · rfl
    rw [firstFault_of_sound, hextent, List.drop_zero]
    rw [hextent, List.take_zero]
    exact fault?_singleton (by rw [ht]; exact nofun)

/- Directives. -/

theorem firstFault_dollar (hd : d.node = .mark .dollar) (rest : List Lexeme) :
    firstFault (d :: rest) = firstFault (rest.drop (extent (.mark .dollar :: nodes rest))) := by
  rw [firstFault_of_sound, hd]
  unfold fault?
  rw [nodes_cons, hd]

/-- Only the word for keywords makes a part of several tokens with the dollar sign. -/
theorem firstFault_directive {word : String} (hd : d.node = .mark .dollar)
    (hk : k.node = .ruleName word) (hword : word ≠ "keyword") (rest : List Lexeme) :
    firstFault (d :: k :: rest) = firstFault rest := by
  have hextent : extent (.mark .dollar :: nodes (k :: rest)) = 0 := by
    rw [nodes_cons, hk]
    unfold extent
    split
    · rename_i heq
      cases heq
    · rename_i heq
      cases heq
    · rename_i heq
      exact absurd (Token.ruleName.inj (List.cons.inj (List.cons.inj heq).2).1) hword
    · rename_i heq
      exact absurd (Token.ruleName.inj (List.cons.inj (List.cons.inj heq).2).1) hword
    · rfl
  rw [firstFault_dollar hd, hextent, List.drop_zero, firstFault_lone (by simp [Lone, hk])]

/-- The literal of a keyword is part of its directive. -/
theorem firstFault_keyword {read : List Lexeme} {text : String}
    (hread : nodes read = [.mark .dollar, .ruleName "keyword", .literal text])
    (rest : List Lexeme) : firstFault (read ++ rest) = firstFault rest := by
  obtain ⟨d, read, rfl, hd, hread⟩ := nodes_eq_cons.mp hread
  have hcount : read.length = 2 := by
    rw [← nodes_length, hread]
    rfl
  have hextent : extent (.mark .dollar :: nodes (read ++ rest)) = read.length := by
    rw [nodes_append, hread, hcount]
    rfl
  rw [List.cons_append, firstFault_dollar hd, hextent, List.drop_left]

/-- So is the whole run of a choice of keywords. -/
theorem firstFault_keywordChoice {read : List Lexeme} {text : String}
    (hread : nodes read =
      [.mark .dollar, .ruleName "keyword", .ruleName "choice", .literal text])
    (rest : List Lexeme) :
    firstFault (read ++ rest) = firstFault (rest.drop (joined (nodes rest))) := by
  obtain ⟨d, read, rfl, hd, hread⟩ := nodes_eq_cons.mp hread
  have hcount : read.length = 3 := by
    rw [← nodes_length, hread]
    rfl
  have hextent : extent (.mark .dollar :: nodes (read ++ rest)) =
      read.length + joined (nodes rest) := by
    rw [nodes_append, hread, hcount, Nat.add_comm]
    rfl
  rw [List.cons_append, firstFault_dollar hd, hextent, List.drop_length_add_append]

/-- What may have been read of a directive, or nothing. -/
def Opening (opened : List Token) : Prop :=
  opened = [] ∨ ∃ names, opened = .mark .dollar :: names ∧ ∀ t ∈ names, Lone t

/-- No fault ends before what has been read of a directive. -/
theorem Opening.left_le {context tokens : List Lexeme} (h : Opening (nodes context)) {f : Setback}
    (hf : firstFault (context ++ tokens) = some f) : f.left ≤ tokens.length := by
  rcases h with hnil | ⟨names, hcons, hnames⟩
  · obtain rfl := List.map_eq_nil_iff.mp hnil
    exact Nat.le_of_lt (left_lt_of_firstFault hf)
  · obtain ⟨d, more, rfl, hd, rfl⟩ := nodes_eq_cons.mp hcons
    have hlone : ∀ t ∈ more, Lone t.node := fun t ht => hnames _ (List.mem_map_of_mem ht)
    rw [List.cons_append, firstFault_dollar hd, List.drop_append,
      firstFault_lones fun t ht => hlone t (List.mem_of_mem_drop ht)] at hf
    have hlt := left_lt_of_firstFault hf
    rw [List.length_drop] at hlt
    omega

/- Runs of literals. -/

/-- Some literals of a run end in a word character and some do not. -/
def Mixed (texts : List String) : Prop :=
  (∃ text ∈ texts, Text.endsInWord text = true) ∧ ∃ text ∈ texts, Text.endsInWord text = false

theorem fault?_literal {part : List Lexeme} {text : String} {more : List Token}
    (h : nodes part = .literal text :: more) :
    (Mixed (texts (nodes part)) ∧ fault? part = some (.mixedLiterals (range part))) ∨
      (¬ Mixed (texts (nodes part)) ∧ fault? part = none) := by
  have hmixed : Mixed (texts (nodes part)) ↔ ((texts (nodes part)).any Text.endsInWord &&
      (texts (nodes part)).any (!Text.endsInWord ·)) = true := by
    rw [Bool.and_eq_true, List.any_eq_true, List.any_eq_true]
    simp [Mixed]
  have hfault : fault? part = if (texts (nodes part)).any Text.endsInWord &&
      (texts (nodes part)).any (!Text.endsInWord ·) then
        some (.mixedLiterals (range part)) else none := by
    unfold fault?
    rw [h]
  rw [hfault]
  by_cases hm : Mixed (texts (nodes part))
  · exact .inl ⟨hm, if_pos (hmixed.mp hm)⟩
  · exact .inr ⟨hm, if_neg fun h => hm (hmixed.mpr h)⟩

theorem fault?_eq_some {part : List Lexeme} {e : ParseError} (h : fault? part = some e) :
    (∃ min max, Inverted part min max ∧ e = .invertedBounds (range part) min max) ∨
      ∃ text more, nodes part = .literal text :: more ∧ Mixed (texts (nodes part)) ∧
        e = .mixedLiterals (range part) := by
  have hsame := h
  unfold fault? at h
  split at h
  · rename_i min max hnodes
    split at h
    · rename_i hlt
      exact .inl ⟨min, max, ⟨hnodes, hlt⟩, (Option.some.inj h).symm⟩
    · cases h
  · rename_i text more hnodes
    rcases fault?_literal hnodes with ⟨hmixed, hfault⟩ | ⟨-, hfault⟩
    · exact .inr ⟨text, more, hnodes, hmixed, Option.some.inj (hsame.symm.trans hfault)⟩
    · exact nomatch hsame.symm.trans hfault
  · cases h

end Grammar
end GrammarText
