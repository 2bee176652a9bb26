/-
The fragments of a source tile it.  Every token and every lexical error takes the longest prefix
that a class allows where it starts, or one character where no class allows any.  The stretches
between them are blanks and comments, and each of them reads the same when it stands alone.
-/
import GrammarText.Proofs.Lexer.Classes
import Mathlib.Data.List.Nodup

namespace GrammarText

open Computability

/-- A stretch of a text between two byte offsets, both of them at the edge of a character. -/
structure Cut (text : List Char) (span : Span) where
  before : List Char
  inside : List Char
  after : List Char
  text_eq : before ++ inside ++ after = text
  start_eq : Text.byteLength before = span.start
  stop_eq : Text.byteLength (before ++ inside) = span.stop

theorem Cut.slice_eq {text : List Char} {span : Span} (cut : Cut text span) :
    Text.slice text span.start span.stop = cut.inside := by
  obtain ⟨before, inside, after, rfl, hstart, hstop⟩ := cut
  rw [← hstart, ← hstop, Text.byteLength_append, Text.slice_append]

/-- Two stretches are the ends of one. -/
theorem Cut.nonempty_between {text : List Char} {a b : Span} (first : Cut text a)
    (last : Cut text b) (hle : a.start ≤ b.stop) : Nonempty (Cut text ⟨a.start, b.stop⟩) := by
  obtain ⟨before, inside, after, htext, hstart, -⟩ := first
  obtain ⟨before', inside', after', htext', -, hstop⟩ := last
  rw [← htext', List.append_assoc] at htext
  obtain ⟨between, hbetween, -⟩ := Text.exists_between htext (by omega)
  exact ⟨before, between, after', by rw [← hbetween, htext'], hstart, by rw [← hbetween, hstop]⟩

/-- How a fragment comes of a piece of a text: as the longest piece that a class allows there, read
as that class reads it, or as one character that no class allows. -/
inductive Reads (piece after : List Char) : Fragment → Prop where
  | longest {k : LexicalClass} (h : k.Longest piece (piece ++ after)) :
      Reads piece after (k.read piece)
  | unexpected {c : Char} (hpiece : piece = [c])
      (h : LexicalClass.Unmatched (piece ++ after)) :
      Reads piece after (.fault .unexpectedCharacter)

namespace Lexed

def ofLexeme (t : Lexeme) : Spanned Fragment :=
  ⟨.token t.node, t.span⟩

def ofLexError (e : LexError) : Spanned Fragment :=
  ⟨.fault e.fault, e.span⟩

/-- The tokens and the lexical errors of a text in one list, in the order of their offsets. -/
def merged (lexed : Lexed) : List (Spanned Fragment) :=
  (lexed.tokens.map ofLexeme ++ lexed.errors.map ofLexError).mergeSort
    fun a b => a.span.start ≤ b.span.start

/-- Where the last of some fragments stops, and the start of the text if there is none. -/
def stopOf (found : List (Spanned Fragment)) : Nat :=
  found.getLast?.elim 0 (·.span.stop)

/-- Where the first of some fragments starts, and the end of the text if there is none. -/
def startOf (text : List Char) (found : List (Spanned Fragment)) : Nat :=
  found.head?.elim (Text.byteLength text) (·.span.start)

/-- The fragments tile the source. -/
structure Tiles (found : List (Spanned Fragment)) (source : String) : Prop where
  nonempty : ∀ f ∈ found, f.span.start < f.span.stop
  disjoint : found.Pairwise fun a b => a.span.stop ≤ b.span.start
  increasing : found.Pairwise fun a b => a.span.start < b.span.start
  /-- A fragment is the longest match where it stands, and it is all that its own text has. -/
  reads : ∀ f ∈ found, ∃ cut : Cut source.toList f.span, Reads cut.inside cut.after f.node ∧
    tokenize (String.ofList cut.inside) =
      push f.node ⟨0, Text.byteLength cut.inside⟩ empty
  /-- Whatever stands between two fragments, before the first and behind the last is skipped. -/
  gaps : ∀ earlier later, found = earlier ++ later →
    ∃ cut : Cut source.toList ⟨stopOf earlier, startOf source.toList later⟩,
      cut.inside ∈ (LexicalClass.blanks.texts + LexicalClass.comment.texts)∗

open LexicalClass

/-- What the lexer takes at a place it reads as a class does, or faults as unexpected. -/
theorem reads_ofHead (c : Char) (rest : List Char) :
    Reads (c :: rest.take (Match.ofHead c rest).tail) (rest.drop (Match.ofHead c rest).tail)
      (Match.ofHead c rest).fragment := by
  rcases ofHead_cases c rest with ⟨k, hopens, hhead⟩ | ⟨hnone, hhead⟩
  · rw [hhead rest hopens]
    refine .longest ?_
    rw [List.cons_append, List.take_append_drop]
    exact longest_of_opens hopens
  · rw [hhead]
    exact .unexpected rfl (unmatched_of_not_opens hnone)

/-- What the lexer takes at a place reads the same where nothing follows, and is taken whole. -/
theorem ofHead_take (c : Char) (rest : List Char) :
    let piece := rest.take (Match.ofHead c rest).tail
    (Match.ofHead c piece).fragment = (Match.ofHead c rest).fragment ∧
      piece.length ≤ (Match.ofHead c piece).tail := by
  intro piece
  rcases ofHead_cases c rest with ⟨k, hopens, hhead⟩ | ⟨hnone, hhead⟩
  · -- The class allows the piece, so it opens there too and takes all of it.
    have hpiece : piece = rest.take (k.tail rest) := by simp only [piece, hhead rest hopens]
    obtain ⟨halone, hlength⟩ := opens_of_mem (mem_of_opens hopens) (List.prefix_refl _)
    have hall : piece.length ≤ k.tail piece := by
      rw [hpiece]
      exact Nat.le_of_succ_le_succ hlength
    rw [← hpiece] at halone
    rw [hhead piece halone, hhead rest hopens, List.take_of_length_le hall, hpiece]
    exact ⟨rfl, hpiece ▸ hall⟩
  · have hnil : piece = [] := by simp only [piece, hhead, List.take_zero]
    rw [hnil]
    refine ⟨?_, Nat.zero_le _⟩
    rcases ofHead_cases c [] with ⟨k, hopens, -⟩ | ⟨-, halone⟩
    · refine absurd ?_ (hnone k)
      cases k with
      | mark m =>
        cases m with
        | range => exact nomatch hopens.2
        | _ => exact hopens
      | _ => exact hopens
    · rw [halone, hhead]

theorem scan_cons (offset : Nat) (c : Char) (rest : List Char) :
    scan offset (c :: rest) =
      push (Match.ofHead c rest).fragment
        ⟨offset, offset + c.utf8Size + Text.byteLength (rest.take (Match.ofHead c rest).tail)⟩
        (scan (offset + c.utf8Size + Text.byteLength (rest.take (Match.ofHead c rest).tail))
          (rest.drop (Match.ofHead c rest).tail)) := by
  rw [scan]

/-- What the lexer takes at a place is one fragment when it stands alone. -/
theorem tokenize_piece (c : Char) (rest : List Char) :
    let piece := c :: rest.take (Match.ofHead c rest).tail
    tokenize (String.ofList piece) =
      push (Match.ofHead c rest).fragment ⟨0, Text.byteLength piece⟩ empty := by
  obtain ⟨hfragment, hall⟩ := ofHead_take c rest
  simp only at hfragment hall ⊢
  rw [tokenize, String.toList_ofList, scan_cons, hfragment, List.take_of_length_le hall,
    List.drop_of_length_le hall, scan, Nat.zero_add, Text.byteLength]

/-- Every fragment is read where it stands, and alone as there. -/
theorem exists_cut_of_mem {text : List Char} {f : Spanned Fragment}
    (h : f ∈ fragments 0 text) : ∃ cut : Cut text f.span,
      Reads cut.inside cut.after f.node ∧ tokenize (String.ofList cut.inside) =
        push f.node ⟨0, Text.byteLength cut.inside⟩ empty := by
  obtain ⟨before, c, rest, rfl, hnode, hstart, hstop⟩ := exists_head_of_mem h
  refine ⟨⟨before, c :: rest.take (Match.ofHead c rest).tail, rest.drop (Match.ofHead c rest).tail,
    ?_, ?_, ?_⟩, ?_, ?_⟩
  · rw [List.append_assoc, List.cons_append, List.take_append_drop]
  · rw [hstart, Nat.zero_add]
  · rw [hstop, hstart, Nat.zero_add, Text.byteLength_append]
  · rw [← hnode]
    exact reads_ofHead c rest
  · rw [← hnode]
    exact tokenize_piece c rest

/-- What is skipped is blanks or a comment. -/
theorem mem_of_skipped {piece after : List Char} (h : Reads piece after .skipped) :
    piece ∈ blanks.texts + comment.texts := by
  generalize hf : Fragment.skipped = f at h
  cases h with
  | unexpected => cases hf
  | @longest k h =>
    have hexcept : ∀ r, Fragment.ofExcept r ≠ .skipped := by
      intro r
      cases r <;> exact nofun
    cases k with
    | blanks => exact .inl h.allowed
    | comment => exact .inr h.allowed
    | literal => exact absurd hf.symm (hexcept _)
    | regex => exact absurd hf.symm (hexcept _)
    | integer => exact absurd hf.symm (hexcept _)
    | tokenName => cases hf
    | ruleName => cases hf
    | mark => cases hf

/-- A text in pieces that the lexer takes.  A piece is skipped or is the next fragment. -/
inductive Pieces : Nat → List Char → List (Spanned Fragment) → Prop where
  | nil {offset : Nat} : Pieces offset [] []
  | skipped {offset : Nat} {piece rest : List Char} {found : List (Spanned Fragment)}
      (hpiece : piece ∈ blanks.texts + comment.texts)
      (hrest : Pieces (offset + Text.byteLength piece) rest found) :
      Pieces offset (piece ++ rest) found
  | fragment {offset : Nat} {piece rest : List Char} {f : Fragment}
      {found : List (Spanned Fragment)}
      (hrest : Pieces (offset + Text.byteLength piece) rest found) :
      Pieces offset (piece ++ rest) (⟨f, ⟨offset, offset + Text.byteLength piece⟩⟩ :: found)

theorem pieces_fragments (offset : Nat) (text : List Char) :
    Pieces offset text (fragments offset text) := by
  induction text using fragment_induction generalizing offset with
  | nil =>
    rw [fragments_nil]
    exact .nil
  | cons c rest ih =>
    have htext : c :: rest = c :: rest.take (Match.ofHead c rest).tail ++
        rest.drop (Match.ofHead c rest).tail := by
      rw [List.cons_append, List.take_append_drop]
    have hbytes : offset + c.utf8Size + Text.byteLength (rest.take (Match.ofHead c rest).tail) =
        offset + Text.byteLength (c :: rest.take (Match.ofHead c rest).tail) := by
      rw [Text.byteLength, Nat.add_assoc]
    have hreads := reads_ofHead c rest
    rw [fragments_cons]
    simp only [hbytes]
    conv => arg 2; rw [htext]
    split
    · rename_i hskipped
      rw [hskipped] at hreads
      exact .skipped (mem_of_skipped hreads) (ih _)
    · exact .fragment (ih _)

/-- Wherever the fragments are parted, what stands there is skipped. -/
theorem Pieces.exists_gap {offset : Nat} {text : List Char} {found : List (Spanned Fragment)}
    (h : Pieces offset text found) {earlier later : List (Spanned Fragment)}
    (hfound : found = earlier ++ later) : ∃ before gap after, before ++ gap ++ after = text ∧
      offset + Text.byteLength before = earlier.getLast?.elim offset (·.span.stop) ∧
      offset + Text.byteLength (before ++ gap) =
        later.head?.elim (offset + Text.byteLength text) (·.span.start) ∧
      gap ∈ (blanks.texts + comment.texts)∗ := by
  induction h generalizing earlier with
  | nil =>
    obtain ⟨rfl, rfl⟩ := List.append_eq_nil_iff.mp hfound.symm
    exact ⟨[], [], [], rfl, rfl, rfl, Language.nil_mem_kstar _⟩
  | @skipped offset piece rest found hpiece _ ih =>
    obtain ⟨before, gap, after, rfl, hstart, hstop, hgap⟩ := ih hfound
    simp only [Text.byteLength_append, ← Nat.add_assoc] at hstart hstop ⊢
    cases hlast : earlier.getLast? with
    | none =>
      -- No fragment stands in front, so the piece is part of the gap.
      rw [hlast] at hstart
      have hbefore : before = [] := by
        by_contra hne
        have := byteLength_pos hne
        simp only [Option.elim_none] at hstart
        omega
      subst hbefore
      refine ⟨[], piece ++ gap, after, ?_, rfl, ?_, Text.append_mem_kstar hpiece hgap⟩
      · simp
      · rw [← hstop]
        simp only [Text.byteLength, Text.byteLength_append]
        omega
    | some f =>
      rw [hlast] at hstart
      refine ⟨piece ++ before, gap, after, ?_, ?_, ?_, hgap⟩
      · simp
      · rw [Text.byteLength_append, ← Nat.add_assoc]
        exact hstart
      · rw [Text.byteLength_append, ← Nat.add_assoc]
        exact hstop
  | @fragment offset piece rest f found _ ih =>
    cases earlier with
    | nil =>
      obtain rfl := hfound.symm
      exact ⟨[], [], piece ++ rest, rfl, rfl, rfl, Language.nil_mem_kstar _⟩
    | cons first more =>
      obtain ⟨rfl, hmore⟩ := List.cons.inj hfound
      obtain ⟨before, gap, after, rfl, hstart, hstop, hgap⟩ := ih hmore
      refine ⟨piece ++ before, gap, after, ?_, ?_, ?_, hgap⟩
      · simp
      · rw [Text.byteLength_append, ← Nat.add_assoc, hstart, List.getLast?_cons]
        cases more.getLast? <;> rfl
      · rw [List.append_assoc piece, Text.byteLength_append piece, ← Nat.add_assoc, hstop,
          Text.byteLength_append piece, ← Nat.add_assoc]

/-- The tokens and the errors are a permutation of the fragments. -/
theorem filterMap_perm {found : List (Spanned Fragment)} (h : ∀ f ∈ found, f.node ≠ .skipped) :
    ((found.filterMap lexeme?).map ofLexeme ++
      (found.filterMap lexError?).map ofLexError).Perm found := by
  induction found with
  | nil => exact .nil
  | cons f rest ih =>
    have hrest := ih fun g hg => h g (List.mem_cons_of_mem _ hg)
    obtain ⟨node, span⟩ := f
    cases node with
    | skipped => exact absurd rfl (h _ (List.mem_cons_self ..))
    | token t => exact hrest.cons _
    | fault fault => exact List.perm_middle.trans (hrest.cons _)

theorem fragments_increasing (offset : Nat) (text : List Char) :
    (fragments offset text).Pairwise fun a b => a.span.start < b.span.start :=
  (fragments_pairwise offset text).imp_of_mem fun ha _ h =>
    Nat.lt_of_lt_of_le (span_of_mem ha).2.1 h

/-- The tokens and the errors, put in order, are the fragments. -/
theorem merged_eq (source : String) : (tokenize source).merged = fragments 0 source.toList := by
  have hincreasing := fragments_increasing 0 source.toList
  have hperm : (tokenize source).merged.Perm (fragments 0 source.toList) := by
    rw [tokenize, scan_eq]
    exact (List.mergeSort_perm _ _).trans (filterMap_perm fun f hf => not_skipped_of_mem hf)
  have hsorted : (tokenize source).merged.Pairwise
      fun a b => decide (a.span.start ≤ b.span.start) = true := by
    refine List.pairwise_mergeSort (fun a b c hab hbc => ?_) (fun a b => ?_) _
    · simp only [decide_eq_true_eq] at *
      omega
    · simp only [Bool.or_eq_true, decide_eq_true_eq]
      omega
  have hstarts : ((fragments 0 source.toList).map (·.span.start)).Nodup :=
    List.pairwise_map.mpr (hincreasing.imp Nat.ne_of_lt)
  refine hperm.eq_of_pairwise (fun a b ha hb hab hba => ?_) hsorted
    (hincreasing.imp fun h => decide_eq_true (Nat.le_of_lt h))
  have hstart := Nat.le_antisymm (of_decide_eq_true hab) (of_decide_eq_true hba)
  exact List.inj_on_of_nodup_map hstarts (hperm.mem_iff.mp ha) hb hstart

/-- The tokens and the lexical errors of a source tile it. -/
theorem merged_tiles (source : String) : Tiles (tokenize source).merged source := by
  rw [merged_eq]
  refine ⟨fun f hf => (span_of_mem hf).2.1, fragments_pairwise 0 _, fragments_increasing 0 _,
    fun f hf => exists_cut_of_mem hf, fun earlier later hfound => ?_⟩
  obtain ⟨before, gap, after, htext, hstart, hstop, hgap⟩ :=
    (pieces_fragments 0 source.toList).exists_gap hfound
  rw [Nat.zero_add] at hstart hstop
  exact ⟨⟨before, gap, after, htext, hstart, by rw [hstop, Nat.zero_add]; rfl⟩, hgap⟩

end Lexed
end GrammarText
