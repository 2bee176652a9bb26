/-
Lexing an excerpt.  A text that is cut out of another one reads as it does there if a fragment of
the whole starts where it starts, and a semicolon that is a token of the whole ends where it ends.
-/
import GrammarText.Proofs.Lexer.Lookahead
import GrammarText.Proofs.Lexer.Spelling

namespace GrammarText
namespace Lexed

open Text

/-- A semicolon is read where one stands, and nothing else with it. -/
theorem ofHead_semicolon {c : Char} {rest : List Char}
    (h : (Match.ofHead c rest).fragment = .token (.mark .semicolon)) :
    c = ';' ∧ (Match.ofHead c rest).tail = 0 := by
  have hmark : ∀ {c m}, Mark.ofChar? c = some m → m = .semicolon → c = ';' := by
    intro c m hm
    unfold Mark.ofChar? at hm
    split at hm <;> cases hm <;> simp
  unfold Match.ofHead at h ⊢
  split at h
  · cases h
  split at h
  · cases h
  split at h
  · exact absurd h (ofExcept_map_ne fun text => by simp)
  split at h
  · exact absurd h (ofExcept_map_ne fun body => by simp)
  split at h
  · cases h
  split at h
  · cases h
  split at h
  · exact absurd h (readInteger_ne fun value => by simp)
  split at h
  · cases h
  split at h
  · rename_i m hm
    cases h
    obtain rfl := hmark hm rfl
    exact ⟨rfl, rfl⟩
  · cases h

theorem exists_parts_of_semicolon {text : List Char} {span : Span}
    (h : ⟨.token (.mark .semicolon), span⟩ ∈ fragments 0 text) : ∃ x rest,
      text = x ++ [';'] ++ rest ∧ span = ⟨byteLength x, byteLength (x ++ [';'])⟩ := by
  obtain ⟨x, c, rest, rfl, hnode, hstart, hstop⟩ := exists_head_of_mem h
  obtain ⟨rfl, htail⟩ := ofHead_semicolon hnode
  obtain ⟨start, stop⟩ := span
  simp only [Nat.zero_add] at hstart hstop
  rw [htail, List.take_zero] at hstop
  exact ⟨x, rest, List.append_cons .., by rw [hstop, hstart, byteLength_append]⟩

/-- Up to the end of a semicolon the fragments are those of the text up to there, whatever follows,
and behind it they are those of what follows. -/
theorem fragments_append {a c : List Char} {span : Span}
    (h : ⟨.token (.mark .semicolon), span⟩ ∈ fragments 0 (a ++ c))
    (hstop : span.stop = byteLength a) (b : List Char) :
    fragments 0 (a ++ b) = fragments 0 a ++ (fragments 0 b).map (·.shift (byteLength a)) := by
  obtain ⟨x, rest, htext, rfl⟩ := exists_parts_of_semicolon h
  obtain ⟨rfl, rfl⟩ := append_inj_of_byteLength htext hstop.symm
  obtain ⟨before, hbefore⟩ := fragments_before ⟨by decide, by decide⟩ h (Nat.zero_add _).symm
  have hbyte : byteLength (x ++ [';']) = byteLength x + 1 := by
    rw [byteLength_append]
    rfl
  have hsemicolon : ∀ w, fragments (0 + byteLength x) ([';'] ++ w) =
      ⟨.token (.mark .semicolon), ⟨byteLength x, byteLength x + 1⟩⟩ ::
        fragments (byteLength x + 1) w := by
    intro w
    rw [List.singleton_append, fragments_cons, Nat.zero_add]
    rfl
  have hwhole := hbefore []
  rw [List.append_nil, hsemicolon, fragments_nil] at hwhole
  rw [hbefore b, hsemicolon, hwhole, hbyte, ← fragments_shift, Nat.zero_add, List.append_assoc,
    List.singleton_append]

/-- A source that ends in a semicolon is lexed as it would be alone, and so is what follows. -/
theorem tokenize_append {a b : String} {semicolon : Lexeme} (h : semicolon ∈ (tokenize a).tokens)
    (hnode : semicolon.node = .mark .semicolon)
    (hstop : semicolon.span.stop = Text.byteLength a.toList) :
    (tokenize (a ++ b)).tokens = (tokenize a).tokens ++
        (tokenize b).tokens.map (·.shift (Text.byteLength a.toList)) ∧
      (tokenize (a ++ b)).errors = (tokenize a).errors ++
        (tokenize b).errors.map (·.shift (Text.byteLength a.toList)) := by
  have hmem := mem_tokens_iff.mp h
  rw [hnode, ← List.append_nil a.toList] at hmem
  unfold tokenize
  rw [String.toList_append, scan_eq, scan_eq, scan_eq, fragments_append hmem hstop b.toList]
  simp only [List.filterMap_append, filterMap_lexeme?_shift, filterMap_lexError?_shift, and_self]

/-- From the start of a fragment on the fragments are those of the text from there, and all others
stop before it. -/
theorem fragments_from {x p w : List Char} (hp : Settles p) {f : Spanned Fragment}
    (hf : f ∈ fragments 0 (x ++ p ++ w)) (hstart : f.span.start = byteLength x) :
    ∃ earlier, fragments 0 (x ++ p ++ w) =
        earlier ++ (fragments 0 (p ++ w)).map (·.shift (byteLength x)) ∧
      ∀ g ∈ earlier, g.span.stop ≤ byteLength x := by
  obtain ⟨earlier, hearlier⟩ := fragments_before hp hf (by rw [hstart, Nat.zero_add])
  have hwhole := hearlier w
  rw [Nat.zero_add] at hwhole
  refine ⟨earlier, by rw [hwhole, ← fragments_shift, Nat.zero_add], fun g hg => ?_⟩
  -- The first of the later fragments starts at the place, since one does.
  obtain ⟨x', c, rest, htext, hnode, hstart', -⟩ := exists_head_of_mem hf
  rw [List.append_assoc] at htext
  obtain ⟨-, hrest⟩ := append_inj_of_byteLength htext (by omega)
  have hordered := fragments_pairwise 0 (x ++ p ++ w)
  rw [hwhole, hrest, fragments_cons] at hordered
  simp only at hordered
  rw [if_neg (hnode ▸ not_skipped_of_mem hf)] at hordered
  exact (List.pairwise_append.mp hordered).2.2 g hg _ (List.mem_cons_self ..)

section

variable {before inside after : List Char} {f g : Spanned Fragment} {span : Span}

/-- The fragments of an excerpt stand between those that lie before it and those behind it. -/
theorem fragments_excerpt (hf : f ∈ fragments 0 (before ++ inside ++ after))
    (hstart : f.span.start = byteLength before)
    (hlast : ⟨.token (.mark .semicolon), span⟩ ∈ fragments 0 (before ++ inside ++ after))
    (hle : byteLength before ≤ span.start) (hstop : span.stop = byteLength (before ++ inside)) :
    ∃ earlier later, fragments 0 (before ++ inside ++ after) =
        earlier ++ (fragments (byteLength before) inside ++ later) ∧
      (∀ g ∈ earlier, g.span.stop ≤ byteLength before) ∧
      ∀ g ∈ later, byteLength (before ++ inside) ≤ g.span.start := by
  have hpos := (span_of_mem hlast).2.1
  have hsettles : Settles inside := by
    obtain ⟨x, rest, htext, rfl⟩ := exists_parts_of_semicolon hlast
    obtain ⟨hends, -⟩ := append_inj_of_byteLength htext hstop.symm
    obtain ⟨y, rfl, hy⟩ := exists_between hends hle
    rw [hy]
    exact Settles.append_left ⟨by decide, by decide⟩ y
  obtain ⟨earlier, hwhole, hearlier⟩ := fragments_from hsettles hf hstart
  rw [hwhole] at hlast
  rcases List.mem_append.mp hlast with hlast | hlast
  · have := hearlier _ hlast
    simp only at this hpos
    omega
  obtain ⟨⟨node, here⟩, hmem, hshift⟩ := List.mem_map.mp hlast
  cases hshift
  have hhere : here.stop = byteLength inside := by
    rw [byteLength_append] at hstop
    simp only [Span.shift] at hstop
    omega
  refine ⟨earlier, fragments (byteLength (before ++ inside)) after, ?_, hearlier,
    fun g hg => (span_of_mem hg).1⟩
  rw [hwhole, fragments_append hmem hhere after, List.map_append, ← fragments_shift,
    ← fragments_shift, ← fragments_shift, byteLength_append, Nat.zero_add, Nat.zero_add,
    Nat.add_comm (byteLength inside)]

/-- An excerpt has the fragments that the whole has there, and no others. -/
theorem mem_fragments_excerpt (hf : f ∈ fragments 0 (before ++ inside ++ after))
    (hstart : f.span.start = byteLength before)
    (hlast : ⟨.token (.mark .semicolon), span⟩ ∈ fragments 0 (before ++ inside ++ after))
    (hle : byteLength before ≤ span.start) (hstop : span.stop = byteLength (before ++ inside)) :
    g ∈ fragments (byteLength before) inside ↔ g ∈ fragments 0 (before ++ inside ++ after) ∧
      byteLength before ≤ g.span.start ∧ g.span.stop ≤ byteLength (before ++ inside) := by
  obtain ⟨earlier, later, hwhole, hearlier, hlater⟩ := fragments_excerpt hf hstart hlast hle hstop
  rw [hwhole]
  constructor
  · intro hg
    have hspan := span_of_mem hg
    rw [byteLength_append]
    exact ⟨List.mem_append_right _ (List.mem_append_left _ hg), hspan.1, hspan.2.2⟩
  · intro ⟨hg, hbefore, hbehind⟩
    have hpos := (span_of_mem (hwhole ▸ hg)).2.1
    rcases List.mem_append.mp hg with hg | hg
    · have := hearlier g hg
      omega
    rcases List.mem_append.mp hg with hg | hg
    · exact hg
    · have := hlater g hg
      omega

end

end Lexed
end GrammarText
