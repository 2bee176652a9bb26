/-
Layout between tokens.  Blanks and comments put at the edge of a token change no token but in its
range: what starts at the place or behind it starts further on.
-/
import GrammarText.Proofs.Lexer.Lines

namespace GrammarText

open Text

/-- Blanks, and comments with a line end behind each. -/
inductive Layout : List Char → Prop where
  | nil : Layout []
  | blank {c : Char} {rest : List Char} (hc : isBlank c = true) (hrest : Layout rest) :
      Layout (c :: rest)
  | comment {body rest : List Char} {c : Char} (hbody : ∀ d ∈ body, isLineEnd d = false)
      (hc : isLineEnd c = true) (hrest : Layout rest) : Layout ('#' :: (body ++ c :: rest))

/-- A range where `width` bytes have been put in at a place.  What starts at the place starts behind
them, and what stops there stops in front of them. -/
def Span.widen (s : Span) (place width : Nat) : Span where
  start := if s.start < place then s.start else s.start + width
  stop := if s.stop ≤ place then s.stop else s.stop + width

theorem Span.widen_before {s : Span} {place : Nat} (h : s.start < s.stop) (hstop : s.stop ≤ place)
    (width : Nat) : s.widen place width = s := by
  unfold Span.widen
  rw [if_pos (by omega), if_pos hstop]

theorem Span.widen_behind {s : Span} {place : Nat} (h : s.start < s.stop)
    (hstart : place ≤ s.start) (width : Nat) : s.widen place width = s.shift width := by
  unfold Span.widen
  rw [if_neg (by omega), if_neg (by omega)]
  rfl

/-- The same value where `width` bytes have been put in at a place. -/
def Spanned.widen {α : Type} (s : Spanned α) (place width : Nat) : Spanned α :=
  s.relocate (·.widen place width)

/-- A character at which no name, no integer and no other token but a literal goes on. -/
def OpensLayout (c : Char) : Prop :=
  isBlank c = true ∨ c = '#'

theorem Layout.opens {gap : List Char} (h : Layout gap) (later : List Char) :
    gap = [] ∨ ∀ c ∈ (gap ++ later).head?, OpensLayout c := by
  cases h with
  | nil => exact .inl rfl
  | blank hc _ => exact .inr fun d hd => .inl (Option.some.inj hd ▸ hc)
  | comment => exact .inr fun d hd => .inr (Option.some.inj hd).symm

namespace OpensLayout

variable {c : Char}

theorem cases_eq (h : OpensLayout c) :
    c = ' ' ∨ c = '\t' ∨ c = '\r' ∨ c = '\n' ∨ c = '\x0c' ∨ c = '#' := by
  unfold OpensLayout isBlank at h
  simp only [Bool.or_eq_true, beq_iff_eq] at h
  tauto

theorem not_isWord (h : OpensLayout c) : isWord c = false := by
  rcases h.cases_eq with rfl | rfl | rfl | rfl | rfl | rfl <;> decide

theorem not_isDigit (h : OpensLayout c) : c.isDigit = false := by
  rcases h.cases_eq with rfl | rfl | rfl | rfl | rfl | rfl <;> decide

end OpensLayout

namespace Text

/-- What is taken up to a place is taken up to there before any text that does not go on with it. -/
theorem length_takeWhile_append {accept : Char → Bool} {x b y : List Char}
    (hx : ((x ++ b).takeWhile accept).length = x.length) (hy : ∀ c ∈ y.head?, accept c = false) :
    ((x ++ y).takeWhile accept).length = x.length := by
  have htaken : (x ++ b).takeWhile accept = x := by
    rw [List.prefix_iff_eq_take.mp (List.takeWhile_prefix accept), hx, List.take_left]
  have hall : ∀ c ∈ x, accept c = true := by
    rw [← htaken]
    exact List.all_eq_true.mp List.all_takeWhile
  have hstops : y.takeWhile accept = [] := by
    cases y with
    | nil => rfl
    | cons c later => exact List.takeWhile_cons_of_neg (by simp [hy c rfl])
  rw [List.takeWhile_append_of_pos hall, hstops, List.append_nil]

/-- A closed literal stops behind its delimiter whatever comes then. -/
theorem Delimited.length_split_append {delimiter : Char} (hb : delimiter ≠ '\\') {x b : List Char}
    (hx : (split delimiter (x ++ b)).1.length = x.length)
    (hbody : body? delimiter (delimiter :: x) ≠ none) (y : List Char) :
    (split delimiter (x ++ y)).1.length = x.length := by
  have htaken : (split delimiter (x ++ b)).1 = x := by
    rw [List.prefix_iff_eq_take.mp (split_taken delimiter _), hx, List.take_left]
  obtain ⟨units, hunits, hopen | hclosed⟩ := split_units delimiter (x ++ b)
  · rw [htaken] at hopen
    exact absurd (hopen ▸ hunits.body?_open) hbody
  · rw [htaken] at hclosed
    rw [hclosed, hunits.split hb]

end Text

namespace Lexed

open LexicalClass

/-- A token that stops at a place stops there before blanks and before a comment. -/
theorem ofHead_before_layout {d : Char} {x b y : List Char} {t : Token}
    (h : Match.ofHead d (x ++ b) = ⟨.token t, x.length⟩)
    (hy : ∀ c ∈ y.head?, OpensLayout c) :
    Match.ofHead d (x ++ y) = ⟨.token t, x.length⟩ := by
  rcases ofHead_cases d (x ++ b) with ⟨k, hopens, hhead⟩ | ⟨-, hfault⟩
  · rw [hhead _ hopens, Match.mk.injEq] at h
    obtain ⟨hread, htail⟩ := h
    rw [htail, List.take_left] at hread
    have hstops : k.Opens d (x ++ y) ∧ k.tail (x ++ y) = x.length := by
      cases k with
      | blanks => cases hread
      | comment => cases hread
      | tokenName => exact ⟨hopens, length_takeWhile_append htail fun c hc => (hy c hc).not_isWord⟩
      | ruleName => exact ⟨hopens, length_takeWhile_append htail fun c hc => (hy c hc).not_isWord⟩
      | integer => exact ⟨hopens, length_takeWhile_append htail fun c hc => (hy c hc).not_isDigit⟩
      | literal =>
        obtain rfl : d = '\'' := hopens
        refine ⟨rfl, Delimited.length_split_append (by decide) htail (fun hnone => ?_) y⟩
        rw [LexicalClass.read, Quoted.decode, hnone] at hread
        cases hread
      | regex =>
        obtain rfl : d = '/' := hopens
        refine ⟨rfl, Delimited.length_split_append (by decide) htail (fun hnone => ?_) y⟩
        rw [LexicalClass.read, Slashed.decode, hnone] at hread
        cases hread
      | mark m =>
        cases m with
        | range =>
          obtain ⟨c, rfl⟩ := List.length_eq_one_iff.mp htail.symm
          exact ⟨hopens, rfl⟩
        | _ => exact ⟨hopens, htail⟩
    rw [hhead _ hstops.1, hstops.2, List.take_left, hread]
  · rw [hfault] at h
    cases h

/-- Layout in front of a text is skipped. -/
theorem fragments_layout {gap : List Char} (h : Layout gap) (offset : Nat) (b : List Char) :
    fragments offset (gap ++ b) = fragments (offset + byteLength gap) b := by
  induction h generalizing offset with
  | nil => rfl
  | @blank c rest hc _ ih =>
    rw [List.cons_append, fragments_blank hc, ih, byteLength, Nat.add_assoc]
  | @comment body rest c hbody hc _ ih =>
    have htaken : (body ++ c :: (rest ++ b)).takeWhile (!isLineEnd ·) = body := by
      rw [List.takeWhile_append_of_pos fun d hd => by rw [hbody d hd]; rfl,
        List.takeWhile_cons_of_neg (by simp [hc]), List.append_nil]
    have hhead : Match.ofHead '#' (body ++ c :: (rest ++ b)) = ⟨.skipped, body.length⟩ := by
      show Match.mk .skipped ((body ++ c :: (rest ++ b)).takeWhile (!isLineEnd ·)).length = _
      rw [htaken]
    rw [List.cons_append, List.append_assoc, List.cons_append, fragments_cons, hhead]
    simp only [if_true, List.take_left, List.drop_left]
    rw [fragments_blank (isBlank_of_isLineEnd hc), ih, byteLength, byteLength_append, byteLength]
    congr 1
    omega

theorem reading_layout {gap : List Char} (h : Layout gap) (b : List Char) :
    reading (gap ++ b) = reading b := by
  rw [← map_node_fragments 0, fragments_layout h, map_node_fragments]

/-- A comment goes on to a line end. -/
theorem isLineEnd_behind_comment {d : Char} {x b : List Char} (hd : ¬ isBlank d = true)
    (h : Match.ofHead d (x ++ b) = ⟨.skipped, x.length⟩) : ∀ c ∈ b.head?, isLineEnd c = true := by
  rcases ofHead_cases d (x ++ b) with ⟨k, hopens, hhead⟩ | ⟨-, hfault⟩
  · rw [hhead _ hopens, Match.mk.injEq] at h
    obtain ⟨hread, htail⟩ := h
    have hexcept : ∀ r, Fragment.ofExcept r ≠ .skipped := by
      intro r
      cases r <;> exact nofun
    cases k with
    | blanks => exact absurd hopens hd
    | comment =>
      intro c hc
      obtain ⟨later, rfl⟩ := List.head?_eq_some_iff.mp hc
      by_contra hline
      have hmore : ((x ++ c :: later).takeWhile (!isLineEnd ·)).length = x.length := htail
      have htaken : (x ++ c :: later).takeWhile (!isLineEnd ·) = x := by
        rw [List.prefix_iff_eq_take.mp (List.takeWhile_prefix _), hmore, List.take_left]
      have hall : ∀ e ∈ x, (!isLineEnd e) = true := by
        rw [← htaken]
        exact List.all_eq_true.mp List.all_takeWhile
      rw [List.takeWhile_append_of_pos hall, List.takeWhile_cons_of_pos (by simp [hline]),
        List.length_append, List.length_cons] at hmore
      omega
    | literal => exact absurd hread (hexcept _)
    | regex => exact absurd hread (hexcept _)
    | integer => exact absurd hread (hexcept _)
    | tokenName => cases hread
    | ruleName => cases hread
    | mark => cases hread
  · rw [hfault] at h
    cases h

/-- What a fragment adds to the list of fragments. -/
def listed (fragment : Fragment) (span : Span) : List (Spanned Fragment) :=
  if fragment = .skipped then [] else [⟨fragment, span⟩]

theorem mem_listed {fragment : Fragment} {span : Span} {g : Spanned Fragment}
    (h : g ∈ listed fragment span) : g.node = fragment ∧ g.span = span := by
  unfold listed at h
  split at h
  · cases h
  · obtain rfl := List.mem_singleton.mp h
    exact ⟨rfl, rfl⟩

/-- The fragments of a text are the first, unless it is skipped, and those of the rest. -/
theorem fragments_head {d : Char} {x w : List Char}
    (h : (Match.ofHead d (x ++ w)).tail = x.length) (offset : Nat) :
    fragments offset (d :: (x ++ w)) =
      listed (Match.ofHead d (x ++ w)).fragment ⟨offset, offset + byteLength (d :: x)⟩ ++
        fragments (offset + byteLength (d :: x)) w := by
  rw [fragments_cons, listed]
  simp only [h, List.take_left, List.drop_left, byteLength, ← Nat.add_assoc]
  split <;> rfl

/-- Where a fragment has an edge at a place, the first fragment stops there or in front of it. -/
theorem exists_first {d : Char} {rest b : List Char} {offset : Nat} {f : Spanned Fragment}
    (hf : f ∈ fragments offset (d :: (rest ++ b)))
    (hplace : f.span.start = offset + byteLength (d :: rest) ∨
      f.span.stop = offset + byteLength (d :: rest)) :
    ∃ x v, rest = x ++ v ∧ (Match.ofHead d (x ++ (v ++ b))).tail = x.length ∧
      (f ∈ fragments (offset + byteLength (d :: x)) (v ++ b) ∨ v = []) := by
  have hpos := d.utf8Size_pos
  rw [byteLength, ← Nat.add_assoc] at hplace
  rw [fragments_cons] at hf
  generalize hfound : Match.ofHead d (rest ++ b) = found at hf
  have hcases : f ∈ fragments (offset + d.utf8Size + byteLength ((rest ++ b).take found.tail))
        ((rest ++ b).drop found.tail) ∨
      (f.span.start = offset ∧
        f.span.stop = offset + d.utf8Size + byteLength ((rest ++ b).take found.tail)) := by
    simp only at hf
    split at hf
    · exact .inl hf
    · rcases List.mem_cons.mp hf with rfl | hf
      · exact .inr ⟨rfl, rfl⟩
      · exact .inl hf
  have hbytes : byteLength ((rest ++ b).take found.tail) ≤ byteLength rest := by
    rcases hcases with hlater | ⟨hstart, hstop⟩
    · have := span_of_mem hlater
      omega
    · omega
  have htail : found.tail ≤ rest.length := by
    by_cases hb : b = []
    · have := ofHead_tail_le d (rest ++ b)
      rwa [hfound, hb, List.append_nil] at this
    · exact le_length_of_byteLength_take hb hbytes
  obtain ⟨x, v, rfl, hx⟩ : ∃ x v, rest = x ++ v ∧ x.length = found.tail :=
    ⟨rest.take found.tail, rest.drop found.tail, (List.take_append_drop _ _).symm,
      List.length_take_of_le htail⟩
  rw [List.append_assoc] at hfound hcases
  rw [← hx, List.take_left, List.drop_left] at hcases
  refine ⟨x, v, rfl, by rw [hfound, hx], ?_⟩
  rw [byteLength, ← Nat.add_assoc]
  rcases hcases with hlater | ⟨hstart, hstop⟩
  · exact .inl hlater
  · refine .inr ?_
    by_contra hv
    have := byteLength_pos hv
    rw [byteLength_append] at hplace
    omega

/-- A fragment that settles where it stops stops there in front of layout too. -/
theorem ofHead_insert {d : Char} {x v b gap : List Char} {offset : Nat} {f : Spanned Fragment}
    (hgap : Layout gap) (hd : ¬ isBlank d = true)
    (hclean : ∀ g ∈ fragments offset (d :: (x ++ (v ++ b))), lexError? g = none)
    (hf : f ∈ fragments offset (d :: (x ++ (v ++ b))))
    (hplace : f.span.start = offset + byteLength (d :: (x ++ v)) ∨
      f.span.stop = offset + byteLength (d :: (x ++ v)))
    (htail : (Match.ofHead d (x ++ (v ++ b))).tail = x.length) :
    Match.ofHead d (x ++ (v ++ (gap ++ b))) = Match.ofHead d (x ++ (v ++ b)) := by
  have hall := fragments_head htail offset
  by_cases hv : v = []
  · subst hv
    rw [List.nil_append, List.nil_append]
    rw [List.nil_append] at hclean hf htail hall
    generalize hfound : Match.ofHead d (x ++ b) = found at *
    obtain ⟨fragment, tail⟩ := found
    obtain rfl : tail = x.length := htail
    rcases hgap.opens b with rfl | hopens
    · exact hfound
    cases fragment with
    | token t => exact ofHead_before_layout hfound hopens
    | fault fault =>
      rw [hall] at hclean
      exact nomatch hclean _ (List.mem_cons_self ..)
    | skipped =>
      -- A comment would go on to a line end, and no fragment starts at one.
      have hline := isLineEnd_behind_comment hd hfound
      rw [hall] at hf
      have hf : f ∈ fragments (offset + byteLength (d :: x)) b := hf
      have hspan := span_of_mem hf
      rw [List.append_nil] at hplace
      cases b with
      | nil =>
        rw [fragments_nil] at hf
        cases hf
      | cons c later =>
        have hc := hline c rfl
        rw [fragments_blank (isBlank_of_isLineEnd hc)] at hf
        have := (span_of_mem hf).1
        have := c.utf8Size_pos
        omega
  · have hlone : v ≠ ['\\'] := by
      rintro rfl
      rw [hall, List.cons_append, fragments_cons] at hclean
      exact nomatch hclean _ (List.mem_append_right _ (List.mem_cons_self ..))
    rw [← List.append_assoc] at htail
    rw [← List.append_assoc, ← List.append_assoc x v]
    exact Match.ofHead_lookahead ⟨hv, hlone⟩ htail

/-- Layout put in at the edge of a token leaves the fragments before the place and behind it. -/
theorem fragments_insert {gap b : List Char} (hgap : Layout gap) {offset : Nat} {a : List Char}
    {f : Spanned Fragment} (hclean : ∀ g ∈ fragments offset (a ++ b), lexError? g = none)
    (hf : f ∈ fragments offset (a ++ b))
    (hplace : f.span.start = offset + byteLength a ∨ f.span.stop = offset + byteLength a) :
    ∃ before : List (Spanned Fragment),
      (∀ g ∈ before, g.span.stop ≤ offset + byteLength a) ∧
      fragments offset (a ++ b) = before ++ fragments (offset + byteLength a) b ∧
      fragments offset (a ++ (gap ++ b)) =
        before ++ fragments (offset + byteLength a) (gap ++ b) := by
  induction hlen : a.length using Nat.strongRecOn generalizing a offset with
  | ind n ih =>
    cases a with
    | nil => exact ⟨[], nofun, rfl, rfl⟩
    | cons d rest =>
      rw [List.length_cons] at hlen
      by_cases hd : isBlank d = true
      · rw [List.cons_append, fragments_blank hd] at hf hclean
        rw [byteLength, ← Nat.add_assoc] at hplace ⊢
        rw [List.cons_append, List.cons_append, fragments_blank hd, fragments_blank hd]
        exact ih rest.length (hlen ▸ Nat.lt_succ_self _) hclean hf hplace rfl
      rw [List.cons_append] at hf hclean
      obtain ⟨x, v, rfl, htail, hlater⟩ := exists_first hf hplace
      rw [List.append_assoc] at hf hclean
      have hsame := ofHead_insert hgap hd hclean hf hplace htail
      have hwhole := fragments_head htail offset
      have hinsert := fragments_head (hsame ▸ htail) offset
      rw [hsame] at hinsert
      have hbytes : offset + byteLength (d :: (x ++ v)) =
          offset + byteLength (d :: x) + byteLength v := by
        rw [← List.cons_append, byteLength_append, Nat.add_assoc]
      rw [hbytes] at hplace ⊢
      obtain ⟨before, hstop, hbehind, hbehind'⟩ : ∃ before : List (Spanned Fragment),
          (∀ g ∈ before, g.span.stop ≤ offset + byteLength (d :: x) + byteLength v) ∧
          fragments (offset + byteLength (d :: x)) (v ++ b) =
            before ++ fragments (offset + byteLength (d :: x) + byteLength v) b ∧
          fragments (offset + byteLength (d :: x)) (v ++ (gap ++ b)) =
            before ++ fragments (offset + byteLength (d :: x) + byteLength v) (gap ++ b) := by
        rcases hlater with hlater | rfl
        · rw [hwhole] at hclean
          refine ih v.length ?_ (fun g hg => hclean g (List.mem_append_right _ hg)) hlater hplace
            rfl
          rw [← hlen, List.length_append]
          omega
        · exact ⟨[], nofun, rfl, rfl⟩
      refine ⟨listed (Match.ofHead d (x ++ (v ++ b))).fragment
        ⟨offset, offset + byteLength (d :: x)⟩ ++ before, ?_, ?_, ?_⟩
      · refine List.forall_mem_append.mpr ⟨fun g hg => ?_, hstop⟩
        rw [(mem_listed hg).2]
        exact Nat.le_add_right _ _
      · rw [List.cons_append, List.append_assoc, List.append_assoc, hwhole, hbehind]
      · rw [List.cons_append, List.append_assoc, List.append_assoc, hinsert, hbehind']

/-- The fragments of a text with layout put in at the edge of a token are those of the text, at
their new places. -/
theorem fragments_widen {gap a b : List Char} (hgap : Layout gap) {f : Spanned Fragment}
    (hclean : ∀ g ∈ fragments 0 (a ++ b), lexError? g = none) (hf : f ∈ fragments 0 (a ++ b))
    (hplace : f.span.start = byteLength a ∨ f.span.stop = byteLength a) :
    fragments 0 (a ++ (gap ++ b)) =
      (fragments 0 (a ++ b)).map (·.widen (byteLength a) (byteLength gap)) := by
  rw [← Nat.zero_add (byteLength a)] at hplace
  obtain ⟨before, hstop, hwhole, hinsert⟩ := fragments_insert hgap hclean hf hplace
  rw [Nat.zero_add] at hstop hwhole hinsert
  have hbefore : ∀ g ∈ before, g.widen (byteLength a) (byteLength gap) = g := by
    intro g hg
    have hspan := span_of_mem (hwhole ▸ List.mem_append_left _ hg)
    exact congrArg (Spanned.mk g.node) (Span.widen_before hspan.2.1 (hstop g hg) _)
  have hbehind : ∀ g ∈ fragments (byteLength a) b,
      g.widen (byteLength a) (byteLength gap) = g.shift (byteLength gap) := by
    intro g hg
    have hspan := span_of_mem hg
    exact congrArg (Spanned.mk g.node) (Span.widen_behind hspan.2.1 hspan.1 _)
  rw [hinsert, fragments_layout hgap, fragments_shift, hwhole, List.map_append,
    List.map_congr_left hbehind, List.map_congr_left hbefore, List.map_id']

/-- A text without lexical errors with layout put in at the edge of a token has its tokens, at their
new places, and no lexical error. -/
theorem tokenize_widen {a gap b : String} (hgap : Layout gap.toList)
    (hclean : (tokenize (a ++ b)).errors = []) {t : Lexeme}
    (ht : t ∈ (tokenize (a ++ b)).tokens)
    (hplace : t.span.start = byteLength a.toList ∨ t.span.stop = byteLength a.toList) :
    tokenize (a ++ gap ++ b) = ⟨(tokenize (a ++ b)).tokens.map
      (·.widen (byteLength a.toList) (byteLength gap.toList)), []⟩ := by
  have hmem := mem_tokens_iff.mp ht
  have hnone : (fragments 0 (a ++ b).toList).filterMap lexError? = [] := by
    rwa [tokenize, scan_eq] at hclean
  unfold tokenize
  rw [scan_eq, scan_eq]
  rw [String.toList_append] at hnone hmem ⊢
  rw [String.toList_append, String.toList_append, List.append_assoc,
    fragments_widen hgap (List.filterMap_eq_nil_iff.mp hnone) hmem hplace]
  congr 1
  · exact filterMap_lexeme?_relocate _ _
  · refine (filterMap_lexError?_relocate _ _).trans ?_
    rw [hnone, List.map_nil]

end Lexed
end GrammarText
