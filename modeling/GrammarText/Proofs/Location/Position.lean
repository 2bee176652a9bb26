/-
Positions.  The position of an offset is had by counting in what stands before the last boundary
that is not behind it: the line feeds, and the characters behind the last of them.  So it grows with
the boundary, and the boundary can be had back from it.
-/
import GrammarText.Proofs.Location.Lines

namespace GrammarText

open Text

/-- Where a text ends: the number of its line feeds and that of the characters behind the last. -/
def Position.behind (text : List Char) : Position :=
  ⟨text.count '\n', (text.rtakeWhile (· != '\n')).length⟩

namespace Location

theorem startsLine_rdropWhile (text : List Char) :
    StartsLine (text.rdropWhile (· != '\n')) := by
  by_cases h : text.rdropWhile (· != '\n') = []
  · exact .inl h
  · have hlast := List.rdropWhile_last_not _ _ h
    have hfeed : (text.rdropWhile (· != '\n')).getLast h = '\n' := by simpa using hlast
    have hsplit := List.dropLast_append_getLast h
    rw [hfeed] at hsplit
    exact .inr ⟨_, hsplit.symm⟩

theorem count_rtakeWhile (text : List Char) :
    (text.rtakeWhile (· != '\n')).count '\n' = 0 :=
  List.count_eq_zero.mpr fun h => by simpa using List.mem_rtakeWhile_imp h

/-- A boundary has the position behind what stands before it. -/
theorem position?_append {source : String} {before after : List Char}
    (h : source.toList = before ++ after) :
    position? source (byteLength before) = some (.behind before) := by
  -- The line starts behind the last line feed before the boundary.
  have hsplit : before.rdropWhile (· != '\n') ++ before.rtakeWhile (· != '\n') = before :=
    List.rdropWhile_append_rtakeWhile
  have hcount : (before.rdropWhile (· != '\n')).count '\n' = before.count '\n' := by
    rw [← congrArg (List.count '\n') hsplit, List.count_append, count_rtakeWhile, Nat.add_zero]
  have hstart := getElem?_lineStarts (startsLine_rdropWhile before)
    (before.rtakeWhile (· != '\n') ++ after)
  rw [← List.append_assoc, hsplit, hcount] at hstart
  have hline : lineOf (lineStarts (before ++ after)) (byteLength before) = before.count '\n' := by
    obtain ⟨hsize, heq⟩ := Array.getElem?_eq_some_iff.mp hstart
    refine lineOf_eq (increasing_lineStarts _) hsize ?_ fun i hi hlt => ?_
    · rw [heq, ← congrArg byteLength hsplit, byteLength_append]
      exact Nat.le_add_right ..
    · have hlater := Array.getElem?_eq_getElem hi
      rw [getElem?_lineStarts_append hlt] at hlater
      exact lt_of_mem_startsFrom (List.mem_of_getElem? hlater)
  have hslice := slice?_append (before.rdropWhile (· != '\n')) (before.rtakeWhile (· != '\n'))
    after
  rw [hsplit] at hslice
  simp only [position?, h, clamp_of_isBoundary (isBoundary_append before after), hline, hstart,
    Option.bind_eq_bind, Option.bind_some, hslice]
  rfl

/-- An offset has the position of what it is clamped to. -/
theorem position?_clamp (source : String) (offset : Nat) :
    position? source (clamp source.toList offset) = position? source offset := by
  simp only [position?, clamp_of_isBoundary (clamp_isGreatest source.toList offset).1.1]

end Location

/-- A text that goes on ends at a later position. -/
theorem Position.behind_lt (before : List Char) {more : List Char} (h : more ≠ []) :
    behind before < behind (before ++ more) := by
  by_cases hfeed : '\n' ∈ more
  · refine .inl ?_
    have hpos := List.count_pos_iff.mpr hfeed
    show before.count '\n' < (before ++ more).count '\n'
    rw [List.count_append]
    omega
  · refine .inr ⟨?_, ?_⟩
    · show before.count '\n' = (before ++ more).count '\n'
      rw [List.count_append, List.count_eq_zero.mpr hfeed, Nat.add_zero]
    · have hpos := List.length_pos_iff.mpr h
      have hmore : ∀ c ∈ more.reverse, (c != '\n') = true := fun c hc => by
        rw [bne_iff_ne]
        exact fun heq => hfeed (heq ▸ List.mem_reverse.mp hc)
      show (before.rtakeWhile _).length < ((before ++ more).rtakeWhile _).length
      simp only [List.rtakeWhile, List.reverse_append, List.length_reverse,
        List.takeWhile_append_of_pos hmore, List.length_append]
      omega

theorem Position.lt_irrefl (p : Position) : ¬ p < p := by
  rintro (h | ⟨-, h⟩) <;> exact Nat.lt_irrefl _ h

namespace Location

/-- An offset has the position behind what stands before the greatest boundary up to it. -/
theorem exists_position (source : String) (offset : Nat) :
    ∃ before after, source.toList = before ++ after ∧
      IsGreatest {boundary | isBoundary source.toList boundary = true ∧ boundary ≤ offset}
        (byteLength before) ∧
      position? source offset = some (.behind before) := by
  have hgreatest := clamp_isGreatest source.toList offset
  obtain ⟨before, after, htext, hbefore⟩ := isBoundary_iff.mp hgreatest.1.1
  refine ⟨before, after, htext, hbefore ▸ hgreatest, ?_⟩
  rw [← position?_clamp, ← hbefore, position?_append htext]

theorem position_line_lt (source : String) (offset : Nat) :
    (position source offset).line < lineCount source := by
  obtain ⟨before, after, htext, -, hposition⟩ := exists_position source offset
  rw [position, hposition, lineCount_eq, htext, List.count_append]
  exact Nat.lt_succ_of_le (Nat.le_add_right ..)

theorem position_lt {source : String} {a b : Nat} (ha : isBoundary source.toList a = true)
    (hb : isBoundary source.toList b = true) (hab : a < b) :
    position source a < position source b := by
  obtain ⟨before, after, htext, rfl⟩ := isBoundary_iff.mp ha
  obtain ⟨before', after', htext', rfl⟩ := isBoundary_iff.mp hb
  -- Two initial parts of one text: the longer one is the shorter one with more behind it.
  obtain ⟨more, rfl⟩ : before <+: before' := by
    rcases List.prefix_or_prefix_of_prefix ⟨after, htext.symm⟩ ⟨after', htext'.symm⟩ with
      h | ⟨more, rfl⟩
    · exact h
    · rw [byteLength_append] at hab
      omega
  have hmore : more ≠ [] := by
    rintro rfl
    rw [List.append_nil] at hab
    exact Nat.lt_irrefl _ hab
  unfold position
  rw [position?_append htext, position?_append htext']
  exact Position.behind_lt before hmore

/-- Positions and lines of a text are had by counting.  An offset, which may be inside a character
or past the end, has the position behind what stands before the greatest boundary up to it, and no
look-up on the way fails.  Its line is one of the lines of the text, of which there is one more than
of line feeds; each is the piece of its number, less carriage returns.  Of two boundaries the later
has the later position, so that none shares its position with another. -/
theorem position_spec (source : String) :
    (∀ offset, ∃ before after, source.toList = before ++ after ∧
      IsGreatest {boundary | isBoundary source.toList boundary = true ∧ boundary ≤ offset}
        (byteLength before) ∧
      position? source offset = some (.behind before) ∧
      position source offset = .behind before ∧
      (position source offset).line < lineCount source) ∧
    lineCount source = source.toList.count '\n' + 1 ∧
    (∀ line, line? source line = (source.toList.splitOn '\n')[line]?.map fun piece =>
      String.ofList (piece.rdropWhile (· == '\r'))) ∧
    (∀ a b, isBoundary source.toList a = true → isBoundary source.toList b = true → a < b →
      position source a < position source b) ∧
    Set.InjOn (position source) {boundary | isBoundary source.toList boundary = true} := by
  refine ⟨fun offset => ?_, lineCount_eq source, line?_eq source,
    fun a b ha hb hab => position_lt ha hb hab, fun a ha b hb heq => ?_⟩
  · obtain ⟨before, after, htext, hgreatest, hposition⟩ := exists_position source offset
    exact ⟨before, after, htext, hgreatest, hposition, by rw [position, hposition]; rfl,
      position_line_lt source offset⟩
  · rcases Nat.lt_trichotomy a b with hab | hab | hab
    · exact absurd (heq ▸ position_lt ha hb hab) (Position.lt_irrefl _)
    · exact hab
    · exact absurd (heq ▸ position_lt hb ha hab) (Position.lt_irrefl _)

/-- Columns count characters, and an offset inside one is where it starts. -/
example : (List.range 6).map (position "é\nx") =
    [⟨0, 0⟩, ⟨0, 0⟩, ⟨0, 1⟩, ⟨1, 0⟩, ⟨1, 1⟩, ⟨1, 1⟩] := by
  decide +kernel

end Location
end GrammarText
