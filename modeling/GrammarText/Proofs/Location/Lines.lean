/-
The lines of a text.  A line starts at the start of the text and behind every line feed, so the
starts increase and there is one more of them than of line feeds.  Halving finds the last start that
is not behind an offset, and a line is the piece between its start and the next line feed.
-/
import Mathlib.Data.List.DropRight
import Mathlib.Algebra.Group.Nat.Defs
import GrammarText.Location
import GrammarText.Proofs.Text.Boundary

namespace GrammarText
namespace Location

open Text

/-! Looking for a number. -/

def Increasing (numbers : Array Nat) : Prop :=
  ∀ i j, (hj : j < numbers.size) → (hij : i < j) → numbers[i] < numbers[j]

/-- What is known of the place for a number that is none of the others. -/
structure Inserts (numbers : Array Nat) (wanted place : Nat) : Prop where
  le_size : place ≤ numbers.size
  smaller : ∀ i, (hi : i < place) → numbers[i] < wanted
  greater : ∀ i, (hi : i < numbers.size) → place ≤ i → wanted < numbers[i]

/-- What is known of the outcome of a search, be it the number's own place or a place for it. -/
def Finds (numbers : Array Nat) (wanted : Nat) : Except Nat Nat → Prop
  | .ok place => numbers[place]? = some wanted
  | .error place => Inserts numbers wanted place

section

variable {numbers : Array Nat}

/-- Halving keeps the smaller numbers in front and the greater ones behind, until it meets the
number or its place. -/
theorem search_spec (hsorted : Increasing numbers) (wanted : Nat) {low high : Nat}
    (h : high ≤ numbers.size) (hle : low ≤ high)
    (hsmaller : ∀ i, (hi : i < low) → numbers[i] < wanted)
    (hgreater : ∀ i, (hi : i < numbers.size) → high ≤ i → wanted < numbers[i]) :
    Finds numbers wanted (search numbers wanted low high h) := by
  fun_induction search numbers wanted low high h with
  | case1 low high h hlt middle hmiddle heq =>
    exact (Array.getElem?_eq_getElem (by omega)).trans (congrArg some heq)
  | case2 low high h hlt middle hmiddle hne hless ih =>
    refine ih (by omega) (fun i hi => ?_) hgreater
    by_cases hi' : i = middle
    · subst hi'
      exact hless
    · exact Nat.lt_trans (hsorted i middle (by omega) (by omega)) hless
  | case3 low high h hlt middle hmiddle hne hless ih =>
    refine ih (by omega) hsmaller fun i hi hle => ?_
    have hmore : wanted < numbers[middle] := by omega
    by_cases hi' : i = middle
    · subst hi'
      exact hmore
    · exact Nat.lt_trans hmore (hsorted middle i hi (by omega))
  | case4 low high h hlt =>
    obtain rfl : low = high := by omega
    exact ⟨h, hsmaller, hgreater⟩

/-- The line of an offset is the last that does not start behind it. -/
theorem lineOf_eq (hsorted : Increasing numbers) {line offset : Nat} (hline : line < numbers.size)
    (hstart : numbers[line] ≤ offset)
    (hnext : ∀ i, (hi : i < numbers.size) → line < i → offset < numbers[i]) :
    lineOf numbers offset = line := by
  have hspec := search_spec hsorted offset (Nat.le_refl _) (Nat.zero_le _)
    (fun i hi => absurd hi (Nat.not_lt_zero i)) (fun i hi hle => absurd hi (Nat.not_lt.mpr hle))
  unfold lineOf
  split <;> rename_i place hfound <;> rw [hfound] at hspec
  · obtain ⟨hplace, heq⟩ := Array.getElem?_eq_some_iff.mp hspec
    have hafter : ¬ line < place := fun hlt => by
      have := hnext place hplace hlt
      omega
    have hbefore : ¬ place < line := fun hlt => by
      have := hsorted place line hline hlt
      omega
    omega
  · have hbefore : ¬ place ≤ line := fun hle => by
      have := hspec.greater line hline hle
      omega
    have hafter : ¬ line + 1 < place := fun hlt => by
      have hsize : line + 1 < numbers.size := Nat.lt_of_lt_of_le hlt hspec.le_size
      have := hspec.smaller (line + 1) hlt
      have := hnext (line + 1) hsize (Nat.lt_succ_self line)
      omega
    omega

end

/-! Where the lines start. -/

theorem startsFrom_append (offset : Nat) (a b : List Char) :
    startsFrom offset (a ++ b) = startsFrom offset a ++ startsFrom (offset + byteLength a) b := by
  induction a generalizing offset with
  | nil => rfl
  | cons c rest ih =>
    rw [List.cons_append, startsFrom, startsFrom, byteLength]
    by_cases hc : c = '\n'
    · subst hc
      have hsize : Char.utf8Size '\n' = 1 := rfl
      rw [if_pos (beq_self_eq_true _), if_pos (beq_self_eq_true _), ih, hsize, Nat.add_assoc]
      rfl
    · rw [if_neg (by simpa using hc), if_neg (by simpa using hc), ih, Nat.add_assoc]

theorem length_startsFrom (offset : Nat) (text : List Char) :
    (startsFrom offset text).length = text.count '\n' := by
  induction text generalizing offset with
  | nil => rfl
  | cons c rest ih =>
    rw [startsFrom, List.count_cons]
    by_cases hc : c = '\n' <;> simp [hc, ih]

theorem lt_of_mem_startsFrom {offset start : Nat} {text : List Char}
    (h : start ∈ startsFrom offset text) : offset < start := by
  induction text generalizing offset with
  | nil => cases h
  | cons c rest ih =>
    rw [startsFrom] at h
    split at h
    · rcases List.mem_cons.mp h with rfl | h
      · exact Nat.lt_succ_self offset
      · exact Nat.lt_of_succ_lt (ih h)
    · exact Nat.lt_of_le_of_lt (Nat.le_add_right ..) (ih h)

theorem pairwise_startsFrom (offset : Nat) (text : List Char) :
    (startsFrom offset text).Pairwise (· < ·) := by
  induction text generalizing offset with
  | nil => exact .nil
  | cons c rest ih =>
    rw [startsFrom]
    split
    · exact .cons (fun _ h => lt_of_mem_startsFrom h) (ih _)
    · exact ih _

theorem increasing_lineStarts (text : List Char) : Increasing (lineStarts text) := by
  have hpairwise : (0 :: startsFrom 0 text).Pairwise (· < ·) :=
    .cons (fun _ h => lt_of_mem_startsFrom h) (pairwise_startsFrom 0 text)
  intro i j hj hij
  exact List.pairwise_iff_getElem.mp hpairwise i j (Nat.lt_trans hij hj) hj hij

theorem size_lineStarts (text : List Char) : (lineStarts text).size = text.count '\n' + 1 := by
  show (startsFrom 0 text).length + 1 = _
  rw [length_startsFrom]

/-- Behind an initial part, the starts are those behind its end. -/
theorem getElem?_lineStarts_append {before after : List Char} {line : Nat}
    (h : before.count '\n' < line) :
    (lineStarts (before ++ after))[line]? =
      (startsFrom (byteLength before) after)[line - (before.count '\n' + 1)]? := by
  have hlength : (0 :: startsFrom 0 before).length = before.count '\n' + 1 := by
    rw [List.length_cons, length_startsFrom]
  rw [lineStarts, List.getElem?_toArray, startsFrom_append, Nat.zero_add, ← List.cons_append,
    List.getElem?_append_right (by omega), hlength]

/-- A line starts behind the text: it is empty or ends in a line feed. -/
def StartsLine (text : List Char) : Prop :=
  text = [] ∨ ∃ before, text = before ++ ['\n']

/-- Where a line starts, the start that is listed is the offset. -/
theorem getElem?_lineStarts {before : List Char} (h : StartsLine before) (after : List Char) :
    (lineStarts (before ++ after))[before.count '\n']? = some (byteLength before) := by
  obtain rfl | ⟨before, rfl⟩ := h
  · rfl
  · have hcount : (before ++ ['\n']).count '\n' = before.count '\n' + 1 := by
      rw [List.count_append]
      rfl
    rw [List.append_assoc, hcount, getElem?_lineStarts_append (Nat.lt_succ_self _), Nat.sub_self,
      byteLength_append]
    rfl

/-! The pieces between the line feeds. -/

/-- A piece starts where a line starts, has no line feed in it, and ends before one or at the end of
the text. -/
theorem exists_piece {text piece : List Char} {line : Nat}
    (h : (text.splitOn '\n')[line]? = some piece) :
    ∃ before after, text = before ++ piece ++ after ∧ StartsLine before ∧
      before.count '\n' = line ∧ piece.count '\n' = 0 ∧
      (after = [] ∨ ∃ later, after = '\n' :: later) := by
  induction line generalizing text with
  | zero =>
    by_cases hfeed : '\n' ∈ text
    · obtain ⟨first, later, rfl, hfirst⟩ := List.eq_append_cons_of_mem hfeed
      rw [List.splitOn_append_cons_self_of_not_mem hfirst] at h
      obtain rfl : first = piece := Option.some.inj h
      exact ⟨[], '\n' :: later, rfl, .inl rfl, rfl, List.count_eq_zero.mpr hfirst,
        .inr ⟨later, rfl⟩⟩
    · rw [List.splitOn_eq_singleton hfeed] at h
      obtain rfl : text = piece := Option.some.inj h
      exact ⟨[], [], (List.append_nil _).symm, .inl rfl, rfl, List.count_eq_zero.mpr hfeed,
        .inl rfl⟩
  | succ line ih =>
    by_cases hfeed : '\n' ∈ text
    · obtain ⟨first, later, rfl, hfirst⟩ := List.eq_append_cons_of_mem hfeed
      rw [List.splitOn_append_cons_self_of_not_mem hfirst, List.getElem?_cons_succ] at h
      obtain ⟨before, after, rfl, hstarts, hcount, hpiece, hafter⟩ := ih h
      refine ⟨first ++ '\n' :: before, after, by simp, ?_, ?_, hpiece, hafter⟩
      · obtain rfl | ⟨before, rfl⟩ := hstarts
        · exact .inr ⟨first, rfl⟩
        · exact .inr ⟨first ++ '\n' :: before, by simp⟩
      · rw [List.count_append, List.count_eq_zero.mpr hfirst, List.count_cons_self, hcount]
        omega
    · rw [List.splitOn_eq_singleton hfeed] at h
      cases h

theorem length_splitOn (text : List Char) :
    (text.splitOn '\n').length = text.count '\n' + 1 := by
  induction hn : text.count '\n' generalizing text with
  | zero => rw [List.splitOn_eq_singleton (List.count_eq_zero.mp hn)]; rfl
  | succ n ih =>
    have hfeed : '\n' ∈ text := List.count_pos_iff.mp (by omega)
    obtain ⟨first, later, rfl, hfirst⟩ := List.eq_append_cons_of_mem hfeed
    rw [List.count_append, List.count_eq_zero.mpr hfirst, List.count_cons_self] at hn
    rw [List.splitOn_append_cons_self_of_not_mem hfirst, List.length_cons, ih later (by omega)]

theorem lineCount_eq (source : String) : lineCount source = source.toList.count '\n' + 1 :=
  size_lineStarts source.toList

/-- A line stops behind its piece. -/
theorem lineStop_eq {before piece after : List Char} (hpiece : piece.count '\n' = 0)
    (hafter : after = [] ∨ ∃ later, after = '\n' :: later) :
    lineStop (lineStarts (before ++ piece ++ after)) (before ++ piece ++ after)
      (before.count '\n') = byteLength (before ++ piece) := by
  have hcount : before.count '\n' = (before ++ piece).count '\n' := by
    rw [List.count_append, hpiece, Nat.add_zero]
  unfold lineStop
  rw [hcount, getElem?_lineStarts_append (Nat.lt_succ_self _), Nat.sub_self]
  obtain rfl | ⟨later, rfl⟩ := hafter
  · rw [List.append_nil]
    rfl
  · rfl

/-- A line is the piece of its number without the carriage returns at its end. -/
theorem line?_eq (source : String) (line : Nat) :
    line? source line = (source.toList.splitOn '\n')[line]?.map fun piece =>
      String.ofList (withoutReturns piece) := by
  unfold line?
  cases hpiece : (source.toList.splitOn '\n')[line]? with
  | none =>
    have hlarge : (lineStarts source.toList).size ≤ line := by
      rw [size_lineStarts, ← length_splitOn]
      exact List.getElem?_eq_none_iff.mp hpiece
    simp only [Array.getElem?_eq_none hlarge]
    rfl
  | some piece =>
    obtain ⟨before, after, htext, hstarts, rfl, hcount, hafter⟩ := exists_piece hpiece
    have hstart := getElem?_lineStarts hstarts (piece ++ after)
    rw [← List.append_assoc] at hstart
    simp only [htext, hstart, lineStop_eq hcount hafter, Option.bind_eq_bind, Option.bind_some,
      slice?_append]
    rfl

end Location
end GrammarText
