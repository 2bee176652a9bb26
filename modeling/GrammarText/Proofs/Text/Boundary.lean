/-
Boundaries.  They are the byte lengths of the initial parts of a text, so that the text can be cut
at them, and every offset has a greatest boundary that is not behind it.
-/
import Mathlib.Order.Bounds.Basic
import GrammarText.Text.Offset

namespace GrammarText
namespace Text

theorem isBoundary_zero (text : List Char) : isBoundary text 0 = true := by
  cases text <;> rfl

theorem isBoundary_cons (c : Char) (rest : List Char) (offset : Nat) :
    isBoundary (c :: rest) (c.utf8Size + offset) = isBoundary rest offset := by
  have hpos := c.utf8Size_pos
  obtain ⟨size, hsize⟩ : ∃ size, c.utf8Size = size + 1 := ⟨c.utf8Size - 1, by omega⟩
  have hshift : c.utf8Size + offset = size + offset + 1 := by omega
  rw [hshift, isBoundary, hsize, show size + offset + 1 - (size + 1) = offset by omega]
  simp

theorem isBoundary_append (before after : List Char) :
    isBoundary (before ++ after) (byteLength before) = true := by
  induction before with
  | nil => exact isBoundary_zero after
  | cons c rest ih => rwa [List.cons_append, byteLength, isBoundary_cons]

theorem isBoundary_iff {text : List Char} {offset : Nat} :
    isBoundary text offset = true ↔
      ∃ before after, text = before ++ after ∧ byteLength before = offset := by
  refine ⟨fun h => ?_, ?_⟩
  · induction text generalizing offset with
    | nil =>
      cases offset with
      | zero => exact ⟨[], [], rfl, rfl⟩
      | succ _ => cases h
    | cons c rest ih =>
      cases offset with
      | zero => exact ⟨[], c :: rest, rfl, rfl⟩
      | succ offset =>
        rw [isBoundary, Bool.and_eq_true, decide_eq_true_iff] at h
        obtain ⟨before, after, rfl, hbefore⟩ := ih h.2
        exact ⟨c :: before, after, rfl, by rw [byteLength, hbefore]; omega⟩
  · rintro ⟨before, after, rfl, rfl⟩
    exact isBoundary_append before after

theorem le_byteLength_of_isBoundary {text : List Char} {offset : Nat}
    (h : isBoundary text offset = true) : offset ≤ byteLength text := by
  obtain ⟨before, after, rfl, rfl⟩ := isBoundary_iff.mp h
  rw [byteLength_append]
  exact Nat.le_add_right ..

theorem isBoundary_boundaryBefore (text : List Char) (offset : Nat) :
    isBoundary text (boundaryBefore text offset) = true := by
  induction offset with
  | zero => exact isBoundary_zero text
  | succ offset ih =>
    unfold boundaryBefore
    by_cases h : isBoundary text (offset + 1) = true
    · rwa [if_pos h]
    · rwa [if_neg h]

theorem boundaryBefore_le (text : List Char) (offset : Nat) :
    boundaryBefore text offset ≤ offset := by
  induction offset with
  | zero => exact Nat.le_refl 0
  | succ offset ih =>
    unfold boundaryBefore
    split
    · exact Nat.le_refl _
    · omega

theorem le_boundaryBefore {text : List Char} {boundary offset : Nat}
    (h : isBoundary text boundary = true) (hle : boundary ≤ offset) :
    boundary ≤ boundaryBefore text offset := by
  induction offset with
  | zero => exact hle
  | succ offset ih =>
    unfold boundaryBefore
    by_cases hnext : isBoundary text (offset + 1) = true
    · rwa [if_pos hnext]
    · rw [if_neg hnext]
      -- The offset is none of the boundaries, so the one below is before it.
      have hne : boundary ≠ offset + 1 := fun heq => hnext (heq ▸ h)
      exact ih (by omega)

/-- What an offset is clamped to is the greatest boundary that is not behind it. -/
theorem clamp_isGreatest (text : List Char) (offset : Nat) :
    IsGreatest {boundary | isBoundary text boundary = true ∧ boundary ≤ offset}
      (clamp text offset) := by
  refine ⟨⟨isBoundary_boundaryBefore _ _, ?_⟩, fun boundary ⟨h, hle⟩ => ?_⟩
  · exact Nat.le_trans (boundaryBefore_le _ _) (Nat.min_le_left ..)
  · exact le_boundaryBefore h (Nat.le_min.mpr ⟨hle, le_byteLength_of_isBoundary h⟩)

/-- A boundary is clamped to itself. -/
theorem clamp_of_isBoundary {text : List Char} {offset : Nat}
    (h : isBoundary text offset = true) : clamp text offset = offset :=
  (clamp_isGreatest text offset).unique ⟨⟨h, Nat.le_refl _⟩, fun _ hle => hle.2⟩

/-- The text can be cut at the ends of a part. -/
theorem slice?_append (before inside after : List Char) :
    slice? (before ++ inside ++ after) (byteLength before) (byteLength (before ++ inside)) =
      some inside := by
  have hstart : isBoundary (before ++ inside ++ after) (byteLength before) = true := by
    rw [List.append_assoc]
    exact isBoundary_append before (inside ++ after)
  have hstop := isBoundary_append (before ++ inside) after
  have hle : byteLength before ≤ byteLength (before ++ inside) := by
    rw [byteLength_append]
    exact Nat.le_add_right ..
  rw [slice?, hstart, hstop, decide_eq_true hle, byteLength_append, slice_append]
  rfl

end Text
end GrammarText
