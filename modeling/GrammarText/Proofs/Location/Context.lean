/-
The lines around a line.  A block has the lines that are at most so many away, in their order and
with their numbers, and marks the one it is about.  The addition that finds the last of them wraps
around at the size of a machine word, and a block whose window reaches that far leaves its own line
out.
-/
import Mathlib.Data.List.Intervals
import Mathlib.Data.List.Nodup
import GrammarText.Diagnostic
import GrammarText.Proofs.Location.Position

namespace GrammarText
namespace Location

/-! What a block has to show. -/

/-- The lines that are at most so many away from a line. -/
def near (source : String) (line around : Nat) : List Nat :=
  (List.range (lineCount source)).filter fun number =>
    line - around ≤ number && number ≤ line + around

/-- How a line is shown in the block of a line: marked if it is the same, numbered from one, and
without the carriage returns at its end. -/
def row (source : String) (line number : Nat) : List Char :=
  (if number = line then ['>', '>'] else [' ', ' ']) ++ ' ' :: (padded (number + 1)).toList ++
    " | ".toList ++ ((source.toList.splitOn '\n')[number]?.getD []).rdropWhile (· == '\r')

def isMarked (row : List Char) : Bool :=
  ['>', '>'].isPrefixOf row

structure IsBlock (source : String) (line around : Nat) (block : String) : Prop where
  rows : block.toList.splitOn '\n' = (near source line around).map (row source line) ++ [[]]
  marked : (block.toList.splitOn '\n').filter isMarked = [row source line line]

/-! Rows. -/

theorem toList_pushn (c : Char) (n : Nat) : ("".pushn c n).toList = List.replicate n c := by
  rw [String.pushn_eq_repeat_push]
  induction n with
  | zero => rfl
  | succ n ih => rw [Nat.repeat, String.toList_push, ih, List.replicate_succ']

theorem newline_not_mem_padded (n : Nat) : '\n' ∉ (padded n).toList := by
  have hdigits : (toString n).toList = Nat.toDigits 10 n := Nat.toList_repr
  rw [padded, String.toList_append, toList_pushn, hdigits, List.mem_append, not_or]
  refine ⟨fun h => ?_, fun h => ?_⟩
  · cases List.eq_of_mem_replicate h
  · cases Nat.isDigit_of_mem_toDigits (by decide) (by decide) h

theorem newline_not_mem_row (source : String) (line number : Nat) :
    '\n' ∉ row source line number := by
  have hpiece : '\n' ∉
      ((source.toList.splitOn '\n')[number]?.getD []).rdropWhile (· == '\r') := by
    intro h
    have h := (List.rdropWhile_prefix _ _).subset h
    cases hget : (source.toList.splitOn '\n')[number]? with
    | none => simp [hget] at h
    | some piece =>
      obtain ⟨_, _, _, _, _, hcount, _⟩ := exists_piece hget
      rw [hget] at h
      exact List.count_eq_zero.mp hcount h
  have hpadded := newline_not_mem_padded (number + 1)
  unfold row
  split <;> simp [hpadded, hpiece]

theorem isMarked_row (source : String) (line number : Nat) :
    isMarked (row source line number) = (number == line) := by
  unfold row
  by_cases h : number = line
  · rw [if_pos h, beq_iff_eq.mpr h]
    rfl
  · rw [if_neg h, beq_eq_false_iff_ne.mpr h]
    rfl

/-- Texts that are put behind one another, each with a line feed, are had back by splitting. -/
theorem splitOn_flatMap {α : Type} {f : α → List Char} (items : List α)
    (h : ∀ a, '\n' ∉ f a) :
    (items.flatMap fun a => f a ++ ['\n']).splitOn '\n' = items.map f ++ [[]] := by
  induction items with
  | nil => rfl
  | cons a rest ih =>
    rw [List.flatMap_cons, List.append_assoc, List.singleton_append,
      List.splitOn_append_cons_self_of_not_mem (h a), ih]
    rfl

/-- A block has a row for each line of its window. -/
theorem splitOn_context (source : String) (line : Nat) (around : UInt64) :
    (context source line around).toList.splitOn '\n' =
      (List.Ico (line - around.toNat)
        (min (UInt64.ofNat line + around + 1).toNat (lineCount source))).map (row source line) ++
        [[]] := by
  rw [← splitOn_flatMap _ (newline_not_mem_row source line), context, String.toList_join,
    List.flatMap_map]
  refine congrArg _ (List.flatMap_congr fun number hnumber => ?_)
  -- The window ends with the text, so there is a line of each number.
  have hlt : number < (source.toList.splitOn '\n').length := by
    have hmem := (List.Ico.mem.mp hnumber).2
    rw [length_splitOn, ← lineCount_eq]
    exact Nat.lt_of_lt_of_le hmem (Nat.min_le_right ..)
  have hget := List.getElem?_eq_getElem hlt
  rw [line?_eq, hget, Option.map_some]
  unfold numbered row
  rw [hget]
  by_cases h : number = line <;>
    simp [h, withoutReturns, List.rdropWhile]

/-! The window. -/

theorem near_eq (source : String) (line around : Nat) :
    near source line around =
      List.Ico (line - around) (min (line + around + 1) (lineCount source)) := by
  have hupper : (List.range (lineCount source)).filter (· ≤ line + around) =
      List.Ico 0 (min (line + around + 1) (lineCount source)) := by
    rw [← List.Ico.zero_bot, Nat.min_comm, ← List.Ico.filter_lt]
    exact List.filter_congr fun number _ => decide_eq_decide.mpr Nat.lt_succ_iff.symm
  rw [near, ← List.filter_filter, hupper, List.Ico.filter_le, Nat.zero_max]

/-- Marked rows are had from the number that is the same as that of the line. -/
theorem filter_isMarked (source : String) (line : Nat) (numbers : List Nat) :
    (numbers.map (row source line) ++ [[]]).filter isMarked =
      List.replicate (numbers.count line) (row source line line) := by
  have hnil : List.filter isMarked [[]] = [] := rfl
  rw [List.filter_append, hnil, List.append_nil, List.filter_map]
  have hmarked : isMarked ∘ row source line = (· == line) := funext (isMarked_row source line)
  rw [hmarked, List.filter_beq, List.map_replicate]

theorem toNat_last {line : Nat} (h : line < 2 ^ 64) (around : UInt64) :
    (UInt64.ofNat line + around + 1).toNat = (line + around.toNat + 1) % 2 ^ 64 := by
  rw [UInt64.toNat_add, UInt64.toNat_add, UInt64.toNat_ofNat_of_lt' h, Nat.mod_add_mod]
  rfl

/-- As long as its window can be counted, the block of a line is as it has to be. -/
theorem context_isBlock {source : String} {line : Nat} {around : UInt64}
    (hline : line < lineCount source) (hfits : line + around.toNat + 1 < 2 ^ 64) :
    IsBlock source line around.toNat (context source line around) := by
  have hrows : (context source line around).toList.splitOn '\n' =
      (near source line around.toNat).map (row source line) ++ [[]] := by
    rw [splitOn_context, toNat_last (by omega), Nat.mod_eq_of_lt hfits, near_eq]
  refine ⟨hrows, ?_⟩
  have hmem : line ∈ near source line around.toNat := by
    rw [near_eq, List.Ico.mem]
    omega
  have honce : (near source line around.toNat).Nodup := List.nodup_range.filter _
  rw [hrows, filter_isMarked, List.count_eq_one_of_mem honce hmem]
  rfl

/-- Where the window cannot be counted it ends before the line, so that no row is marked. -/
theorem context_wraps {source : String} {line : Nat} {around : UInt64}
    (hline : line < lineCount source) (hword : line < 2 ^ 64)
    (hlarge : 2 ^ 64 ≤ line + around.toNat + 1) :
    (context source line around).toList.splitOn '\n' =
        (List.Ico (line - around.toNat) (line + around.toNat + 1 - 2 ^ 64)).map
          (row source line) ++ [[]] ∧
      ((context source line around).toList.splitOn '\n').filter isMarked = [] := by
  have haround : around.toNat < 2 ^ 64 := around.toNat_lt
  have hmod : (line + around.toNat + 1) % 2 ^ 64 = line + around.toNat + 1 - 2 ^ 64 := by
    rw [Nat.mod_eq_sub_mod hlarge, Nat.mod_eq_of_lt (by omega)]
  have hrows := splitOn_context source line around
  rw [toNat_last hword, hmod, Nat.min_eq_left (by omega)] at hrows
  refine ⟨hrows, ?_⟩
  have hnone : line ∉ List.Ico (line - around.toNat) (line + around.toNat + 1 - 2 ^ 64) := by
    rw [List.Ico.mem]
    omega
  rw [hrows, filter_isMarked, List.count_eq_zero.mpr hnone]
  rfl

end Location

open Location

/-- The line over a block, which names the position. -/
def Report.header (source : String) (d : Diagnostic) : String :=
  "error[" ++ d.kind.text ++ "] " ++ (position source d.span.start).text ++ ": " ++ d.message ++
    "\n"

theorem Report.render_eq (source : String) (around : UInt64) (items : List Diagnostic)
    (hfits : ∀ d ∈ items, (position source d.span.start).line + around.toNat + 1 < 2 ^ 64) :
    ∃ blocks : List String,
      List.Forall₂ (fun d block => IsBlock source (position source d.span.start).line
        around.toNat block) items blocks ∧
      (Report.mk items).render source around =
        String.join
          (List.zipWith (fun d block => header source d ++ block ++ "\n") items blocks) := by
  induction items with
  | nil => exact ⟨[], .nil, rfl⟩
  | cons d rest ih =>
    obtain ⟨hd, hrest⟩ := List.forall_mem_cons.mp hfits
    obtain ⟨blocks, hblocks, htext⟩ := ih hrest
    have hblock := context_isBlock (position_line_lt source d.span.start) hd
    refine ⟨_ :: blocks, .cons hblock hblocks, ?_⟩
    rw [List.zipWith_cons_cons, String.join_cons, ← htext]
    exact String.join_cons

/-- A block about a line consists of the lines that are at most so many away, in their order and
numbered from one, and marks that line alone, as long as its window can be counted in a machine
word.  Where it cannot, the block ends before the line and marks none.  A report has for every
diagnostic a header and the block about the line of the header. -/
theorem Location.context_spec (source : String) (around : UInt64) :
    (∀ line < lineCount source, line < 2 ^ 64 →
      if line + around.toNat + 1 < 2 ^ 64 then
        IsBlock source line around.toNat (context source line around)
      else
        (context source line around).toList.splitOn '\n' =
            (List.Ico (line - around.toNat) (line + around.toNat + 1 - 2 ^ 64)).map
              (row source line) ++ [[]] ∧
          ((context source line around).toList.splitOn '\n').filter isMarked = []) ∧
    ∀ r : Report,
      (∀ d ∈ r.items, (position source d.span.start).line + around.toNat + 1 < 2 ^ 64) →
      ∃ blocks : List String,
        List.Forall₂ (fun d block => IsBlock source (position source d.span.start).line
          around.toNat block) r.items blocks ∧
        r.render source around = String.join
          (List.zipWith (fun d block => Report.header source d ++ block ++ "\n") r.items
            blocks) := by
  refine ⟨fun line hline hword => ?_, fun r hfits => Report.render_eq source around r.items hfits⟩
  split
  · exact context_isBlock hline ‹_›
  · exact context_wraps hline hword (by omega)

/-- A report of one syntax error, with the line of the error and the one above it. -/
theorem Location.context_spec_second_line :
    let source := "A : 'x' ;\nB : ;"
    let d : Diagnostic := ⟨.syntactic, ⟨14, 15⟩, "unexpected ';'", [], none⟩
    (position source d.span.start).line = 1 ∧
      IsBlock source 1 1 (context source 1 1) ∧
      ∃ block, IsBlock source 1 1 block ∧
        (Report.mk [d]).render source 1 = Report.header source d ++ block ++ "\n" := by
  intro source d
  have hline : (position source d.span.start).line = 1 := by decide +kernel
  obtain ⟨hblock, hreport⟩ := Location.context_spec source 1
  have hone := hblock 1 (by decide +kernel) (by decide)
  rw [if_pos (by decide)] at hone
  obtain ⟨blocks, hblocks, hrender⟩ := hreport (Report.mk [d]) fun d' hd' => by
    obtain rfl := List.mem_singleton.mp hd'
    rw [hline]
    decide
  obtain ⟨block, rfl⟩ := List.length_eq_one_iff.mp hblocks.length_eq.symm
  obtain ⟨hd, -⟩ := List.forall₂_cons.mp hblocks
  rw [hline] at hd
  refine ⟨hline, hone, block, hd, ?_⟩
  simpa using hrender
/-- The block about the only line of a text, with as many lines around it as a machine word can
count, is empty. -/
theorem Location.context_without_its_line :
    0 < lineCount "a" ∧ context "a" 0 18446744073709551615 = "" ∧
      ¬ IsBlock "a" 0 (18446744073709551615 : UInt64).toNat
        (context "a" 0 18446744073709551615) := by
  have hempty : context "a" 0 18446744073709551615 = "" := by decide +kernel
  refine ⟨by decide +kernel, hempty, fun h => ?_⟩
  have hmarked := h.marked
  rw [hempty] at hmarked
  exact absurd hmarked (by simp [isMarked])

end GrammarText
