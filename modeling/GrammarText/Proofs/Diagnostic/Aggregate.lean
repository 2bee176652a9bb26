/-
The diagnostics of a report as an aggregate.  They are sorted by offset, and of neighbours with one
offset the first stays.  That this is the one recorded first rests on two facts: the sorting is
stable, so it changes nothing about the list of those that start at an offset, and behind it equal
offsets are neighbours.  A report is then told by what it has at each offset, and so the laws of
rebuilding and of building from parts are laws about the first diagnostic of a list.
-/
import GrammarText.Proofs.Recovery.Report
import Mathlib.Data.List.Sort

namespace GrammarText

namespace Diagnostic

def startsAt (offset : Nat) (d : Diagnostic) : Bool :=
  d.span.start == offset

theorem startsAt_iff {offset : Nat} {d : Diagnostic} :
    startsAt offset d = true ↔ d.span.start = offset :=
  beq_iff_eq

theorem startsBefore_trans (a b c : Diagnostic) (hab : startsBefore a b = true)
    (hbc : startsBefore b c = true) : startsBefore a c = true := by
  simp only [startsBefore, decide_eq_true_eq] at hab hbc ⊢
  omega

theorem startsBefore_total (a b : Diagnostic) : (startsBefore a b || startsBefore b a) = true := by
  simp only [startsBefore, Bool.or_eq_true, decide_eq_true_eq]
  omega

/-! Sorting. -/

theorem pairwise_mergeSort (items : List Diagnostic) :
    (items.mergeSort startsBefore).Pairwise fun a b => a.span.start ≤ b.span.start :=
  (List.pairwise_mergeSort startsBefore_trans startsBefore_total items).imp
    fun h => of_decide_eq_true h

/-- Those that start at an offset keep their order. -/
theorem filter_mergeSort (offset : Nat) (items : List Diagnostic) :
    (items.mergeSort startsBefore).filter (startsAt offset) = items.filter (startsAt offset) := by
  have hsorted : (items.filter (startsAt offset)).Pairwise
      fun a b => startsBefore a b = true := by
    refine List.pairwise_of_forall_mem_list fun a ha b hb => ?_
    have ha := startsAt_iff.mp (List.mem_filter.mp ha).2
    have hb := startsAt_iff.mp (List.mem_filter.mp hb).2
    exact decide_eq_true (by omega)
  have hsublist := (List.sublist_mergeSort startsBefore_trans startsBefore_total hsorted
    List.filter_sublist).filter (startsAt offset)
  simp only [List.filter_filter, Bool.and_self] at hsublist
  exact (hsublist.eq_of_length
    ((List.mergeSort_perm items startsBefore).filter _).length_eq.symm).symm

theorem find?_mergeSort (offset : Nat) (items : List Diagnostic) :
    (items.mergeSort startsBefore).find? (startsAt offset) = items.find? (startsAt offset) := by
  rw [← List.head?_filter, filter_mergeSort, List.head?_filter]

/-! Dropping neighbours. -/

theorem firstOfEach_sublist (items : List Diagnostic) : (firstOfEach items).Sublist items := by
  induction items with
  | nil => exact .slnil
  | cons d rest ih =>
    rw [firstOfEach]
    cases hrest : firstOfEach rest with
    | nil => exact .cons_cons d (List.nil_sublist rest)
    | cons next later =>
      rw [hrest] at ih
      simp only
      split
      · exact .cons_cons d ((List.sublist_cons_self next later).trans ih)
      · exact .cons_cons d ih

/-- Of sorted diagnostics no two with one offset are left. -/
theorem firstOfEach_increasing {items : List Diagnostic}
    (sorted : items.Pairwise fun a b => a.span.start ≤ b.span.start) :
    (firstOfEach items).Pairwise fun a b => a.span.start < b.span.start := by
  induction items with
  | nil => exact .nil
  | cons d rest ih =>
    obtain ⟨hd, hrest⟩ := List.pairwise_cons.mp sorted
    have hlater := ih hrest
    have hsublist := firstOfEach_sublist rest
    rw [firstOfEach]
    cases hkept : firstOfEach rest with
    | nil => exact List.pairwise_singleton _ d
    | cons next later =>
      rw [hkept] at hlater hsublist
      obtain ⟨hnext, hbehind⟩ := List.pairwise_cons.mp hlater
      have hle := hd next (hsublist.subset (List.mem_cons_self ..))
      simp only
      split
      case isTrue heq =>
        rw [beq_iff_eq] at heq
        exact List.pairwise_cons.mpr ⟨fun e he => heq ▸ hnext e he, hbehind⟩
      case isFalse hne =>
        rw [beq_iff_eq] at hne
        refine List.pairwise_cons.mpr ⟨fun e he => ?_, hlater⟩
        rcases List.mem_cons.mp he with rfl | he
        · omega
        · have := hnext e he
          omega

/-- What is dropped starts where one before it does. -/
theorem find?_firstOfEach (offset : Nat) (items : List Diagnostic) :
    (firstOfEach items).find? (startsAt offset) = items.find? (startsAt offset) := by
  induction items with
  | nil => rfl
  | cons d rest ih =>
    rw [firstOfEach, List.find?_cons, ← ih]
    cases hkept : firstOfEach rest with
    | nil => rw [List.find?_cons]
    | cons next later =>
      simp only
      split
      case isTrue heq =>
        have hsame : startsAt offset d = startsAt offset next := by
          unfold startsAt
          rw [beq_iff_eq.mp heq]
        rw [List.find?_cons, List.find?_cons, hsame]
        cases startsAt offset next <;> rfl
      case isFalse => rw [List.find?_cons]

/-- The list holds, in the order of their offsets, the first diagnostic of every offset. -/
structure IsAggregate (items kept : List Diagnostic) : Prop where
  increasing : kept.Pairwise fun a b => a.span.start < b.span.start
  find? : ∀ offset, kept.find? (startsAt offset) = items.find? (startsAt offset)

namespace IsAggregate

variable {items kept kept' : List Diagnostic}

theorem mem_iff (h : IsAggregate items kept) {d : Diagnostic} :
    d ∈ kept ↔ items.find? (startsAt d.span.start) = some d := by
  rw [← h.find?]
  constructor
  · intro hd
    obtain ⟨before, behind, rfl⟩ := List.append_of_mem hd
    refine List.find?_eq_some_iff_append.mpr
      ⟨startsAt_iff.mpr rfl, before, behind, rfl, fun e he => ?_⟩
    have hlt := (List.pairwise_append.mp h.increasing).2.2 e he d (List.mem_cons_self ..)
    rw [Bool.not_eq_true', Bool.eq_false_iff, ne_eq, startsAt_iff]
    omega
  · exact List.mem_of_find?_eq_some

theorem eq_of_start (h : IsAggregate items kept) {d e : Diagnostic} (hd : d ∈ kept) (he : e ∈ kept)
    (hstart : d.span.start = e.span.start) : d = e := by
  have hfound := h.mem_iff.mp hd
  rw [hstart, h.mem_iff.mp he] at hfound
  exact (Option.some_inj.mp hfound).symm

/-- There is only one. -/
theorem unique (h : IsAggregate items kept) (h' : IsAggregate items kept') : kept = kept' := by
  have hirrefl : Std.Irrefl fun a b : Diagnostic => a.span.start < b.span.start :=
    ⟨fun _ => Nat.lt_irrefl _⟩
  have hantisymm : Std.Antisymm fun a b : Diagnostic => a.span.start < b.span.start :=
    ⟨fun _ _ hab hba => absurd hab (Nat.lt_asymm hba)⟩
  exact h.increasing.eq_of_mem_iff h'.increasing fun d => h.mem_iff.trans h'.mem_iff.symm

theorem mem_starts_iff (h : IsAggregate items kept) (offset : Nat) :
    offset ∈ kept.map (·.span.start) ↔ offset ∈ items.map (·.span.start) := by
  have hfound : ∀ list : List Diagnostic,
      offset ∈ list.map (·.span.start) ↔ (list.find? (startsAt offset)).isSome = true := by
    intro list
    rw [List.find?_isSome, List.mem_map]
    exact exists_congr fun d => and_congr_right fun _ => startsAt_iff.symm
  rw [hfound, hfound, h.find?]

end IsAggregate
end Diagnostic

open Diagnostic

namespace Report

theorem ofList_isAggregate (items : List Diagnostic) :
    IsAggregate items (ofList items).items where
  increasing := firstOfEach_increasing (pairwise_mergeSort items)
  find? offset := (find?_firstOfEach offset _).trans (find?_mergeSort offset items)

/-- A report depends on nothing but the first diagnostic of every offset. -/
theorem ofList_eq_iff {a b : List Diagnostic} :
    ofList a = ofList b ↔ ∀ offset, a.find? (startsAt offset) = b.find? (startsAt offset) := by
  constructor
  · intro h offset
    rw [← (ofList_isAggregate a).find?, ← (ofList_isAggregate b).find?, h]
  · intro h
    have hb : IsAggregate a (ofList b).items :=
      ⟨(ofList_isAggregate b).increasing,
        fun offset => ((ofList_isAggregate b).find? offset).trans (h offset).symm⟩
    exact congrArg Report.mk ((ofList_isAggregate a).unique hb)

theorem ofList_rebuilt (items : List Diagnostic) : ofList (ofList items).items = ofList items :=
  ofList_eq_iff.mpr (ofList_isAggregate items).find?

theorem ofList_append (a b : List Diagnostic) :
    ofList (a ++ b) = ofList ((ofList a).items ++ (ofList b).items) := by
  refine ofList_eq_iff.mpr fun offset => ?_
  rw [List.find?_append, List.find?_append, (ofList_isAggregate a).find?,
    (ofList_isAggregate b).find?]

/-- A diagnostic counts for nothing behind another one that starts where it does. -/
theorem ofList_shadowed {before between behind : List Diagnostic} {first later : Diagnostic}
    (hstart : first.span.start = later.span.start) :
    ofList (before ++ first :: between ++ later :: behind) =
      ofList (before ++ first :: between ++ behind) := by
  refine ofList_eq_iff.mpr fun offset => ?_
  simp only [List.find?_append, List.find?_cons, Option.or_assoc]
  by_cases h : startsAt offset later = true
  · have hfirst : startsAt offset first = true :=
      startsAt_iff.mpr (hstart.trans (startsAt_iff.mp h))
    simp only [hfirst, Option.some_or]
  · rw [Bool.not_eq_true] at h
    simp only [h]

/-- Where lexical diagnostics are recorded before all others, an offset of one of them has a lexical
entry. -/
theorem kind_of_mem_ofList {lexical others : List Diagnostic} {d : Diagnostic}
    (hlexical : ∀ e ∈ lexical, e.kind = .lexical) (hd : d ∈ (ofList (lexical ++ others)).items)
    (hstart : d.span.start ∈ lexical.map (·.span.start)) : d.kind = .lexical := by
  have hfound := (ofList_isAggregate _).mem_iff.mp hd
  obtain ⟨e, he, hsame⟩ := List.mem_map.mp hstart
  obtain ⟨f, hf⟩ := Option.isSome_iff_exists.mp
    (List.find?_isSome.mpr ⟨e, he, startsAt_iff.mpr hsame⟩)
  rw [List.find?_append, hf, Option.some_or, Option.some_inj] at hfound
  exact hfound ▸ hlexical f (List.mem_of_find?_eq_some hf)

end Report

/-- The report on a source has every lexical error, and nothing else where one starts. -/
theorem ParsedSource.report_at_error {source : String} {e : LexError}
    (he : e ∈ (tokenize source).errors) {d : Diagnostic} :
    d ∈ (parseSource source).report.items ∧ d.span.start = e.span.start ↔ d = .ofLexError e := by
  have hmem : Diagnostic.ofLexError e ∈ (parseSource source).report.items := by
    have hlexical := List.mem_map_of_mem (f := Diagnostic.ofLexError) he
    rw [← lexical_items] at hlexical
    exact (List.mem_filter.mp hlexical).1
  have haggregate : ∃ reported, IsAggregate reported (parseSource source).report.items :=
    ⟨_, Report.ofList_isAggregate _⟩
  obtain ⟨reported, haggregate⟩ := haggregate
  constructor
  · exact fun ⟨hd, hstart⟩ => haggregate.eq_of_start hd hmem hstart
  · rintro rfl
    exact ⟨hmem, rfl⟩

/-- A report has, in the order of offsets, the offsets at which diagnostics start, and at each the
one that was recorded first.  So it is not changed by being built anew, a report on two lists can be put
together from the reports on each, and a diagnostic behind another one of its offset counts for
nothing.  Lexical errors, which are recorded first, stand in the report on a source wherever they
start. -/
theorem Report.ofList_keeps_first :
    (∀ items : List Diagnostic,
      (ofList items).items.Pairwise (fun a b => a.span.start < b.span.start) ∧
      (∀ offset, offset ∈ (ofList items).items.map (·.span.start) ↔
        offset ∈ items.map (·.span.start)) ∧
      ∀ d, d ∈ (ofList items).items ↔ ∃ before behind, items = before ++ d :: behind ∧
        ∀ other ∈ before, other.span.start ≠ d.span.start) ∧
    (∀ items : List Diagnostic, ofList (ofList items).items = ofList items) ∧
    (∀ a b : List Diagnostic, ofList (a ++ b) = ofList ((ofList a).items ++ (ofList b).items)) ∧
    (∀ (before between behind : List Diagnostic) (first later : Diagnostic),
      first.span.start = later.span.start →
        ofList (before ++ first :: between ++ later :: behind) =
          ofList (before ++ first :: between ++ behind)) ∧
    (∀ lexical others : List Diagnostic, (∀ e ∈ lexical, e.kind = .lexical) →
      ∀ d ∈ (ofList (lexical ++ others)).items, d.span.start ∈ lexical.map (·.span.start) →
        d.kind = .lexical) ∧
    ∀ source, ∀ e ∈ (tokenize source).errors, ∀ d,
      d ∈ (parseSource source).report.items ∧ d.span.start = e.span.start ↔ d = .ofLexError e := by
  refine ⟨fun items => ?_, ofList_rebuilt, ofList_append, ?_, ?_, ?_⟩
  · have haggregate := ofList_isAggregate items
    refine ⟨haggregate.increasing, haggregate.mem_starts_iff, fun d => ?_⟩
    rw [haggregate.mem_iff, List.find?_eq_some_iff_append, and_iff_right (startsAt_iff.mpr rfl)]
    refine exists_congr fun before => exists_congr fun behind => and_congr_right fun _ =>
      forall_congr' fun other => forall_congr' fun _ => ?_
    rw [Bool.not_eq_true', Bool.eq_false_iff, ne_eq, startsAt_iff]
  · exact fun before between behind first later => ofList_shadowed
  · exact fun lexical others hlexical d => kind_of_mem_ofList hlexical
  · exact fun source e he d => ParsedSource.report_at_error he

/-- Of a lexical and a syntactic diagnostic at one offset the first is kept, wherever they are in
the list. -/
theorem Report.ofList_keeps_first_lexical :
    let lexical : Diagnostic := ⟨.lexical, ⟨4, 5⟩, "unexpected character", [], none⟩
    let shadowed : Diagnostic := ⟨.syntactic, ⟨4, 5⟩, "shadowed", [], none⟩
    let early : Diagnostic := ⟨.syntactic, ⟨0, 1⟩, "early", [], none⟩
    let late : Diagnostic := ⟨.syntactic, ⟨9, 10⟩, "late", [], none⟩
    ofList [lexical, late, shadowed, early] = ⟨[early, lexical, late]⟩ := by
  intro lexical shadowed early late
  have hshadowed : ofList [lexical, late, shadowed, early] = ofList [lexical, late, early] :=
    ofList_keeps_first.2.2.2.1 [] [late] [early] lexical shadowed rfl
  have hapart : [lexical, late, early].Pairwise fun a b => a.span.start ≠ b.span.start := by decide
  have hincreasing : [early, lexical, late].Pairwise fun a b => a.span.start < b.span.start := by
    decide
  have hperm : [lexical, late, early].Perm [early, lexical, late] := by decide
  obtain ⟨hkept, hsorted⟩ := Report.ofList_of_pairwise hapart
  rw [hshadowed]
  exact congrArg Report.mk ((hkept.trans hperm).eq_of_pairwise
    (fun _ _ _ _ hlt hgt => absurd hgt (Nat.lt_asymm hlt)) hsorted hincreasing)

end GrammarText
