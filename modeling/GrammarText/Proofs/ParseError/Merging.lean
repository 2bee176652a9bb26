/-
Merging of syntax errors.  A merge keeps the place and the token of the first error, and a name that
either has been given, and it lists what either lists, unless one of the two is about a value.
Errors at one place, such as those of alternatives that were tried in turn, come to the same in
whichever order and grouping they are merged.
-/
import GrammarText.Diagnostic
import GrammarText.Proofs.ParseError.Expectations

namespace GrammarText
namespace ParseError

open Expectation

variable {a b c e : ParseError} {name other : Expectation} {place : Span} {token : Option Token}

theorem isSpecific_eq_false : e.isSpecific = false ↔ e.fault = .unexpected := by
  unfold isSpecific
  simp

theorem isSpecific_eq_true : e.isSpecific = true ↔ e.fault ≠ .unexpected := by
  rw [← Bool.not_eq_false, ne_eq, isSpecific_eq_false]

theorem merge_of_specific (ha : a.fault ≠ .unexpected) : a.merge b = a := by
  rw [merge, if_pos (isSpecific_eq_true.mpr ha)]

theorem merge_specific (ha : a.fault = .unexpected) (hb : b.fault ≠ .unexpected) :
    a.merge b = b := by
  rw [merge, isSpecific_eq_false.mpr ha, if_neg Bool.false_ne_true,
    if_pos (isSpecific_eq_true.mpr hb)]

theorem merge_of_unexpected (ha : a.fault = .unexpected) (hb : b.fault = .unexpected) :
    a.merge b = ⟨.unexpected, a.span, union a.expected b.expected, a.found.or b.found,
      a.label.or b.label⟩ := by
  rw [merge, isSpecific_eq_false.mpr ha, isSpecific_eq_false.mpr hb, if_neg Bool.false_ne_true,
    if_neg Bool.false_ne_true, Option.or_eq_orElse, Option.or_eq_orElse, ← ha]
  rfl

theorem withLabel_of_label (h : e.label = some other) : e.withLabel name = e := by
  rw [withLabel, h]
  rfl

theorem withLabel_of_unnamed (h : e.label = none) (hfault : e.fault = .unexpected) :
    e.withLabel name = { e with label := some name, expected := [name] } := by
  rw [withLabel, h, isSpecific_eq_false.mpr hfault]
  rfl

theorem withLabel_of_specific (h : e.fault ≠ .unexpected) : e.withLabel name = e := by
  rw [withLabel, isSpecific_eq_true.mpr h, Bool.not_true, Bool.and_false]
  rfl

theorem withLabel_fault (name : Expectation) (e : ParseError) :
    (e.withLabel name).fault = e.fault := by
  unfold withLabel
  split <;> rfl

theorem withLabel_span (name : Expectation) (e : ParseError) :
    (e.withLabel name).span = e.span := by
  unfold withLabel
  split <;> rfl

theorem withLabel_found (name : Expectation) (e : ParseError) :
    (e.withLabel name).found = e.found := by
  unfold withLabel
  split <;> rfl

theorem inOrder_merge (ha : InOrder a.expected) (hb : InOrder b.expected) :
    InOrder (a.merge b).expected := by
  by_cases hfault : a.fault = .unexpected
  case neg => rwa [merge_of_specific hfault]
  by_cases hfault' : b.fault = .unexpected
  case neg => rwa [merge_specific hfault hfault']
  rw [merge_of_unexpected hfault hfault']
  exact ha.union

theorem inOrder_withLabel (name : Expectation) (h : InOrder e.expected) :
    InOrder (e.withLabel name).expected := by
  unfold withLabel
  split
  · exact inOrder_singleton name
  · exact h

theorem merge_assoc (ha : InOrder a.expected) (hb : InOrder b.expected) (c : ParseError) :
    (a.merge b).merge c = a.merge (b.merge c) := by
  by_cases hfa : a.fault = .unexpected
  case neg => rw [merge_of_specific hfa, merge_of_specific hfa, merge_of_specific hfa]
  by_cases hfb : b.fault = .unexpected
  case neg => rw [merge_specific hfa hfb, merge_of_specific hfb, merge_specific hfa hfb]
  by_cases hfc : c.fault = .unexpected
  case neg =>
    rw [merge_of_unexpected hfa hfb, merge_specific rfl hfc, merge_specific hfb hfc,
      merge_specific hfa hfc]
  rw [merge_of_unexpected hfa hfb, merge_of_unexpected hfb hfc, merge_of_unexpected rfl hfc,
    merge_of_unexpected hfa rfl]
  simp only [union_assoc ha hb, Option.or_assoc]

theorem merge_self (h : InOrder e.expected) : e.merge e = e := by
  by_cases hfault : e.fault = .unexpected
  case neg => exact merge_of_specific hfault
  rw [merge_of_unexpected hfault hfault, union_of_subset h fun _ => id, Option.or_self,
    Option.or_self, ← hfault]

/-- Two errors that say the same of the same place, whatever names they have been given. -/
structure Alike (a b : ParseError) : Prop where
  fault : a.fault = b.fault
  span : a.span = b.span
  found : a.found = b.found
  texts : a.expected.map text = b.expected.map text

theorem Alike.withLabel (h : a.Alike b) (hnamed : a.label.isSome = b.label.isSome)
    (name : Expectation) : (a.withLabel name).Alike (b.withLabel name) := by
  have hspecific : a.isSpecific = b.isSpecific := by rw [isSpecific, isSpecific, h.fault]
  have hunnamed : a.label.isNone = b.label.isNone := by
    rw [← Option.not_isSome, ← Option.not_isSome, hnamed]
  unfold ParseError.withLabel
  rw [hunnamed, hspecific]
  split
  · exact ⟨h.fault, h.span, h.found, rfl⟩
  · exact h

/-- The words of an error depend on the texts of what it lists. -/
theorem Alike.message (h : a.Alike b) : a.message = b.message := by
  obtain ⟨fault, span, expected, found, label⟩ := a
  obtain ⟨fault', span', expected', found', label'⟩ := b
  obtain ⟨rfl, rfl, rfl, htexts⟩ := h
  cases fault with
  | invertedBounds | mixedLiterals => rfl
  | unexpected =>
    have hlength : expected.length = expected'.length := by
      simpa only [List.length_map] using congrArg List.length htexts
    unfold ParseError.message foundText
    dsimp only
    rw [htexts]
    match expected, expected', hlength with
    | [], [], _ | [_], [_], _ | _ :: _ :: _, _ :: _ :: _, _ => rfl

/-- What the reader of a source is told does not show the names. -/
theorem Alike.diagnostic (h : a.Alike b) :
    Diagnostic.ofParseError a = Diagnostic.ofParseError b := by
  unfold Diagnostic.ofParseError foundText
  rw [h.message, h.fault, h.span, h.found, h.texts]

/-- An ordinary error at a place, over the token that was found there. -/
structure ArisesAt (place : Span) (token : Option Token) (e : ParseError) : Prop where
  fault : e.fault = .unexpected
  span : e.span = place
  found : e.found = token
  inOrder : InOrder e.expected

theorem ArisesAt.merge (ha : a.ArisesAt place token) (hb : b.ArisesAt place token) :
    (a.merge b).ArisesAt place token := by
  have hinOrder := inOrder_merge ha.inOrder hb.inOrder
  rw [merge_of_unexpected ha.fault hb.fault] at hinOrder ⊢
  refine ⟨rfl, ha.span, ?_, hinOrder⟩
  show a.found.or b.found = token
  rw [ha.found, hb.found, Option.or_self]

/-- Errors that are merged two at a time in some order. -/
inductive Grouping where
  | single (e : ParseError)
  | merge (g h : Grouping)

namespace Grouping

/-- The errors that come together, from left to right. -/
def errors : Grouping → List ParseError
  | single e => [e]
  | merge g h => g.errors ++ h.errors

/-- The error that comes of all. -/
def merged : Grouping → ParseError
  | single e => e
  | merge g h => g.merged.merge h.merged

variable {g h : Grouping}

theorem exists_error (g : Grouping) : ∃ e, e ∈ g.errors := by
  induction g with
  | single e => exact ⟨e, List.mem_singleton_self e⟩
  | merge g h ihg _ =>
    obtain ⟨e, he⟩ := ihg
    exact ⟨e, List.mem_append_left _ he⟩

theorem arisesAt (hall : ∀ e ∈ g.errors, e.ArisesAt place token) :
    g.merged.ArisesAt place token := by
  induction g with
  | single e => exact hall e (List.mem_singleton_self e)
  | merge g h ihg ihh =>
    exact (ihg fun e he => hall e (List.mem_append_left _ he)).merge
      (ihh fun e he => hall e (List.mem_append_right _ he))

theorem merged_fault (hall : ∀ e ∈ g.errors, e.fault = .unexpected) :
    g.merged.fault = .unexpected := by
  induction g with
  | single e => exact hall e (List.mem_singleton_self e)
  | merge g h ihg ihh =>
    have hfault := ihg fun e he => hall e (List.mem_append_left _ he)
    have hfault' := ihh fun e he => hall e (List.mem_append_right _ he)
    rw [merged, merge_of_unexpected hfault hfault']

/-- What a merge has just where one of its two errors has it, all together have just where one of
them has it. -/
theorem merged_iff {P : ParseError → Prop}
    (hP : ∀ a b : ParseError, a.fault = .unexpected → b.fault = .unexpected →
      (P (a.merge b) ↔ P a ∨ P b))
    (hall : ∀ e ∈ g.errors, e.fault = .unexpected) : P g.merged ↔ ∃ e ∈ g.errors, P e := by
  induction g with
  | single e => simp only [merged, errors, List.mem_singleton, exists_eq_left]
  | merge g h ihg ihh =>
    have hleft : ∀ e ∈ g.errors, e.fault = .unexpected :=
      fun e he => hall e (List.mem_append_left _ he)
    have hright : ∀ e ∈ h.errors, e.fault = .unexpected :=
      fun e he => hall e (List.mem_append_right _ he)
    rw [merged, hP _ _ (merged_fault hleft) (merged_fault hright), ihg hleft, ihh hright]
    simp only [errors, List.mem_append, or_and_right, exists_or]

theorem mem_expected_iff (hall : ∀ e ∈ g.errors, e.fault = .unexpected) {x : Expectation} :
    x ∈ g.merged.expected ↔ ∃ e ∈ g.errors, x ∈ e.expected := by
  refine merged_iff (P := fun e => x ∈ e.expected) (fun a b ha hb => ?_) hall
  rw [merge_of_unexpected ha hb]
  exact mem_union_iff

theorem isNamed_iff (hall : ∀ e ∈ g.errors, e.fault = .unexpected) :
    g.merged.label.isSome = true ↔ ∃ e ∈ g.errors, e.label.isSome = true := by
  refine merged_iff (P := fun e => e.label.isSome = true) (fun a b ha hb => ?_) hall
  rw [merge_of_unexpected ha hb]
  show (a.label.or b.label).isSome = true ↔ _
  rw [Option.isSome_or, Bool.or_eq_true]

/-- Groupings of the same errors come to the same, however often each of them is merged. -/
theorem alike (hall : ∀ e ∈ g.errors, e.ArisesAt place token)
    (hsame : ∀ e, e ∈ h.errors ↔ e ∈ g.errors) : g.merged.Alike h.merged := by
  have hall' : ∀ e ∈ h.errors, e.ArisesAt place token := fun e he => hall e ((hsame e).mp he)
  have hg := arisesAt hall
  have hh := arisesAt hall'
  have hlisted : ∀ x, x ∈ g.merged.expected ↔ x ∈ h.merged.expected := by
    intro x
    rw [mem_expected_iff fun e he => (hall e he).fault,
      mem_expected_iff fun e he => (hall' e he).fault]
    exact exists_congr fun e => and_congr_left' (hsame e).symm
  exact ⟨hg.fault.trans hh.fault.symm, hg.span.trans hh.span.symm, hg.found.trans hh.found.symm,
    congrArg (List.map Expectation.text) (hg.inOrder.eq_of_mem_iff hh.inOrder hlisted)⟩

theorem isNamed_eq (hall : ∀ e ∈ g.errors, e.fault = .unexpected)
    (hsame : ∀ e, e ∈ h.errors ↔ e ∈ g.errors) :
    g.merged.label.isSome = h.merged.label.isSome := by
  rw [Bool.eq_iff_iff, isNamed_iff hall, isNamed_iff fun e he => hall e ((hsame e).mp he)]
  exact exists_congr fun e => and_congr_left' (hsame e).symm

end Grouping

/-- Merging is associative, and an error takes in another copy of itself, given that what they list
is in order, as it is in every error of a parser.  An error about a value hides an ordinary one from
either side.  Ordinary errors at one place over one token come, in every order and grouping, to an
ordinary error there that lists just what they list, and either all of these merges have a name or
none has.  So a name given afterwards does the same whatever the order was. -/
theorem merge_in_any_order :
    (∀ a b c : ParseError, InOrder a.expected → InOrder b.expected →
      (a.merge b).merge c = a.merge (b.merge c)) ∧
    (∀ e : ParseError, InOrder e.expected → e.merge e = e) ∧
    (∀ specific ordinary : ParseError, specific.fault ≠ .unexpected → ordinary.fault = .unexpected →
      specific.merge ordinary = specific ∧ ordinary.merge specific = specific) ∧
    ∀ (g h : Grouping) (place : Span) (token : Option Token),
      (∀ e ∈ g.errors, e.ArisesAt place token) → (∀ e, e ∈ h.errors ↔ e ∈ g.errors) →
        g.merged.ArisesAt place token ∧
        (∀ x, x ∈ g.merged.expected ↔ ∃ e ∈ g.errors, x ∈ e.expected) ∧
        g.merged.Alike h.merged ∧ g.merged.label.isSome = h.merged.label.isSome ∧
        ∀ name, (g.merged.withLabel name).Alike (h.merged.withLabel name) := by
  refine ⟨fun a b c ha hb => merge_assoc ha hb c, fun e => merge_self,
    fun specific ordinary hs ho => ⟨merge_of_specific hs, merge_specific ho hs⟩, ?_⟩
  intro g h place token hall hsame
  have hfault : ∀ e ∈ g.errors, e.fault = .unexpected := fun e he => (hall e he).fault
  have halike := Grouping.alike hall hsame
  have hnamed := Grouping.isNamed_eq hfault hsame
  exact ⟨Grouping.arisesAt hall, fun x => Grouping.mem_expected_iff hfault, halike, hnamed,
    halike.withLabel hnamed⟩

/-- What may follow an expression, with the name of the quantifier in it: the name of an expression
around it changes nothing. -/
theorem merge_in_any_order_named :
    let quantifier := (unexpected ⟨5, 5⟩ [.mark .plus] none).withLabel .quantifier
    let semicolon := unexpected ⟨5, 5⟩ [.mark .semicolon] none
    let bar := unexpected ⟨5, 5⟩ [.mark .bar] none
    let bounds := invertedBounds ⟨0, 6⟩ 5 2
    (semicolon.merge quantifier).merge bar = semicolon.merge (quantifier.merge bar) ∧
    quantifier.merge quantifier = quantifier ∧
    (bounds.merge semicolon = bounds ∧ semicolon.merge bounds = bounds) ∧
    (((semicolon.merge quantifier).merge bar).withLabel .tokenExpression).Alike
      ((bar.merge (quantifier.merge semicolon)).withLabel .tokenExpression) ∧
    (((semicolon.merge quantifier).merge bar).withLabel .tokenExpression).expected =
      [.mark .semicolon, .mark .bar, .quantifier] := by
  intro quantifier semicolon bar bounds
  obtain ⟨hassoc, hself, hspecific, horder⟩ := merge_in_any_order
  have hsemicolon : semicolon.ArisesAt ⟨5, 5⟩ none := ⟨rfl, rfl, rfl, inOrder_singleton _⟩
  have hquantifier : quantifier.ArisesAt ⟨5, 5⟩ none := ⟨rfl, rfl, rfl, inOrder_singleton _⟩
  have hbar : bar.ArisesAt ⟨5, 5⟩ none := ⟨rfl, rfl, rfl, inOrder_singleton _⟩
  let g : Grouping := .merge (.merge (.single semicolon) (.single quantifier)) (.single bar)
  let h : Grouping := .merge (.single bar) (.merge (.single quantifier) (.single semicolon))
  have hall : ∀ e ∈ g.errors, e.ArisesAt ⟨5, 5⟩ none :=
    List.forall_mem_cons.mpr ⟨hsemicolon, List.forall_mem_cons.mpr ⟨hquantifier,
      List.forall_mem_singleton.mpr hbar⟩⟩
  have hsame : ∀ e, e ∈ h.errors ↔ e ∈ g.errors := by
    intro e
    show e ∈ g.errors.reverse ↔ e ∈ g.errors
    exact List.mem_reverse
  obtain ⟨-, -, -, -, hlabel⟩ := horder g h ⟨5, 5⟩ none hall hsame
  exact ⟨hassoc semicolon quantifier bar hsemicolon.inOrder hquantifier.inOrder,
    hself quantifier hquantifier.inOrder, hspecific bounds semicolon nofun rfl,
    hlabel .tokenExpression, by decide⟩

end ParseError
end GrammarText
