/-
When a table has no errors.  Which errors there are depends on the order of the declarations: the
first of two rules of one name holds it, and behind a main rule another one claims no name at all.
Whether there are any does not.  `Resolvable` says so of a list of declarations without looking at
its order.
-/
import GrammarText.Proofs.Table.Resolution
import Mathlib.Data.List.Induction

namespace GrammarText

namespace Declaration

def tokenName? : Declaration → Option String
  | token name _ => some name
  | _ => none

/-- The name of a rule or of a main rule that has one. -/
def ruleName? : Declaration → Option String
  | rule name _ => some name
  | main name _ => name
  | _ => none

/-- The leaf stands somewhere in the rule. -/
def HasRuleLeaf (leaf : RuleLeaf) : Declaration → Prop
  | token _ _ => False
  | rule _ body | main _ body | skip _ body => .leaf leaf ∈ body.preorder

/-- The leaf stands somewhere in the token pattern, or in one that stands in the rule. -/
def HasPatternLeaf (leaf : PatternLeaf) : Declaration → Prop
  | token _ pattern => .leaf leaf ∈ pattern.preorder
  | d => ∃ pattern, d.HasRuleLeaf (.token pattern) ∧ .leaf leaf ∈ pattern.preorder

end Declaration

open Declaration ResolveError

/-- There are neither two main rules nor two rules for skipping, and no two tokens or rules of one
name. -/
structure Distinct (declarations : List Declaration) : Prop where
  main : declarations.countP isMain ≤ 1
  skip : declarations.countP isSkip ≤ 1
  tokens : (declarations.filterMap tokenName?).Nodup
  rules : (declarations.filterMap ruleName?).Nodup

/-- What makes a grammar of declarations, in whatever order they are, for a regex engine with such a
check. -/
structure Resolvable (check : RegexCheck) (declarations : List Declaration) : Prop
    extends Distinct declarations where
  hasMain : ∃ d ∈ declarations, d.isMain = true
  tokenRefs : ∀ d ∈ declarations, ∀ name, d.HasPatternLeaf (.ref name) →
    name ∈ declarations.filterMap tokenName?
  ruleRefs : ∀ d ∈ declarations, ∀ name, d.HasRuleLeaf (.ref name) →
    name ∈ declarations.filterMap ruleName?
  regexes : ∀ d ∈ declarations, ∀ body, d.HasPatternLeaf (.regex body) →
    check body = none

theorem Resolvable.perm {check : RegexCheck} {a b : List Declaration} (hperm : a.Perm b)
    (h : Resolvable check a) : Resolvable check b where
  main := by rw [← hperm.countP_eq]; exact h.main
  skip := by rw [← hperm.countP_eq]; exact h.skip
  tokens := (hperm.filterMap _).nodup_iff.mp h.tokens
  rules := (hperm.filterMap _).nodup_iff.mp h.rules
  hasMain := by
    obtain ⟨d, hd, hmain⟩ := h.hasMain
    exact ⟨d, hperm.mem_iff.mp hd, hmain⟩
  tokenRefs d hd name hleaf :=
    (hperm.filterMap _).mem_iff.mp (h.tokenRefs d (hperm.mem_iff.mpr hd) name hleaf)
  ruleRefs d hd name hleaf :=
    (hperm.filterMap _).mem_iff.mp (h.ruleRefs d (hperm.mem_iff.mpr hd) name hleaf)
  regexes d hd := h.regexes d (hperm.mem_iff.mpr hd)

namespace Recomputed

/-! Names. -/

theorem any_isTokenOf {declarations : List Declaration} {name : String} :
    declarations.any (isTokenOf name) = true ↔ name ∈ declarations.filterMap tokenName? := by
  rw [List.any_eq_true, List.mem_filterMap]
  refine exists_congr fun d => and_congr_right fun _ => ?_
  cases d <;> simp [isTokenOf, tokenName?]

/-- Without a second main rule every name is claimed. -/
theorem claims_names {mainSeen : Bool} {declarations : List Declaration}
    (h : declarations.countP isMain + mainSeen.toNat ≤ 1) :
    (claims mainSeen declarations).map Prod.fst = declarations.filterMap ruleName? := by
  induction declarations generalizing mainSeen with
  | nil => rfl
  | cons d rest ih =>
    rw [List.countP_cons] at h
    have hrest := @ih (mainSeen || d.isMain) (by
      cases mainSeen <;> cases hd : d.isMain <;> simp [hd] at h ⊢ <;> omega)
    rw [claims, List.map_append, hrest, List.filterMap_cons]
    cases d with
    | main name body =>
      cases mainSeen with
      | true => simp [isMain] at h
      | false => cases name <;> rfl
    | _ => rfl

theorem holder?_isSome {declarations : List Declaration} (h : declarations.countP isMain ≤ 1)
    {name : String} :
    (holder? declarations name).isSome = true ↔ name ∈ declarations.filterMap ruleName? := by
  rw [holder?, ← @claims_names false declarations h, List.lookup_isSome_iff, List.mem_map]
  exact exists_congr fun claim => and_congr_right fun _ => beq_iff_eq.trans eq_comm

/-! Conflicts. -/

theorem distinct_nil : Distinct [] :=
  ⟨Nat.zero_le 1, Nat.zero_le 1, .nil, .nil⟩

theorem any_eq_false_iff {declarations : List Declaration} {p : Declaration → Bool} :
    ¬ declarations.any p = true ↔ declarations.countP p = 0 := by
  rw [List.any_eq_true, List.countP_eq_zero]
  simp

/-- A declaration conflicts with none before it if it is no second main rule or rule for skipping
and no name of it has been claimed. -/
theorem conflict?_eq_none {declarations : List Declaration}
    (h : declarations.countP isMain ≤ 1) (d : Declaration) :
    conflict? declarations d = none ↔
      (d.isMain = true → declarations.countP isMain = 0) ∧
      (d.isSkip = true → declarations.countP isSkip = 0) ∧
      (∀ name, d.tokenName? = some name → name ∉ declarations.filterMap tokenName?) ∧
      ∀ name, d.ruleName? = some name → name ∉ declarations.filterMap ruleName? := by
  have hfree : ∀ name, (holder? declarations name) = none ↔
      name ∉ declarations.filterMap ruleName? := by
    intro name
    rw [← holder?_isSome h, Option.not_isSome_iff_eq_none]
  cases d with
  | token name pattern =>
    rw [conflict?, ite_eq_right_iff, any_isTokenOf]
    simp [isMain, isSkip, tokenName?, ruleName?]
  | rule name body =>
    rw [conflict?, Option.map_eq_none_iff, hfree]
    simp [isMain, isSkip, tokenName?, ruleName?]
  | main name body =>
    rw [conflict?]
    by_cases hseen : declarations.any isMain = true
    · rw [if_pos hseen]
      have hcount : declarations.countP isMain ≠ 0 := fun h => any_eq_false_iff.mpr h hseen
      simp [isMain, hcount]
    · rw [if_neg hseen, Option.bind_eq_none_iff]
      have hcount : declarations.countP isMain = 0 := any_eq_false_iff.mp hseen
      simp [Option.map_eq_none_iff, hfree, isSkip, tokenName?, ruleName?, hcount]
  | skip strategy body =>
    rw [conflict?, ite_eq_right_iff]
    simp [isMain, isSkip, tokenName?, ruleName?]

/-- One declaration more is distinct from the others if it conflicts with none of them. -/
theorem distinct_concat {declarations : List Declaration} (d : Declaration) :
    Distinct (declarations ++ [d]) ↔
      Distinct declarations ∧ conflict? declarations d = none := by
  have hcount : ∀ p : Declaration → Bool, (declarations ++ [d]).countP p ≤ 1 ↔
      declarations.countP p ≤ 1 ∧ (p d = true → declarations.countP p = 0) := by
    intro p
    rw [List.countP_append, List.countP_singleton]
    by_cases hp : p d = true
    · rw [if_pos hp]
      exact ⟨fun h => ⟨by omega, fun _ => by omega⟩, fun h => by have := h.2 hp; omega⟩
    · rw [if_neg hp]
      exact ⟨fun h => ⟨h, fun h' => absurd h' hp⟩, fun h => h.1⟩
  have hnames : ∀ f : Declaration → Option String,
      ((declarations ++ [d]).filterMap f).Nodup ↔ (declarations.filterMap f).Nodup ∧
        ∀ name, f d = some name → name ∉ declarations.filterMap f := by
    intro f
    rw [List.filterMap_append]
    cases hf : f d with
    | none => simp [hf]
    | some name =>
      rw [List.filterMap_cons_some hf, List.filterMap_nil,
        (List.perm_append_singleton name _).nodup_iff, List.nodup_cons, and_comm]
      simp
  constructor
  · intro ⟨hmain, hskip, htokens, hrules⟩
    obtain ⟨hmain, hmain'⟩ := (hcount isMain).mp hmain
    obtain ⟨hskip, hskip'⟩ := (hcount isSkip).mp hskip
    obtain ⟨htokens, htokens'⟩ := (hnames tokenName?).mp htokens
    obtain ⟨hrules, hrules'⟩ := (hnames ruleName?).mp hrules
    exact ⟨⟨hmain, hskip, htokens, hrules⟩,
      (conflict?_eq_none hmain d).mpr ⟨hmain', hskip', htokens', hrules'⟩⟩
  · intro ⟨⟨hmain, hskip, htokens, hrules⟩, hconflict⟩
    obtain ⟨hmain', hskip', htokens', hrules'⟩ := (conflict?_eq_none hmain d).mp hconflict
    exact ⟨(hcount _).mpr ⟨hmain, hmain'⟩, (hcount _).mpr ⟨hskip, hskip'⟩,
      (hnames _).mpr ⟨htokens, htokens'⟩, (hnames _).mpr ⟨hrules, hrules'⟩⟩

theorem conflicts_eq_nil {declarations : List Declaration} :
    conflicts [] declarations = [] ↔ Distinct declarations := by
  induction declarations using List.reverseRec with
  | nil => exact iff_of_true rfl distinct_nil
  | append_singleton rest d ih =>
    rw [conflicts_push, List.append_eq_nil_iff, ih, List.nil_append, distinct_concat,
      Option.toList_eq_nil_iff]

/-! The inside of declarations. -/

variable {check : RegexCheck}

theorem patternNodes_eq_nil {declared : List Declaration} {owner : String} {pattern : Pattern} :
    pattern.preorder.flatMap (patternNode check declared owner) = [] ↔
      (∀ name, .leaf (.ref name) ∈ pattern.preorder → name ∈ declared.filterMap tokenName?) ∧
        ∀ body, .leaf (.regex body) ∈ pattern.preorder → check body = none := by
  rw [List.flatMap_eq_nil_iff]
  constructor
  · intro h
    refine ⟨fun name hmem => ?_, fun body hmem => ?_⟩
    · have hnode := h _ hmem
      rw [← any_isTokenOf]
      by_contra hnot
      rw [patternNode, if_neg hnot] at hnode
      cases hnode
    · have hnode := h _ hmem
      rw [patternNode] at hnode
      cases hcomplaint : check body with
      | none => rfl
      | some reason =>
        rw [hcomplaint] at hnode
        cases hnode
  · rintro ⟨hrefs, hregexes⟩ node hmem
    unfold patternNode
    split
    · rw [if_pos (any_isTokenOf.mpr (hrefs _ hmem))]
    · rw [hregexes _ hmem]
    · rfl

theorem ruleNodes_eq_nil {declared : List Declaration} (h : declared.countP isMain ≤ 1)
    {owner : String} {rule : Rule} :
    rule.preorder.flatMap (ruleNode check declared owner) = [] ↔
      (∀ name, .leaf (.ref name) ∈ rule.preorder → name ∈ declared.filterMap ruleName?) ∧
        ∀ pattern, .leaf (.token pattern) ∈ rule.preorder →
          pattern.preorder.flatMap (patternNode check declared owner) = [] := by
  rw [List.flatMap_eq_nil_iff]
  constructor
  · intro hnodes
    refine ⟨fun name hmem => ?_, fun pattern hmem => hnodes _ hmem⟩
    have hnode := hnodes _ hmem
    rw [← holder?_isSome h]
    by_contra hnot
    rw [ruleNode, if_neg hnot] at hnode
    cases hnode
  · rintro ⟨hrefs, hpatterns⟩ node hmem
    unfold ruleNode
    split
    · rw [if_pos ((holder?_isSome h).mpr (hrefs _ hmem))]
    · exact hpatterns _ hmem
    · rfl

/-- A declaration has no errors inside if what it refers to is declared and its regexes pass the
check. -/
theorem insideErrors_eq_nil {declared : List Declaration} (h : declared.countP isMain ≤ 1)
    (d : Declaration) : insideErrors check declared d = [] ↔
      (∀ name, d.HasPatternLeaf (.ref name) → name ∈ declared.filterMap tokenName?) ∧
      (∀ name, d.HasRuleLeaf (.ref name) → name ∈ declared.filterMap ruleName?) ∧
      ∀ body, d.HasPatternLeaf (.regex body) → check body = none := by
  have hrule : ∀ body : Rule,
      body.preorder.flatMap (ruleNode check declared d.describe) = [] ↔
      (∀ name, (∃ pattern, .leaf (.token pattern) ∈ body.preorder ∧
          .leaf (.ref name) ∈ pattern.preorder) → name ∈ declared.filterMap tokenName?) ∧
      (∀ name, .leaf (.ref name) ∈ body.preorder → name ∈ declared.filterMap ruleName?) ∧
      ∀ regex, (∃ pattern, .leaf (.token pattern) ∈ body.preorder ∧
          .leaf (.regex regex) ∈ pattern.preorder) → check regex = none := by
    intro body
    simp only [ruleNodes_eq_nil h, patternNodes_eq_nil]
    constructor
    · rintro ⟨hrefs, hpatterns⟩
      exact ⟨fun name ⟨pattern, hmem, hleaf⟩ => (hpatterns pattern hmem).1 name hleaf, hrefs,
        fun regex ⟨pattern, hmem, hleaf⟩ => (hpatterns pattern hmem).2 regex hleaf⟩
    · rintro ⟨htokens, hrefs, hregexes⟩
      exact ⟨hrefs, fun pattern hmem => ⟨fun name hleaf => htokens name ⟨pattern, hmem, hleaf⟩,
        fun regex hleaf => hregexes regex ⟨pattern, hmem, hleaf⟩⟩⟩
  cases d with
  | token name pattern =>
    rw [insideErrors, patternNodes_eq_nil]
    exact ⟨fun h => ⟨h.1, nofun, h.2⟩, fun h => ⟨h.1, h.2.2⟩⟩
  | rule name body => exact hrule body
  | main name body => exact hrule body
  | skip strategy body => exact hrule body

theorem errors_eq_nil {declarations : List Declaration} :
    errors check declarations = [] ↔ Resolvable check declarations := by
  rw [errors, List.append_eq_nil_iff, List.append_eq_nil_iff, conflicts_eq_nil,
    List.flatMap_eq_nil_iff, and_assoc]
  have hmissing : (if declarations.any isMain then [] else [missingMain]) = [] ↔
      ∃ d ∈ declarations, d.isMain = true := by
    rw [← List.any_eq_true]
    cases declarations.any isMain <;> simp
  rw [hmissing]
  constructor
  · intro ⟨hdistinct, hmain, hinside⟩
    have hparts := fun d hd => (insideErrors_eq_nil hdistinct.main d).mp (hinside d hd)
    exact ⟨hdistinct, hmain, fun d hd => (hparts d hd).1, fun d hd => (hparts d hd).2.1,
      fun d hd => (hparts d hd).2.2⟩
  · intro h
    exact ⟨h.toDistinct, h.hasMain, fun d hd => (insideErrors_eq_nil h.main d).mpr
      ⟨h.tokenRefs d hd, h.ruleRefs d hd, h.regexes d hd⟩⟩

end Recomputed

namespace Table

/-- Whatever the regex engine takes, it does not depend on the order in which a table was filled
whether it has errors. -/
theorem resolve_declareAll_eq_nil (check : RegexCheck) {a b : List Declaration}
    (hperm : a.Perm b) :
    ((empty.declareAll a).resolveWith check = [] ↔ (empty.declareAll b).resolveWith check = []) ∧
      ((empty.declareAll a).resolveWith check = [] ↔ Resolvable check a) := by
  have hresolve : ∀ declarations,
      (empty.declareAll declarations).resolveWith check = [] ↔ Resolvable check declarations := by
    intro declarations
    have hconsistent : (empty.declareAll declarations).Consistent :=
      invariant_declareAll (fun _ d h => h.declare d) .empty declarations
    rw [hconsistent.resolveWith, declareAll_declarations, Recomputed.errors_eq_nil]
    rfl
  rw [hresolve, hresolve]
  exact ⟨⟨.perm hperm, .perm hperm.symm⟩, Iff.rfl⟩

/-- A main rule may stand before the token it refers to, whose regex the engine takes. -/
theorem resolve_declareAll_eq_nil_forward :
    let check : RegexCheck := fun body => if body = "(" then some "unclosed group" else none
    let main := Declaration.main none (.leaf (.token (.leaf (.ref "NUMBER"))))
    let number := Declaration.token "NUMBER" (.leaf (.regex "[0-9]+"))
    [main, number].Perm [number, main] ∧
      (empty.declareAll [number, main]).resolveWith check = [] ∧
      (empty.declareAll [main, number]).resolveWith check = [] ∧
      Resolvable check [main, number] := by
  intro check main number
  have hperm : [main, number].Perm [number, main] := .swap ..
  have hresolve : (empty.declareAll [number, main]).resolveWith check = [] := by
    decide +kernel
  have h := resolve_declareAll_eq_nil check hperm
  exact ⟨hperm, hresolve, h.1.mpr hresolve, h.2.mp (h.1.mpr hresolve)⟩

end Table
end GrammarText
