/-
Registration step by step.  A table is filled by single declarations, by sources, and by the
builtins, in any order.  Every one of these comes down to single declarations, so what a declaration
preserves holds of every table that can be reached.
-/
import GrammarText.Table

namespace GrammarText
namespace Table

theorem indexRule_declarations (t : Table) (name : String) (place : Nat) (viaMain : Bool) :
    (t.indexRule name place viaMain).declarations = t.declarations := by
  unfold indexRule
  split <;> rfl

theorem declare_declarations (t : Table) (d : Declaration) :
    (t.declare d).declarations = t.declarations ++ [d] := by
  unfold declare
  split
  · split <;> rfl
  · exact indexRule_declarations ..
  · split
    · rfl
    · simp only
      split
      · rfl
      · exact indexRule_declarations ..
  · split <;> rfl

/-- Declarations are kept in the order of their registration, conflicting ones too. -/
theorem declareAll_declarations (t : Table) (declarations : List Declaration) :
    (t.declareAll declarations).declarations = t.declarations ++ declarations := by
  induction declarations generalizing t with
  | nil => exact (List.append_nil _).symm
  | cons d rest ih =>
    have hrest := ih (t.declare d)
    rw [declare_declarations, List.append_assoc] at hrest
    exact hrest

/-- A builtin has no part in what other token names stand for. -/
theorem hasToken_declare_builtin (t : Table) {b : Builtin} {name : String}
    (h : name ≠ b.tokenName) :
    (t.declare (builtinDeclaration b)).hasToken name = t.hasToken name := by
  have hother : [(b.tokenName, t.length)].lookup name = none := by
    rw [List.lookup_cons, beq_eq_false_iff_ne.mpr h]
    rfl
  by_cases htaken : t.hasToken b.tokenName
  · simp only [declare, builtinDeclaration, htaken, if_true]
    rfl
  · simp only [declare, builtinDeclaration, htaken, Bool.false_eq_true, if_false]
    simp only [hasToken, List.lookup_append, hother, Option.or_none]

/-- One builtin after the other comes to those whose names were free in the first place. -/
theorem foldl_addBuiltin {builtins : List Builtin}
    (hnames : builtins.Pairwise fun b c => b.tokenName ≠ c.tokenName) (t : Table) (count : Nat) :
    builtins.foldl addBuiltin (t, count) =
      (t.declareAll ((builtins.filter fun b => !t.hasToken b.tokenName).map builtinDeclaration),
        count + (builtins.filter fun b => !t.hasToken b.tokenName).length) := by
  induction builtins generalizing t count with
  | nil => rfl
  | cons b rest ih =>
    obtain ⟨hb, hrest⟩ := List.pairwise_cons.mp hnames
    rw [List.foldl_cons]
    by_cases htaken : t.hasToken b.tokenName
    · rw [show addBuiltin (t, count) b = (t, count) from if_pos htaken, ih hrest t count]
      simp [htaken]
    · have hsame : ∀ c ∈ rest, (!(t.declare (builtinDeclaration b)).hasToken c.tokenName) =
          !t.hasToken c.tokenName := fun c hc => by
        rw [hasToken_declare_builtin t (hb c hc).symm]
      rw [show addBuiltin (t, count) b = (t.declare (builtinDeclaration b), count + 1) from
        if_neg htaken, ih hrest, List.filter_congr hsame,
        List.filter_cons_of_pos (by simp [htaken])]
      simp only [List.map_cons, List.length_cons, Prod.mk.injEq]
      exact ⟨rfl, by omega⟩

/-- The builtins that are added are those that are missing. -/
theorem addBuiltins_eq (t : Table) : t.addBuiltins =
    (t.declareAll (t.missingBuiltins.map builtinDeclaration), t.missingBuiltins.length) := by
  rw [addBuiltins, foldl_addBuiltin (by decide), Nat.zero_add]
  rfl

theorem registerBuiltins_eq (t : Table) :
    t.registerBuiltins = t.declareAll (t.missingBuiltins.map builtinDeclaration) := by
  rw [registerBuiltins, addBuiltins_eq]

/-- One way of filling a table. -/
inductive Step where
  | declare (d : Declaration)
  /-- A source, whose declarations are registered whether or not others in it failed. -/
  | compile (source : String)
  | builtins

def apply (t : Table) : Step → Table
  | .declare d => t.declare d
  | .compile source => (t.compile source).1
  | .builtins => t.registerBuiltins

/-- The table that steps lead to from the empty one. -/
def run (steps : List Step) : Table :=
  steps.foldl apply empty

variable {Invariant : Table → Prop}

theorem invariant_declareAll (hdeclare : ∀ t d, Invariant t → Invariant (t.declare d)) {t : Table}
    (h : Invariant t) (declarations : List Declaration) :
    Invariant (t.declareAll declarations) := by
  induction declarations generalizing t with
  | nil => exact h
  | cons d rest ih => exact ih (hdeclare t d h)

/-- What a single declaration preserves, every step preserves. -/
theorem invariant_apply (hdeclare : ∀ t d, Invariant t → Invariant (t.declare d)) {t : Table}
    (h : Invariant t) (step : Step) : Invariant (t.apply step) := by
  cases step with
  | declare d => exact hdeclare t d h
  | compile source => exact invariant_declareAll hdeclare h _
  | builtins =>
    show Invariant t.registerBuiltins
    rw [registerBuiltins_eq]
    exact invariant_declareAll hdeclare h _

/-- What a single declaration preserves, any number of steps preserve. -/
theorem invariant_steps (hdeclare : ∀ t d, Invariant t → Invariant (t.declare d)) {t : Table}
    (h : Invariant t) (steps : List Step) : Invariant (steps.foldl apply t) := by
  induction steps generalizing t with
  | nil => exact h
  | cons step rest ih => exact ih (invariant_apply hdeclare h step)

/-- What holds of the empty table and survives a declaration holds of every table. -/
theorem invariant_run (hempty : Invariant empty)
    (hdeclare : ∀ t d, Invariant t → Invariant (t.declare d)) (steps : List Step) :
    Invariant (run steps) :=
  invariant_steps hdeclare hempty steps

end Table
end GrammarText
