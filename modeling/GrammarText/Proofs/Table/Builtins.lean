/-
The builtins in a table.  Registering them puts a declaration behind the others for every builtin
whose name no token declaration has taken.  It is conservative: all that was found before is found
as before, no conflict arises, and of the errors of the table those about the missing builtins are
gone and the others stand as they stood.
-/
import GrammarText.Proofs.Expr.Leaves
import GrammarText.Proofs.Table.Lookup

namespace GrammarText

/-- Whether the error is about a reference to one of the builtins. -/
def ResolveError.misses (builtins : List Builtin) : ResolveError → Bool
  | undefinedToken name _ => builtins.any (·.tokenName == name)
  | _ => false

namespace Table

open Declaration

/-- The builtins whose names no token declaration has, in their fixed order. -/
def undeclared (declarations : List Declaration) : List Builtin :=
  Builtin.all.filter fun b => !declarations.any (isTokenOf b.tokenName)

/-- The second table is the first with builtins added, and says what the first says apart from
them. -/
structure ExtendedBy (check : RegexCheck) (added : List Builtin) (t u : Table) : Prop where
  declarations : u.declarations = t.declarations ++ added.map builtinDeclaration
  conflicts : u.conflicts = t.conflicts
  token : ∀ name, name ∉ added.map Builtin.tokenName → u.token? name = t.token? name
  hasToken : ∀ name, name ∉ added.map Builtin.tokenName → u.hasToken name = t.hasToken name
  rule : ∀ name, u.rule? name = t.rule? name
  hasRule : ∀ name, u.hasRule name = t.hasRule name
  main : u.main? = t.main?
  skip : u.skip? = t.skip?
  /-- The errors about references to what has been added are left out. -/
  resolve : u.resolveWith check = (t.resolveWith check).filter fun e => !e.misses added

namespace ExtendedBy

variable {check : RegexCheck} {added more : List Builtin} {t u v : Table}

theorem refl (t : Table) : ExtendedBy check [] t t where
  declarations := (List.append_nil _).symm
  conflicts := rfl
  token _ _ := rfl
  hasToken _ _ := rfl
  rule _ := rfl
  hasRule _ := rfl
  main := rfl
  skip := rfl
  resolve := by
    refine (List.filter_eq_self.mpr fun e _ => ?_).symm
    cases e <;> rfl

theorem trans (h : ExtendedBy check added t u) (h' : ExtendedBy check more u v) :
    ExtendedBy check (added ++ more) t v where
  declarations := by
    rw [h'.declarations, h.declarations, List.map_append, List.append_assoc]
  conflicts := h'.conflicts.trans h.conflicts
  token name hname := by
    rw [List.map_append, List.mem_append, not_or] at hname
    rw [h'.token name hname.2, h.token name hname.1]
  hasToken name hname := by
    rw [List.map_append, List.mem_append, not_or] at hname
    rw [h'.hasToken name hname.2, h.hasToken name hname.1]
  rule name := (h'.rule name).trans (h.rule name)
  hasRule name := (h'.hasRule name).trans (h.hasRule name)
  main := h'.main.trans h.main
  skip := h'.skip.trans h.skip
  resolve := by
    rw [h'.resolve, h.resolve, List.filter_filter]
    refine List.filter_congr fun e _ => ?_
    cases e with
    | undefinedToken name owner =>
      simp only [ResolveError.misses, List.any_append, Bool.not_or]
      exact Bool.and_comm _ _
    | _ => rfl

end ExtendedBy

/-! One builtin. -/

section

variable {check : RegexCheck} {t : Table} {b : Builtin}

/-- With the builtin there, a reference is undefined if it was so before and is to another name. -/
theorem patternLeafErrors_builtin (owner : String) (leaf : PatternLeaf) :
    (t.declare (builtinDeclaration b)).patternLeafErrors check owner leaf =
      (t.patternLeafErrors check owner leaf).filter fun e => !e.misses [b] := by
  cases leaf with
  | ref name =>
    have hname : (t.declare (builtinDeclaration b)).hasToken name =
        (t.hasToken name || b.tokenName == name) := by
      rw [hasToken, lookup_tokens_declare, builtinDeclaration, isTokenOf]
      by_cases heq : b.tokenName == name <;> simp [heq, hasToken]
    simp only [patternLeafErrors, hname]
    by_cases hheld : t.hasToken name
    · simp [hheld]
    · by_cases heq : b.tokenName == name <;> simp [hheld, heq, ResolveError.misses]
  | regex body =>
    simp only [patternLeafErrors]
    cases check body <;> rfl
  | _ => rfl

theorem patternErrors_builtin (owner : String) (pattern : Pattern) :
    (t.declare (builtinDeclaration b)).patternErrors check owner pattern =
      (t.patternErrors check owner pattern).filter fun e => !e.misses [b] := by
  unfold patternErrors
  rw [List.filter_flatMap]
  exact congrArg (List.flatMap · _) (funext fun leaf => patternLeafErrors_builtin owner leaf)

theorem ruleErrors_builtin (hrules : ∀ name, (t.declare (builtinDeclaration b)).hasRule name =
    t.hasRule name) (owner : String) (rule : Rule) :
    (t.declare (builtinDeclaration b)).ruleErrors check owner rule =
      (t.ruleErrors check owner rule).filter fun e => !e.misses [b] := by
  unfold ruleErrors
  rw [List.filter_flatMap]
  refine congrArg (List.flatMap · _) (funext fun leaf => ?_)
  cases leaf with
  | ref name =>
    simp only [ruleLeafErrors, hrules]
    by_cases hheld : t.hasRule name <;> simp [hheld, ResolveError.misses]
  | token pattern => exact patternErrors_builtin owner pattern

theorem declarationErrors_builtin (hrules : ∀ name,
    (t.declare (builtinDeclaration b)).hasRule name = t.hasRule name) (d : Declaration) :
    (t.declare (builtinDeclaration b)).declarationErrors check d =
      (t.declarationErrors check d).filter fun e => !e.misses [b] := by
  cases d with
  | token name pattern => exact patternErrors_builtin _ pattern
  | rule name body => exact ruleErrors_builtin hrules _ body
  | main name body => exact ruleErrors_builtin hrules _ body
  | skip strategy body => exact ruleErrors_builtin hrules _ body

/-- Registering a builtin whose name is free is conservative. -/
theorem ExtendedBy.declare (h : t.Indexed) (hconsistent : t.Consistent)
    (hfree : t.hasToken b.tokenName = false) :
    ExtendedBy check [b] t (t.declare (builtinDeclaration b)) := by
  have hdeclarations := declare_declarations t (builtinDeclaration b)
  have hconflicts : (t.declare (builtinDeclaration b)).conflicts = t.conflicts := by
    simp [Table.declare, builtinDeclaration, hfree, push]
  have hrule : ∀ name, (t.declare (builtinDeclaration b)).rule? name = t.rule? name := by
    intro name
    rw [h.declare_rule? hconsistent]
    exact Option.or_none
  have hrules : ∀ name, (t.declare (builtinDeclaration b)).hasRule name = t.hasRule name := by
    intro name
    rw [(h.declare _).hasRule_eq, h.hasRule_eq, hrule]
  have hmain : (t.declare (builtinDeclaration b)).main? = t.main? := by
    rw [h.declare_main?]
    exact Option.or_none
  have htoken : ∀ name, name ∉ [b].map Builtin.tokenName →
      (t.declare (builtinDeclaration b)).token? name = t.token? name := by
    intro name hname
    have hother : b.tokenName ≠ name := fun heq => hname (by simp [heq])
    rw [h.declare_token?, builtinDeclaration, tokenNamed?, if_neg hother, Option.or_none]
  refine ⟨hdeclarations, hconflicts, htoken, fun name hname => ?_, hrule, hrules, hmain, ?_, ?_⟩
  · rw [(h.declare _).hasToken_eq, h.hasToken_eq, htoken name hname]
  · rw [h.declare_skip?]
    exact Option.or_none
  · have hkept : ∀ c : Conflict, (!(ResolveError.ofConflict c).misses [b]) = true := by
      intro c
      cases c <;> rfl
    have hbuiltin : t.declarationErrors check (builtinDeclaration b) = [] := by
      simp [declarationErrors, builtinDeclaration, patternErrors, Expr.leaves_leaf,
        patternLeafErrors]
    unfold Table.resolveWith
    rw [hconflicts, hmain, hdeclarations, List.filter_append, List.filter_append,
      List.filter_flatMap, List.flatMap_append]
    congr 1
    · congr 1
      · exact (List.filter_eq_self.mpr fun e he => by
          obtain ⟨c, -, rfl⟩ := List.mem_map.mp he
          exact hkept c).symm
      · split <;> rfl
    · rw [List.flatMap_singleton, declarationErrors_builtin hrules, hbuiltin, List.filter_nil,
        List.append_nil]
      exact congrArg (List.flatMap · _) (funext fun d => declarationErrors_builtin hrules d)

end

/-- Registering builtins whose names are free, one after the other, is conservative. -/
theorem ExtendedBy.declareAll {check : RegexCheck} {builtins : List Builtin} {t : Table}
    (h : t.Indexed) (hconsistent : t.Consistent)
    (hnames : builtins.Pairwise fun b c => b.tokenName ≠ c.tokenName)
    (hfree : ∀ b ∈ builtins, t.hasToken b.tokenName = false) :
    ExtendedBy check builtins t (t.declareAll (builtins.map builtinDeclaration)) := by
  induction builtins generalizing t with
  | nil => exact .refl t
  | cons b rest ih =>
    obtain ⟨hb, hrest⟩ := List.pairwise_cons.mp hnames
    have hfirst : ExtendedBy check [b] t _ :=
      .declare h hconsistent (hfree b (List.mem_cons_self ..))
    refine hfirst.trans (ih (h.declare _) (hconsistent.declare _) hrest fun c hc => ?_)
    rw [hasToken_declare_builtin t (hb c hc).symm]
    exact hfree c (List.mem_cons_of_mem _ hc)

/-- Whatever steps a table has taken, the builtins are added to it whose names no token declaration
has taken, and as many are counted.  Apart from them the table says what it said before, and when it
is asked to add builtins once more it is left as it is. -/
theorem addBuiltins_conservative (check : RegexCheck) (steps : List Step) :
    (run steps).addBuiltins.2 = (undeclared (run steps).declarations).length ∧
      ExtendedBy check (undeclared (run steps).declarations) (run steps)
        (run steps).registerBuiltins ∧
      (run steps).registerBuiltins.addBuiltins = ((run steps).registerBuiltins, 0) := by
  have hconsistent := consistent_run steps
  have hindexed : (run steps).Indexed := (describes_run steps []).1.toIndexed
  have hmissing : (run steps).missingBuiltins = undeclared (run steps).declarations := by
    unfold missingBuiltins undeclared
    simp only [hconsistent.tokens]
  have hextended : ExtendedBy check (undeclared (run steps).declarations) (run steps)
      (run steps).registerBuiltins := by
    rw [registerBuiltins_eq, hmissing]
    refine .declareAll hindexed hconsistent ?_ fun b hb => ?_
    · exact List.Pairwise.filter _ (by decide)
    · rw [hconsistent.tokens]
      simpa using (List.mem_filter.mp hb).2
  refine ⟨by rw [addBuiltins_eq, hmissing], hextended, ?_⟩
  -- A builtin that was missing has a declaration now, and the others had one before.
  have hafter := invariant_apply (fun _ d h => h.declare d) hconsistent .builtins
  have hnone : (run steps).registerBuiltins.missingBuiltins = [] := by
    refine List.filter_eq_nil_iff.mpr fun b hb => ?_
    have hdeclared : (run steps).registerBuiltins.hasToken b.tokenName = true := by
      refine (hafter.tokens b.tokenName).trans ?_
      show (run steps).registerBuiltins.declarations.any _ = true
      rw [hextended.declarations, List.any_append]
      by_cases hold : (run steps).declarations.any (isTokenOf b.tokenName)
      · rw [hold, Bool.true_or]
      · have hadded : b ∈ undeclared (run steps).declarations :=
          List.mem_filter.mpr ⟨hb, by simp [hold]⟩
        rw [Bool.or_eq_true]
        exact .inr (List.any_eq_true.mpr ⟨builtinDeclaration b, List.mem_map_of_mem hadded,
          by simp [builtinDeclaration, isTokenOf]⟩)
    simp [hdeclared]
  rw [addBuiltins_eq, hnone]
  rfl

end Table
end GrammarText
