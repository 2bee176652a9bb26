/-
Resolution as a function of the declarations.  A table keeps indexes and a list of conflicts, and
brings them up to date with every declaration.  Here the errors are computed a second time, in one
pass over the declarations and without any index, and the two lists are equal for every table.
-/
import GrammarText.Proofs.Expr.Preorder
import GrammarText.Proofs.Table.Registration
import GrammarText.Table.Resolution

namespace GrammarText

namespace Declaration

/-- Whether it declares the token of a name. -/
def isTokenOf (name : String) : Declaration → Bool
  | token other _ => other == name
  | _ => false

def isMain : Declaration → Bool
  | main _ _ => true
  | _ => false

def isSkip : Declaration → Bool
  | skip _ _ => true
  | _ => false

/--
The rule name that a declaration claims, and whether it does so as the main rule.  Behind a main
rule another one claims nothing.
-/
def claim? (mainSeen : Bool) : Declaration → Option (String × Bool)
  | rule name _ => some (name, false)
  | main (some name) _ => if mainSeen then none else some (name, true)
  | _ => none

end Declaration

/-! The second computation reads nothing but the list of declarations. -/

namespace Recomputed

open Declaration ResolveError

/-- The rule names that are claimed, in order.  The first claim of a name holds it. -/
def claims : (mainSeen : Bool) → List Declaration → List (String × Bool)
  | _, [] => []
  | mainSeen, d :: rest => (d.claim? mainSeen).toList ++ claims (mainSeen || d.isMain) rest

/-- Whether the holder of a rule name is the main rule, if the name has one. -/
def holder? (declarations : List Declaration) (name : String) : Option Bool :=
  (claims false declarations).lookup name

/-- What a declaration conflicts with, among those before it. -/
def conflict? (earlier : List Declaration) : Declaration → Option ResolveError
  | .token name _ => if earlier.any (isTokenOf name) then some (duplicateToken name) else none
  | .rule name _ =>
      (holder? earlier name).map fun viaMain =>
        if viaMain then mainNameClash name else duplicateRule name
  | .main name _ =>
      if earlier.any isMain then some duplicateMain
      else name.bind fun name => (holder? earlier name).map fun _ => mainNameClash name
  | .skip _ _ => if earlier.any isSkip then some duplicateSkip else none

/-- The conflicts of declarations that stand behind earlier ones, in a single pass. -/
def conflicts (earlier : List Declaration) : List Declaration → List ResolveError
  | [] => []
  | d :: rest => (conflict? earlier d).toList ++ conflicts (earlier ++ [d]) rest

/-- The errors at one node of a token pattern. -/
def patternNode (check : RegexCheck) (declared : List Declaration) (owner : String) :
    Pattern → List ResolveError
  | .leaf (.ref name) => if declared.any (isTokenOf name) then [] else [undefinedToken name owner]
  | .leaf (.regex body) =>
      match check body with
      | none => []
      | some reason => [invalidRegex body reason]
  | _ => []

/-- The errors at one node of a rule, with the nodes of a token pattern that stands there. -/
def ruleNode (check : RegexCheck) (declared : List Declaration) (owner : String) :
    Rule → List ResolveError
  | .leaf (.ref name) => if (holder? declared name).isSome then [] else [undefinedRule name owner]
  | .leaf (.token pattern) => pattern.preorder.flatMap (patternNode check declared owner)
  | _ => []

/-- The errors inside a declaration, node by node. -/
def insideErrors (check : RegexCheck) (declared : List Declaration) (d : Declaration) :
    List ResolveError :=
  match d with
  | .token _ pattern => pattern.preorder.flatMap (patternNode check declared d.describe)
  | .rule _ body | .main _ body | .skip _ body =>
      body.preorder.flatMap (ruleNode check declared d.describe)

/-- Everything that keeps declarations from being a grammar. -/
def errors (check : RegexCheck) (declarations : List Declaration) : List ResolveError :=
  conflicts [] declarations
    ++ (if declarations.any isMain then [] else [missingMain])
    ++ declarations.flatMap (insideErrors check declarations)

theorem claims_append (mainSeen : Bool) (earlier later : List Declaration) :
    claims mainSeen (earlier ++ later) =
      claims mainSeen earlier ++ claims (mainSeen || earlier.any isMain) later := by
  induction earlier generalizing mainSeen with
  | nil => simp [claims]
  | cons d rest ih => simp [claims, ih, Bool.or_assoc]

theorem holder?_push (earlier : List Declaration) (d : Declaration) (name : String) :
    holder? (earlier ++ [d]) name =
      (holder? earlier name).or ((d.claim? (earlier.any isMain)).toList.lookup name) := by
  unfold holder?
  rw [claims_append, List.lookup_append, Bool.false_or]
  simp only [claims, List.append_nil]

theorem conflicts_push (earlier declarations : List Declaration) (d : Declaration) :
    conflicts earlier (declarations ++ [d]) =
      conflicts earlier declarations ++ (conflict? (earlier ++ declarations) d).toList := by
  induction declarations generalizing earlier with
  | nil => simp [conflicts]
  | cons other rest ih => simp [conflicts, ih]

end Recomputed

/-! What a declaration does to each part of a table. -/

namespace Table

open Declaration

theorem lookup_singleton {α : Type} (key name : String) (value : α) :
    [(key, value)].lookup name = if name = key then some value else none := by
  by_cases h : name = key
  · rw [if_pos h, h, List.lookup_cons_self]
  · rw [if_neg h, List.lookup_cons, beq_eq_false_iff_ne.mpr h]
    rfl

theorem indexRule_rules (t : Table) (name : String) (place : Nat) (viaMain : Bool) :
    (t.indexRule name place viaMain).rules =
      t.rules ++ if t.hasRule name then [] else [(name, place)] := by
  unfold indexRule hasRule
  cases t.rules.lookup name <;> simp [record]

theorem indexRule_tokens (t : Table) (name : String) (place : Nat) (viaMain : Bool) :
    (t.indexRule name place viaMain).tokens = t.tokens := by
  unfold indexRule
  split <;> rfl

theorem indexRule_main (t : Table) (name : String) (place : Nat) (viaMain : Bool) :
    (t.indexRule name place viaMain).main = t.main := by
  unfold indexRule
  split <;> rfl

theorem indexRule_skip (t : Table) (name : String) (place : Nat) (viaMain : Bool) :
    (t.indexRule name place viaMain).skip = t.skip := by
  unfold indexRule
  split <;> rfl

theorem indexRule_conflicts (t : Table) (name : String) (place : Nat) (viaMain : Bool) :
    (t.indexRule name place viaMain).conflicts =
      t.conflicts ++ ((t.rules.lookup name).map fun holder =>
        if viaMain || t.isMainAt holder then Conflict.mainName name else .rule name).toList := by
  unfold indexRule
  cases t.rules.lookup name <;> simp [record]

theorem declare_tokens (t : Table) (d : Declaration) :
    (t.declare d).tokens = t.tokens ++
      match d with
      | .token name _ => if t.hasToken name then [] else [(name, t.length)]
      | _ => [] := by
  cases d with
  | token name pattern => by_cases h : t.hasToken name <;> simp [declare, h, record, push]
  | rule name body => simp [declare, indexRule_tokens, push]
  | main name body =>
    cases name <;> cases h : t.main <;> simp [declare, h, indexRule_tokens, record, push]
  | skip strategy body => cases h : t.skip <;> simp [declare, h, record, push]

theorem declare_main (t : Table) (d : Declaration) :
    (t.declare d).main = t.main.or (if d.isMain then some t.length else none) := by
  cases d with
  | token name pattern => by_cases h : t.hasToken name <;> simp [declare, h, record, push, isMain]
  | rule name body => simp [declare, indexRule_main, push, isMain]
  | main name body =>
    cases name <;> cases h : t.main <;> simp [declare, h, indexRule_main, record, push, isMain]
  | skip strategy body => cases h : t.skip <;> simp [declare, h, record, push, isMain]

theorem declare_skip (t : Table) (d : Declaration) :
    (t.declare d).skip = t.skip.or (if d.isSkip then some t.length else none) := by
  cases d with
  | token name pattern => by_cases h : t.hasToken name <;> simp [declare, h, record, push, isSkip]
  | rule name body => simp [declare, indexRule_skip, push, isSkip]
  | main name body =>
    cases name <;> cases h : t.main <;> simp [declare, h, indexRule_skip, record, push, isSkip]
  | skip strategy body => cases h : t.skip <;> simp [declare, h, record, push, isSkip]

theorem declare_rules (t : Table) (d : Declaration) :
    (t.declare d).rules = t.rules ++
      match d.claim? t.main.isSome with
      | some (name, _) => if t.hasRule name then [] else [(name, t.length)]
      | none => [] := by
  have hpush : ∀ name, (t.push d).hasRule name = t.hasRule name := fun _ => rfl
  cases d with
  | token name pattern => by_cases h : t.hasToken name <;> simp [declare, h, record, push, claim?]
  | rule name body =>
    show ((t.push _).indexRule name t.length false).rules = _
    rw [indexRule_rules, hpush]
    rfl
  | main name body =>
    cases h : t.main with
    | some place => cases name <;> simp [declare, h, record, push, claim?]
    | none =>
      cases name with
      | none => simp [declare, h, push, claim?]
      | some name =>
        simp only [declare, h, Option.isSome_none, Bool.false_eq_true, if_false, claim?]
        rw [indexRule_rules]
        rfl
  | skip strategy body => cases h : t.skip <;> simp [declare, h, record, push, claim?]

/-- The indexes and the conflicts of a table say what its declarations say. -/
structure Consistent (t : Table) : Prop where
  tokens : ∀ name, t.hasToken name = t.declarations.any (isTokenOf name)
  rules : ∀ name, (t.rules.lookup name).map t.isMainAt = Recomputed.holder? t.declarations name
  /-- Every holder of a rule name has been registered. -/
  held : ∀ name place, t.rules.lookup name = some place → place < t.length
  main : t.main.isSome = t.declarations.any isMain
  mainAt : ∀ place, t.main = some place → t.isMainAt place = true ∧ place < t.length
  skip : t.skip.isSome = t.declarations.any isSkip
  conflicts : t.conflicts.map ResolveError.ofConflict = Recomputed.conflicts [] t.declarations

theorem isMainAt_of_append {t u : Table} {later : List Declaration}
    (h : u.declarations = t.declarations ++ later) {place : Nat} (hplace : place < t.length) :
    u.isMainAt place = t.isMainAt place := by
  unfold isMainAt
  rw [h, List.getElem?_append_left hplace]

theorem isMainAt_length {t u : Table} {d : Declaration}
    (h : u.declarations = t.declarations ++ [d]) :
    u.isMainAt t.length = d.isMain := by
  unfold isMainAt length
  rw [h, List.getElem?_concat_length]
  cases d <;> rfl

namespace Consistent

variable {t : Table}

theorem hasRule (h : t.Consistent) (name : String) :
    t.hasRule name = (Recomputed.holder? t.declarations name).isSome := by
  rw [← h.rules, Option.isSome_map]
  rfl

theorem declare_tokens (h : t.Consistent) (d : Declaration) (name : String) :
    (t.declare d).hasToken name = (t.declare d).declarations.any (isTokenOf name) := by
  rw [declare_declarations, List.any_append, ← h.tokens name]
  unfold hasToken
  rw [Table.declare_tokens, List.lookup_append]
  cases d with
  | token other pattern =>
    by_cases hheld : (t.tokens.lookup other).isSome
    · by_cases heq : other = name
      · subst heq
        simp [hasToken, hheld]
      · simp [hasToken, hheld, isTokenOf, heq]
    · have hfree : t.hasToken other = false := Bool.eq_false_iff.mpr hheld
      simp only [hfree, Bool.false_eq_true, if_false, lookup_singleton]
      by_cases heq : other = name
      · simp [heq, isTokenOf]
      · simp [heq, Ne.symm heq, isTokenOf]
  | _ => simp [isTokenOf]

/-- The holder of a name keeps it.  A free name is held by the declaration that claims it. -/
theorem lookup_declare (h : t.Consistent) (d : Declaration) (name : String) :
    (t.declare d).rules.lookup name = (t.rules.lookup name).or
      (((d.claim? (t.declarations.any isMain)).toList.lookup name).map fun _ => t.length) := by
  rw [declare_rules, List.lookup_append, h.main]
  cases d.claim? (t.declarations.any isMain) with
  | none => simp
  | some claim =>
    obtain ⟨other, viaMain⟩ := claim
    rw [Option.toList_some, lookup_singleton]
    cases hholder : t.rules.lookup other with
    | none =>
      have hfree : t.hasRule other = false := by rw [Table.hasRule, hholder, Option.isSome_none]
      simp only [hfree, Bool.false_eq_true, if_false, lookup_singleton]
      by_cases heq : name = other <;> simp [heq]
    | some holder =>
      have hheld : t.hasRule other = true := by rw [Table.hasRule, hholder, Option.isSome_some]
      by_cases heq : name = other
      · simp [heq, hholder]
      · simp [hheld, heq]

theorem claim_viaMain {d : Declaration} {mainSeen : Bool} {claim : String × Bool}
    (h : d.claim? mainSeen = some claim) : claim.2 = d.isMain := by
  cases d with
  | token name pattern => cases h
  | skip strategy body => cases h
  | rule name body =>
    cases h
    rfl
  | main name body =>
    cases name with
    | none => cases h
    | some name =>
      cases mainSeen with
      | true => cases h
      | false =>
        cases h
        rfl

theorem declare_rules (h : t.Consistent) (d : Declaration) (name : String) :
    ((t.declare d).rules.lookup name).map (t.declare d).isMainAt =
      Recomputed.holder? (t.declare d).declarations name := by
  have hdeclarations := declare_declarations t d
  rw [hdeclarations, Recomputed.holder?_push, ← h.rules name, h.lookup_declare d name]
  cases hholder : t.rules.lookup name with
  | some holder =>
    simp [isMainAt_of_append hdeclarations (h.held name holder hholder)]
  | none =>
    cases hclaim : d.claim? (t.declarations.any isMain) with
    | none => simp
    | some claim =>
      obtain ⟨other, viaMain⟩ := claim
      have hvia : viaMain = d.isMain := claim_viaMain hclaim
      simp only [Option.toList_some, lookup_singleton]
      by_cases heq : name = other
      · simp [heq, isMainAt_length hdeclarations, hvia]
      · simp [heq]

theorem declare_length (t : Table) (d : Declaration) : (t.declare d).length = t.length + 1 := by
  unfold length
  rw [declare_declarations, List.length_append, List.length_singleton]

theorem declare_held (h : t.Consistent) (d : Declaration) (name : String) (place : Nat)
    (hlookup : (t.declare d).rules.lookup name = some place) : place < (t.declare d).length := by
  rw [declare_length]
  rw [h.lookup_declare d name, Option.or_eq_some_iff] at hlookup
  rcases hlookup with hold | ⟨-, hnew⟩
  · have := h.held name place hold
    omega
  · obtain ⟨_, -, rfl⟩ := Option.map_eq_some_iff.mp hnew
    omega

theorem declare_mainAt (h : t.Consistent) (d : Declaration) (place : Nat)
    (hmain : (t.declare d).main = some place) :
    (t.declare d).isMainAt place = true ∧ place < (t.declare d).length := by
  have hdeclarations := declare_declarations t d
  rw [declare_length]
  rw [declare_main, Option.or_eq_some_iff] at hmain
  rcases hmain with hold | ⟨-, hnew⟩
  · obtain ⟨hat, hlt⟩ := h.mainAt place hold
    exact ⟨(isMainAt_of_append hdeclarations hlt).trans hat, by omega⟩
  · obtain ⟨hd, heq⟩ := Option.ite_none_right_eq_some.mp hnew
    cases heq
    exact ⟨(isMainAt_length hdeclarations).trans hd, by omega⟩

/-- The conflict that a declaration records is the one that the earlier declarations give. -/
theorem declare_conflicts (h : t.Consistent) (d : Declaration) :
    (t.declare d).conflicts.map ResolveError.ofConflict =
      Recomputed.conflicts [] (t.declare d).declarations := by
  rw [declare_declarations, Recomputed.conflicts_push, ← h.conflicts, List.nil_append]
  have hindexed : ∀ (u : Table) name viaMain, u.rules = t.rules → u.conflicts = t.conflicts →
      u.declarations = t.declarations ++ [d] →
      (u.indexRule name t.length viaMain).conflicts.map ResolveError.ofConflict =
        t.conflicts.map ResolveError.ofConflict ++
          ((Recomputed.holder? t.declarations name).map fun heldByMain =>
            if viaMain || heldByMain then ResolveError.mainNameClash name
            else .duplicateRule name).toList := by
    intro u name viaMain hrules hconflicts hdeclarations
    rw [indexRule_conflicts, hrules, hconflicts, List.map_append, ← h.rules name]
    cases hholder : t.rules.lookup name with
    | none => rfl
    | some holder =>
      have hat := isMainAt_of_append hdeclarations (h.held name holder hholder)
      simp only [Option.map_some, Option.toList_some, List.map_singleton, hat]
      cases viaMain || t.isMainAt holder <;> rfl
  cases d with
  | token name pattern =>
    have hname := h.tokens name
    cases hhas : t.hasToken name with
    | true =>
      simp [declare, record, push, hhas, Recomputed.conflict?, ← hname, ResolveError.ofConflict]
    | false => simp [declare, push, hhas, Recomputed.conflict?, ← hname]
  | rule name body => exact hindexed (t.push _) name false rfl rfl rfl
  | main name body =>
    have hmain := h.main
    cases hslot : t.main with
    | some place =>
      rw [hslot] at hmain
      simp [declare, record, push, hslot, Recomputed.conflict?, ← hmain, ResolveError.ofConflict]
    | none =>
      rw [hslot] at hmain
      cases name with
      | none => simp [declare, push, hslot, Recomputed.conflict?, ← hmain]
      | some name =>
        simp only [declare, hslot, Option.isSome_none, Bool.false_eq_true, if_false,
          Recomputed.conflict?, ← hmain, Option.bind_some]
        exact hindexed { t.push _ with main := some t.length } name true rfl rfl rfl
  | skip strategy body =>
    have hskip := h.skip
    cases hslot : t.skip with
    | some place =>
      rw [hslot] at hskip
      simp [declare, record, push, hslot, Recomputed.conflict?, ← hskip, ResolveError.ofConflict]
    | none =>
      rw [hslot] at hskip
      simp [declare, push, hslot, Recomputed.conflict?, ← hskip]

/-- Every declaration keeps the indexes and the conflicts up to date. -/
theorem declare (h : t.Consistent) (d : Declaration) : (t.declare d).Consistent where
  tokens := h.declare_tokens d
  rules := h.declare_rules d
  held := h.declare_held d
  main := by
    rw [declare_main, declare_declarations, List.any_append, ← h.main]
    cases hd : d.isMain <;> simp [hd]
  mainAt := h.declare_mainAt d
  skip := by
    rw [declare_skip, declare_declarations, List.any_append, ← h.skip]
    cases hd : d.isSkip <;> simp [hd]
  conflicts := h.declare_conflicts d

theorem empty : Table.empty.Consistent where
  tokens _ := rfl
  rules _ := rfl
  held _ _ hlookup := by cases hlookup
  main := rfl
  mainAt _ hmain := by cases hmain
  skip := rfl
  conflicts := rfl

theorem main?_isNone (h : t.Consistent) : t.main?.isNone = !t.declarations.any isMain := by
  rw [← h.main]
  unfold main?
  cases hmain : t.main with
  | none => rfl
  | some place =>
    obtain ⟨hat, -⟩ := h.mainAt place hmain
    unfold isMainAt at hat
    split at hat
    · rename_i hplace
      simp [hplace]
    · cases hat

theorem patternErrors (h : t.Consistent) (check : RegexCheck) (owner : String)
    (pattern : Pattern) : t.patternErrors check owner pattern =
      pattern.preorder.flatMap (Recomputed.patternNode check t.declarations owner) := by
  unfold Table.patternErrors
  rw [Expr.flatMap_leaves]
  refine congrArg (pattern.preorder.flatMap ·) (funext fun node => ?_)
  cases node with
  | leaf value =>
    cases value with
    | ref name => simp only [patternLeafErrors, Recomputed.patternNode, h.tokens]
    | regex body =>
      simp only [patternLeafErrors, Recomputed.patternNode]
      cases check body <;> rfl
    | _ => rfl
  | _ => rfl

theorem ruleErrors (h : t.Consistent) (check : RegexCheck) (owner : String) (rule : Rule) :
    t.ruleErrors check owner rule =
      rule.preorder.flatMap (Recomputed.ruleNode check t.declarations owner) := by
  unfold Table.ruleErrors
  rw [Expr.flatMap_leaves]
  refine congrArg (rule.preorder.flatMap ·) (funext fun node => ?_)
  cases node with
  | leaf value =>
    cases value with
    | ref name => simp only [ruleLeafErrors, Recomputed.ruleNode, h.hasRule]
    | token pattern => exact h.patternErrors check owner pattern
  | _ => rfl

theorem resolveWith (h : t.Consistent) (check : RegexCheck) :
    t.resolveWith check = Recomputed.errors check t.declarations := by
  unfold Table.resolveWith Recomputed.errors
  rw [h.conflicts, h.main?_isNone]
  have hinside : t.declarationErrors check = Recomputed.insideErrors check t.declarations := by
    funext d
    cases d with
    | token name pattern => exact h.patternErrors check _ pattern
    | rule name body => exact h.ruleErrors check _ body
    | main name body => exact h.ruleErrors check _ body
    | skip strategy body => exact h.ruleErrors check _ body
  rw [hinside]
  cases t.declarations.any isMain <;> rfl

end Consistent

/-- Whatever steps a table has taken and whatever the regex engine takes, its errors are those of
its declarations. -/
theorem resolve_run (check : RegexCheck) (steps : List Step) :
    (run steps).resolveWith check = Recomputed.errors check (run steps).declarations :=
  have hconsistent : (run steps).Consistent :=
    invariant_run Consistent.empty (fun _ d h => h.declare d) steps
  hconsistent.resolveWith check

end Table
end GrammarText
