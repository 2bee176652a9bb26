/-
Lookups as functions of the declarations.  A table keeps places in its indexes and looks up what has
been declared there.  Whatever steps it has taken, its declarations are those of the steps in their
order, every place holds a declaration of the kind and the name it stands for, and a lookup finds
what a search through the declarations from the first one on finds.
-/
import GrammarText.Proofs.Table.Resolution
import Mathlib.Data.List.Induction

namespace GrammarText

namespace Declaration

/-- The pattern, if it declares the token of a name. -/
def tokenNamed? (name : String) : Declaration → Option Pattern
  | token other pattern => if other = name then some pattern else none
  | _ => none

/-- The body, if it is a rule or a main rule of a name. -/
def ruleNamed? (name : String) : Declaration → Option Rule
  | rule other body => if other = name then some body else none
  | main other body => if other = some name then some body else none
  | _ => none

def mainRule? : Declaration → Option (Option String × Rule)
  | main name body => some (name, body)
  | _ => none

def skipRule? : Declaration → Option (SkipStrategy × Rule)
  | skip strategy body => some (strategy, body)
  | _ => none

/-- All declarations but the main rules behind the first, or behind one that came before. -/
def firstMainOnly : (mainSeen : Bool) → List Declaration → List Declaration
  | _, [] => []
  | mainSeen, d :: rest =>
      (if d.isMain && mainSeen then [] else [d]) ++ firstMainOnly (mainSeen || d.isMain) rest

theorem firstMainOnly_append (mainSeen : Bool) (earlier later : List Declaration) :
    firstMainOnly mainSeen (earlier ++ later) =
      firstMainOnly mainSeen earlier ++ firstMainOnly (mainSeen || earlier.any isMain) later := by
  induction earlier generalizing mainSeen with
  | nil => simp [firstMainOnly]
  | cons d rest ih => simp [firstMainOnly, ih, Bool.or_assoc]

end Declaration

namespace Table

open Declaration

/-- What a step declares behind earlier declarations. -/
def Step.declares (earlier : List Declaration) : Step → List Declaration
  | .declare d => [d]
  | .compile source => (parseSource source).declarations.map Spanned.node
  | .builtins =>
      (Builtin.all.filter fun b => !earlier.any (isTokenOf b.tokenName)).map builtinDeclaration

/-- Everything that steps declare, in order. -/
def declared (steps : List Step) : List Declaration :=
  steps.foldl (fun earlier step => earlier ++ step.declares earlier) []

/-- Every place in an index holds a declaration of the kind and the name it stands for. -/
structure Indexed (t : Table) : Prop where
  tokens : ∀ name place, (name, place) ∈ t.tokens →
    ∃ pattern, t.declarations[place]? = some (.token name pattern)
  rules : ∀ name place, (name, place) ∈ t.rules →
    (∃ body, t.declarations[place]? = some (.rule name body)) ∨
      ∃ body, t.declarations[place]? = some (.main (some name) body)
  main : ∀ place, t.main = some place →
    ∃ name body, t.declarations[place]? = some (.main name body)
  skip : ∀ place, t.skip = some place →
    ∃ strategy body, t.declarations[place]? = some (.skip strategy body)

/-- A table that holds a list of declarations.  Its lookups find the first that fits. -/
structure Describes (t : Table) (history : List Declaration) : Prop extends Indexed t where
  declarations : t.declarations = history
  token : ∀ name, t.token? name = history.findSome? (tokenNamed? name)
  /-- A main rule behind the first does not count. -/
  rule : ∀ name, t.rule? name = (firstMainOnly false history).findSome? (ruleNamed? name)
  mainFound : t.main? = history.findSome? mainRule?
  skipFound : t.skip? = history.findSome? skipRule?
  hasToken : ∀ name, t.hasToken name = (t.token? name).isSome
  hasRule : ∀ name, t.hasRule name = (t.rule? name).isSome

/-- What one table finds, the other finds too. -/
structure KeptBy (t u : Table) : Prop where
  token : ∀ name pattern, t.token? name = some pattern → u.token? name = some pattern
  rule : ∀ name body, t.rule? name = some body → u.rule? name = some body
  main : ∀ found, t.main? = some found → u.main? = some found
  skip : ∀ found, t.skip? = some found → u.skip? = some found

/-! Places. -/

/-- What has been declared stays at its place. -/
theorem getElem?_declare_of_some {t : Table} {place : Nat} {old : Declaration} (d : Declaration)
    (h : t.declarations[place]? = some old) : (t.declare d).declarations[place]? = some old := by
  rw [declare_declarations, List.getElem?_append_left (List.getElem?_eq_some_iff.mp h).1, h]

theorem getElem?_declare_length (t : Table) (d : Declaration) :
    (t.declare d).declarations[t.length]? = some d := by
  rw [declare_declarations]
  exact List.getElem?_concat_length

/-- A declaration that claims a rule name is a rule or a main rule of that name. -/
theorem eq_of_claim? {d : Declaration} {mainSeen viaMain : Bool} {name : String}
    (h : d.claim? mainSeen = some (name, viaMain)) :
    (∃ body, d = .rule name body) ∨ ∃ body, d = .main (some name) body := by
  cases d with
  | token other pattern => cases h
  | skip strategy body => cases h
  | rule other body =>
    cases h
    exact .inl ⟨body, rfl⟩
  | main other body =>
    cases other with
    | none => cases h
    | some other =>
      cases mainSeen with
      | true => cases h
      | false =>
        cases h
        exact .inr ⟨body, rfl⟩

namespace Indexed

variable {t : Table}

theorem empty : Table.empty.Indexed :=
  ⟨nofun, nofun, nofun, nofun⟩

theorem declare (h : t.Indexed) (d : Declaration) : (t.declare d).Indexed where
  tokens name place hmem := by
    rw [declare_tokens, List.mem_append] at hmem
    rcases hmem with hold | hnew
    · obtain ⟨pattern, hat⟩ := h.tokens name place hold
      exact ⟨pattern, getElem?_declare_of_some d hat⟩
    · cases d with
      | token other pattern =>
        simp only at hnew
        split at hnew
        · cases hnew
        · cases List.mem_singleton.mp hnew
          exact ⟨pattern, getElem?_declare_length t _⟩
      | _ => cases hnew
  rules name place hmem := by
    rw [declare_rules, List.mem_append] at hmem
    rcases hmem with hold | hnew
    · exact (h.rules name place hold).imp
        (fun ⟨body, hat⟩ => ⟨body, getElem?_declare_of_some d hat⟩)
        (fun ⟨body, hat⟩ => ⟨body, getElem?_declare_of_some d hat⟩)
    · split at hnew
      · rename_i other viaMain hclaim
        split at hnew
        · cases hnew
        · cases List.mem_singleton.mp hnew
          have hat := getElem?_declare_length t d
          exact (eq_of_claim? hclaim).imp (fun ⟨body, hd⟩ => ⟨body, hd ▸ hat⟩)
            (fun ⟨body, hd⟩ => ⟨body, hd ▸ hat⟩)
      · cases hnew
  main place hmain := by
    rw [declare_main, Option.or_eq_some_iff] at hmain
    rcases hmain with hold | ⟨-, hnew⟩
    · obtain ⟨name, body, hat⟩ := h.main place hold
      exact ⟨name, body, getElem?_declare_of_some d hat⟩
    · obtain ⟨hd, heq⟩ := Option.ite_none_right_eq_some.mp hnew
      cases heq
      cases d with
      | main name body => exact ⟨name, body, getElem?_declare_length t _⟩
      | _ => cases hd
  skip place hskip := by
    rw [declare_skip, Option.or_eq_some_iff] at hskip
    rcases hskip with hold | ⟨-, hnew⟩
    · obtain ⟨strategy, body, hat⟩ := h.skip place hold
      exact ⟨strategy, body, getElem?_declare_of_some d hat⟩
    · obtain ⟨hd, heq⟩ := Option.ite_none_right_eq_some.mp hnew
      cases heq
      cases d with
      | skip strategy body => exact ⟨strategy, body, getElem?_declare_length t _⟩
      | _ => cases hd

end Indexed

/-! Lookups. -/

theorem mem_of_lookup {index : List (String × Nat)} {name : String} {place : Nat}
    (h : index.lookup name = some place) : (name, place) ∈ index := by
  obtain ⟨before, after, rfl, -⟩ := List.lookup_eq_some_iff.mp h
  simp

/-- What `read` makes of the declaration at a place. -/
def found? {α : Type} (t : Table) (read : Declaration → Option α) (slot : Option Nat) : Option α :=
  slot.bind fun place => t.declarations[place]?.bind read

theorem found?_of_at {α : Type} {t : Table} {read : Declaration → Option α} {place : Nat}
    {d : Declaration} (h : t.declarations[place]? = some d) :
    t.found? read (some place) = read d := by
  unfold found?
  rw [Option.bind_some, h, Option.bind_some]

/-- What was found before is found again.  Else a declaration that takes the slot is found. -/
theorem found?_declare {α : Type} {t : Table} {read : Declaration → Option α}
    {slot slot' : Option Nat} {takes : Bool} (d : Declaration)
    (hslot : slot' = slot.or (if takes then some t.length else none))
    (hheld : ∀ place, slot = some place →
      ∃ old value, t.declarations[place]? = some old ∧ read old = some value) :
    (t.declare d).found? read slot' =
      (t.found? read slot).or (if takes then read d else none) := by
  subst hslot
  cases slot with
  | none =>
    cases takes with
    | true => exact found?_of_at (getElem?_declare_length t d)
    | false => rfl
  | some place =>
    obtain ⟨old, value, hat, hread⟩ := hheld place rfl
    rw [Option.some_or, found?_of_at (getElem?_declare_of_some d hat), found?_of_at hat, hread]
    rfl

theorem lookup_tokens_declare (t : Table) (d : Declaration) (name : String) :
    (t.declare d).tokens.lookup name =
      (t.tokens.lookup name).or (if d.isTokenOf name then some t.length else none) := by
  rw [declare_tokens, List.lookup_append]
  cases d with
  | token other pattern =>
    by_cases heq : other = name
    · subst heq
      cases hheld : t.tokens.lookup other <;> simp [hasToken, hheld, isTokenOf]
    · cases hheld : t.hasToken other <;>
        simp [hheld, isTokenOf, heq, lookup_singleton, Ne.symm heq]
  | _ => simp [isTokenOf]

/-- A declaration takes the rule name that it has, unless it is a later main rule. -/
theorem claim?_ruleNamed? (d : Declaration) (mainSeen : Bool) (name : String) :
    (if ((d.claim? mainSeen).toList.lookup name).isSome then ruleNamed? name d else none) =
      if d.isMain && mainSeen then none else ruleNamed? name d := by
  cases d with
  | token other pattern => rfl
  | skip strategy body => rfl
  | rule other body =>
    by_cases heq : other = name
    · simp [claim?, isMain, ruleNamed?, heq]
    · simp [claim?, isMain, ruleNamed?, heq]
  | main other body =>
    cases mainSeen with
    | true => cases other <;> rfl
    | false =>
      cases other with
      | none => rfl
      | some other =>
        by_cases heq : other = name
        · simp [claim?, ruleNamed?, heq]
        · simp [claim?, ruleNamed?, heq]

namespace Indexed

variable {t : Table} {name : String} {place : Nat}

theorem held_token (h : t.Indexed) (hlookup : t.tokens.lookup name = some place) :
    ∃ pattern, t.declarations[place]? = some (.token name pattern) :=
  h.tokens name place (mem_of_lookup hlookup)

theorem held_rule (h : t.Indexed) (hlookup : t.rules.lookup name = some place) :
    ∃ d body, t.declarations[place]? = some d ∧ ruleNamed? name d = some body ∧
      (d = .rule name body ∨ d = .main (some name) body) := by
  rcases h.rules name place (mem_of_lookup hlookup) with ⟨body, hat⟩ | ⟨body, hat⟩
  · exact ⟨_, body, hat, if_pos rfl, .inl rfl⟩
  · exact ⟨_, body, hat, if_pos rfl, .inr rfl⟩

/- Since places are right, no lookup meets a declaration of another kind or name. -/

theorem token?_eq (h : t.Indexed) (name : String) :
    t.token? name = t.found? (tokenNamed? name) (t.tokens.lookup name) := by
  unfold token?
  cases hlookup : t.tokens.lookup name with
  | none => rfl
  | some place =>
    obtain ⟨pattern, hat⟩ := h.held_token hlookup
    rw [found?_of_at hat]
    simp [hat, tokenNamed?]

theorem rule?_eq (h : t.Indexed) (name : String) :
    t.rule? name = t.found? (ruleNamed? name) (t.rules.lookup name) := by
  unfold rule?
  cases hlookup : t.rules.lookup name with
  | none => rfl
  | some place =>
    obtain ⟨d, body, hat, hread, hd⟩ := h.held_rule hlookup
    rw [found?_of_at hat, hread]
    rcases hd with rfl | rfl <;> simp [hat]

theorem main?_eq (h : t.Indexed) : t.main? = t.found? mainRule? t.main := by
  unfold main?
  cases hmain : t.main with
  | none => rfl
  | some place =>
    obtain ⟨name, body, hat⟩ := h.main place hmain
    rw [found?_of_at hat]
    simp [hat, mainRule?]

theorem skip?_eq (h : t.Indexed) : t.skip? = t.found? skipRule? t.skip := by
  unfold skip?
  cases hskip : t.skip with
  | none => rfl
  | some place =>
    obtain ⟨strategy, body, hat⟩ := h.skip place hskip
    rw [found?_of_at hat]
    simp [hat, skipRule?]

theorem hasToken_eq (h : t.Indexed) (name : String) :
    t.hasToken name = (t.token? name).isSome := by
  rw [h.token?_eq, hasToken]
  cases hlookup : t.tokens.lookup name with
  | none => rfl
  | some place =>
    obtain ⟨pattern, hat⟩ := h.held_token hlookup
    rw [found?_of_at hat]
    simp [tokenNamed?]

theorem hasRule_eq (h : t.Indexed) (name : String) :
    t.hasRule name = (t.rule? name).isSome := by
  rw [h.rule?_eq, hasRule]
  cases hlookup : t.rules.lookup name with
  | none => rfl
  | some place =>
    obtain ⟨d, body, hat, hread, -⟩ := h.held_rule hlookup
    rw [found?_of_at hat, hread]
    rfl

/- What a declaration adds to the lookups. -/

theorem declare_token? (h : t.Indexed) (d : Declaration) (name : String) :
    (t.declare d).token? name = (t.token? name).or (tokenNamed? name d) := by
  rw [(h.declare d).token?_eq, h.token?_eq,
    found?_declare d (lookup_tokens_declare t d name) fun place hlookup => ?_]
  · cases d with
    | token other pattern => by_cases heq : other = name <;> simp [isTokenOf, tokenNamed?, heq]
    | _ => rfl
  · obtain ⟨pattern, hat⟩ := h.held_token hlookup
    exact ⟨_, pattern, hat, if_pos rfl⟩

theorem declare_rule? (h : t.Indexed) (hconsistent : t.Consistent) (d : Declaration)
    (name : String) :
    (t.declare d).rule? name = (t.rule? name).or
      (if d.isMain && t.declarations.any isMain then none else ruleNamed? name d) := by
  have hslot : (t.declare d).rules.lookup name = (t.rules.lookup name).or
      (if ((d.claim? (t.declarations.any isMain)).toList.lookup name).isSome then some t.length
        else none) := by
    rw [hconsistent.lookup_declare d name]
    cases (d.claim? (t.declarations.any isMain)).toList.lookup name <;> rfl
  rw [(h.declare d).rule?_eq, h.rule?_eq,
    found?_declare d hslot fun place hlookup => ?_, claim?_ruleNamed?]
  obtain ⟨old, body, hat, hread, -⟩ := h.held_rule hlookup
  exact ⟨old, body, hat, hread⟩

theorem declare_main? (h : t.Indexed) (d : Declaration) :
    (t.declare d).main? = t.main?.or (mainRule? d) := by
  rw [(h.declare d).main?_eq, h.main?_eq,
    found?_declare d (declare_main t d) fun place hmain => ?_]
  · cases d <;> rfl
  · obtain ⟨name, body, hat⟩ := h.main place hmain
    exact ⟨_, _, hat, rfl⟩

theorem declare_skip? (h : t.Indexed) (d : Declaration) :
    (t.declare d).skip? = t.skip?.or (skipRule? d) := by
  rw [(h.declare d).skip?_eq, h.skip?_eq,
    found?_declare d (declare_skip t d) fun place hskip => ?_]
  · cases d <;> rfl
  · obtain ⟨strategy, body, hat⟩ := h.skip place hskip
    exact ⟨_, _, hat, rfl⟩

end Indexed

/-! Every table. -/

namespace Describes

theorem empty : Table.empty.Describes [] :=
  ⟨.empty, rfl, fun _ => rfl, fun _ => rfl, rfl, rfl, fun _ => rfl, fun _ => rfl⟩

theorem declare {t : Table} (h : t.Describes t.declarations) (hconsistent : t.Consistent)
    (d : Declaration) : (t.declare d).Describes (t.declare d).declarations where
  toIndexed := h.toIndexed.declare d
  declarations := rfl
  token name := by
    rw [h.declare_token?, declare_declarations, List.findSome?_append, h.token]
    simp
  rule name := by
    rw [h.declare_rule? hconsistent, declare_declarations, firstMainOnly_append,
      List.findSome?_append, h.rule]
    simp only [firstMainOnly, Bool.false_or, List.append_nil]
    split <;> simp
  mainFound := by
    rw [h.declare_main?, declare_declarations, List.findSome?_append, h.mainFound]
    simp
  skipFound := by
    rw [h.declare_skip?, declare_declarations, List.findSome?_append, h.skipFound]
    simp
  hasToken := (h.toIndexed.declare d).hasToken_eq
  hasRule := (h.toIndexed.declare d).hasRule_eq

end Describes

namespace KeptBy

variable {t u v : Table}

theorem refl (t : Table) : t.KeptBy t :=
  ⟨fun _ _ => id, fun _ _ => id, fun _ => id, fun _ => id⟩

theorem trans (h : t.KeptBy u) (h' : u.KeptBy v) : t.KeptBy v where
  token name pattern hfound := h'.token name pattern (h.token name pattern hfound)
  rule name body hfound := h'.rule name body (h.rule name body hfound)
  main found hfound := h'.main found (h.main found hfound)
  skip found hfound := h'.skip found (h.skip found hfound)

theorem declare (h : t.Indexed) (hconsistent : t.Consistent) (d : Declaration) :
    t.KeptBy (t.declare d) where
  token name pattern hfound := by rw [h.declare_token?, hfound, Option.some_or]
  rule name body hfound := by rw [h.declare_rule? hconsistent, hfound, Option.some_or]
  main found hfound := by rw [h.declare_main?, hfound, Option.some_or]
  skip found hfound := by rw [h.declare_skip?, hfound, Option.some_or]

end KeptBy

/-- The builtins that a step declares are those that no earlier declaration names. -/
theorem apply_declarations {t : Table} (h : t.Consistent) (step : Step) :
    (t.apply step).declarations = t.declarations ++ step.declares t.declarations := by
  cases step with
  | declare d => exact declare_declarations t d
  | compile source => exact declareAll_declarations t _
  | builtins =>
    show t.registerBuiltins.declarations = _
    rw [registerBuiltins_eq, declareAll_declarations, missingBuiltins, Step.declares]
    simp only [h.tokens]

theorem consistent_run (steps : List Step) : (run steps).Consistent :=
  invariant_run Consistent.empty (fun _ d h => h.declare d) steps

theorem run_declarations (steps : List Step) : (run steps).declarations = declared steps := by
  -- The induction is on the last step, since what a step declares depends on those before it.
  induction steps using List.reverseRec with
  | nil => rfl
  | append_singleton steps step ih =>
    unfold run declared
    rw [List.foldl_append, List.foldl_append]
    show ((run steps).apply step).declarations = declared steps ++ step.declares (declared steps)
    rw [apply_declarations (consistent_run steps), ih]

/-- Whatever steps a table has taken, its lookups and its places say what has been declared, and no
later step changes what a lookup has found. -/
theorem describes_run (steps more : List Step) :
    (run steps).Describes (declared steps) ∧ (run steps).KeptBy (run (steps ++ more)) := by
  have hrun : ∀ steps, (run steps).Consistent ∧ (run steps).Describes (run steps).declarations :=
    @invariant_run (fun t => t.Consistent ∧ t.Describes t.declarations) ⟨.empty, .empty⟩
      fun _ d h => ⟨h.1.declare d, h.2.declare h.1 d⟩
  refine ⟨run_declarations steps ▸ (hrun steps).2, ?_⟩
  have hmore := @invariant_steps (fun u => u.Consistent ∧ u.Indexed ∧ (run steps).KeptBy u)
    (fun u d h => ⟨h.1.declare d, h.2.1.declare d, h.2.2.trans (.declare h.2.1 h.1 d)⟩)
    (run steps) ⟨(hrun steps).1, (hrun steps).2.toIndexed, .refl _⟩ more
  unfold run
  rw [List.foldl_append]
  exact hmore.2.2

end Table
end GrammarText
