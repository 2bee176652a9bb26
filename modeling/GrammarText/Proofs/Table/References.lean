/-
The references in a declaration.  A rule refers to rules at its leaves and to tokens at the leaves
of the patterns that stand at its leaves, so a reference has a place in the rule and one in the
pattern.  Resolution walks over the rule, and over a pattern where it meets one.  It asks for every
reference once and in the order of the places, which is the order of the names in the text.
-/
import GrammarText.Proofs.Expr.Leaves
import GrammarText.Proofs.Expr.Places
import GrammarText.Proofs.Recovery.Single
import GrammarText.Table.Resolution

namespace GrammarText

/-- A name in the place of what it names. -/
inductive Reference where
  | token (name : String)
  | rule (name : String)
  deriving Repr, DecidableEq

/-- The token that a reference is read from. -/
def Reference.spelled : Reference → Token
  | token name => .tokenName name
  | rule name => .ruleName name

def PatternLeaf.reference? : PatternLeaf → Option Reference
  | ref name => some (.token name)
  | _ => none

/-- The references at the leaves of a pattern. -/
def Pattern.references (pattern : Pattern) : List Reference :=
  pattern.leaves.filterMap PatternLeaf.reference?

/-- The pattern that a leaf asks for. -/
def RuleLeaf.token? : RuleLeaf → Option Pattern
  | token pattern => some pattern
  | ref _ => none

def RuleLeaf.references : RuleLeaf → List Reference
  | ref name => [.rule name]
  | token pattern => Pattern.references pattern

namespace Declaration

/-- The tree of a declaration.  The pattern of a token is the only leaf of its tree. -/
def body : Declaration → Rule
  | token _ pattern => .leaf (.token pattern)
  | rule _ body | main _ body | skip _ body => body

def references (d : Declaration) : List Reference :=
  d.body.leaves.flatMap RuleLeaf.references

theorem references_token (name : String) (pattern : Pattern) :
    (token name pattern).references = Pattern.references pattern := by
  rw [references, body, Expr.leaves_leaf, List.flatMap_singleton]
  rfl

/-- A place in the tree, and behind it one in the pattern that stands there, if one does. -/
abbrev Place : Type := List Nat × List Nat

/-- The order of the places in the tree, and within a pattern that of the places in it. -/
def Place.Before (a b : Place) : Prop :=
  a.1 < b.1 ∨ a.1 = b.1 ∧ a.2 < b.2

/-- The reference at a place, if there is one. -/
def reference? (d : Declaration) (place : Place) : Option Reference :=
  match d.body.leafAt? place.1 with
  | some (.ref name) => if place.2 = [] then some (.rule name) else none
  | some (.token pattern) => (pattern.leafAt? place.2).bind PatternLeaf.reference?
  | none => none

/-- The places in the pattern at a leaf of the tree, or the only one at another. -/
def placesBehind : RuleLeaf → List (List Nat)
  | .ref _ => [[]]
  | .token pattern => pattern.places

def places (d : Declaration) : List Place :=
  d.body.places.flatMap fun above =>
    ((d.body.leafAt? above).toList.flatMap placesBehind).map (above, ·)

/-! Every place with a reference, in order. -/

theorem pairwise_places (d : Declaration) : d.places.Pairwise Place.Before := by
  refine List.pairwise_flatMap.mpr ⟨fun above _ => ?_, ?_⟩
  · have hbehind : ((d.body.leafAt? above).toList.flatMap placesBehind).Pairwise (· < ·) := by
      match d.body.leafAt? above with
      | none => exact .nil
      | some (.ref _) => exact List.pairwise_singleton ..
      | some (.token pattern) =>
        rw [Option.toList_some, List.flatMap_singleton]
        exact Expr.pairwise_places pattern
    exact List.pairwise_map.mpr (hbehind.imp fun h => .inr ⟨rfl, h⟩)
  · refine (Expr.pairwise_places d.body).imp fun h a ha b hb => ?_
    obtain ⟨_, -, rfl⟩ := List.mem_map.mp ha
    obtain ⟨_, -, rfl⟩ := List.mem_map.mp hb
    exact .inl h

theorem mem_places_of_reference? {d : Declaration} {place : Place}
    (h : (d.reference? place).isSome = true) : place ∈ d.places := by
  obtain ⟨above, below⟩ := place
  unfold reference? at h
  cases hleaf : d.body.leafAt? above with
  | none =>
    simp only [hleaf] at h
    cases h
  | some leaf =>
    refine List.mem_flatMap.mpr ⟨above, Expr.mem_places_of_leafAt? hleaf, List.mem_map_of_mem ?_⟩
    rw [hleaf, Option.toList_some, List.flatMap_singleton]
    simp only [hleaf] at h
    cases leaf with
    | ref name =>
      simp only at h
      split at h
      · exact List.mem_singleton.mpr ‹_›
      · cases h
    | token pattern =>
      obtain ⟨r, hr⟩ := Option.isSome_iff_exists.mp h
      obtain ⟨value, hvalue, -⟩ := Option.bind_eq_some_iff.mp hr
      exact Expr.mem_places_of_leafAt? hvalue

theorem filterMap_placesBehind {d : Declaration} {above : List Nat} {leaf : RuleLeaf}
    (h : d.body.leafAt? above = some leaf) :
    ((placesBehind leaf).map (above, ·)).filterMap d.reference? = leaf.references := by
  rw [List.filterMap_map]
  cases leaf with
  | ref name =>
    have hname : d.reference? (above, []) = some (.rule name) := by
      unfold reference?
      simp only [h, if_true]
    exact List.filterMap_cons_some hname
  | token pattern =>
    have hcomp : d.reference? ∘ (above, ·) =
        fun below => (pattern.leafAt? below).bind PatternLeaf.reference? := by
      funext below
      simp only [Function.comp, reference?, h]
    rw [hcomp, placesBehind, ← List.filterMap_filterMap, Expr.filterMap_leafAt?]
    rfl

/-- The references are those at the places, in the order of the places. -/
theorem references_eq (d : Declaration) : d.references = d.places.filterMap d.reference? := by
  rw [references, ← Expr.filterMap_leafAt?, List.filterMap_eq_flatMap_toList, List.flatMap_assoc,
    places, List.filterMap_flatMap]
  refine List.flatMap_congr fun above _ => ?_
  cases hleaf : d.body.leafAt? above with
  | none => rfl
  | some leaf =>
    rw [Option.toList_some, List.flatMap_singleton, List.flatMap_singleton]
    exact (filterMap_placesBehind hleaf).symm

end Declaration

/-! What resolution asks for. -/

/-- Whether an error is about a reference. -/
def ResolveError.isUndefined : ResolveError → Bool
  | undefinedToken _ _ | undefinedRule _ _ => true
  | _ => false

namespace Table

/-- The error of a reference, if the table has nothing of its name. -/
def undefined? (t : Table) (owner : String) : Reference → Option ResolveError
  | .token name => if t.hasToken name then none else some (.undefinedToken name owner)
  | .rule name => if t.hasRule name then none else some (.undefinedRule name owner)

variable (t : Table) (check : RegexCheck) (owner : String)

theorem filter_patternErrors (pattern : Pattern) :
    (t.patternErrors check owner pattern).filter ResolveError.isUndefined =
      (Pattern.references pattern).filterMap (t.undefined? owner) := by
  rw [patternErrors, List.filter_flatMap, Pattern.references, List.filterMap_filterMap,
    List.filterMap_eq_flatMap_toList]
  refine List.flatMap_congr fun leaf _ => ?_
  cases leaf with
  | ref name =>
    simp only [patternLeafErrors, PatternLeaf.reference?, Option.bind_some, undefined?]
    split <;> rfl
  | regex body =>
    show (((check body).map (ResolveError.invalidRegex body)).toList).filter _ = []
    cases check body <;> rfl
  | _ => rfl

theorem filter_ruleErrors (rule : Rule) :
    (t.ruleErrors check owner rule).filter ResolveError.isUndefined =
      (rule.leaves.flatMap RuleLeaf.references).filterMap (t.undefined? owner) := by
  rw [ruleErrors, List.filter_flatMap, List.filterMap_flatMap]
  refine List.flatMap_congr fun leaf _ => ?_
  cases leaf with
  | ref name =>
    cases hname : t.hasRule name <;>
      simp [ruleLeafErrors, RuleLeaf.references, undefined?, ResolveError.isUndefined, hname]
  | token pattern => exact t.filter_patternErrors check owner pattern

/-- The errors about references are those of the references in a declaration, in their order. -/
theorem filter_declarationErrors (d : Declaration) :
    (t.declarationErrors check d).filter ResolveError.isUndefined =
      d.references.filterMap (t.undefined? d.describe) := by
  cases d with
  | token name pattern =>
    rw [Declaration.references_token]
    exact t.filter_patternErrors check _ pattern
  | rule name body => exact t.filter_ruleErrors check _ body
  | main name body => exact t.filter_ruleErrors check _ body
  | skip strategy body => exact t.filter_ruleErrors check _ body

/-- Outside of declarations no error is about a reference. -/
theorem filter_resolveWith : (t.resolveWith check).filter ResolveError.isUndefined =
    t.declarations.flatMap fun d => d.references.filterMap (t.undefined? d.describe) := by
  have hconflicts : (t.conflicts.map ResolveError.ofConflict).filter
      ResolveError.isUndefined = [] := by
    refine List.filter_eq_nil_iff.mpr fun e he => ?_
    obtain ⟨c, -, rfl⟩ := List.mem_map.mp he
    cases c <;> simp [ResolveError.ofConflict, ResolveError.isUndefined]
  have hmain : (if t.main?.isNone then [ResolveError.missingMain] else []).filter
      ResolveError.isUndefined = [] := by
    split <;> rfl
  rw [resolveWith, List.filter_append, List.filter_append, hconflicts, hmain, List.nil_append,
    List.nil_append, List.filter_flatMap]
  exact List.flatMap_congr fun d _ => t.filter_declarationErrors check d

end Table

/-! The order of the names in a text. -/

namespace Grammar

section

variable {Leaf : Type} {Atom : List Token → Leaf → List Token → Prop}
  {names : Leaf → List Token}

theorem Bounds.sublist {tokens rest : List Token} {q : Quantifier} (h : Bounds tokens q rest) :
    rest.Sublist tokens := by
  cases h with
  | optional | zeroOrMore | oneOrMore => exact List.sublist_cons_self ..
  | exactly => exact List.sublist_append_right [_, _, _] rest
  | atLeast => exact List.sublist_append_right [_, _, _, _] rest
  | between => exact List.sublist_append_right [_, _, _, _, _] rest

theorem Run.sublist {tokens rest : List Token} {texts : List String} (h : Run tokens texts rest) :
    rest.Sublist tokens := by
  induction h with
  | last => exact List.sublist_cons_self ..
  | more _ ih => exact .cons _ (.cons _ ih)

/-- The names at a leaf stand, in their order, in front of the rest. -/
def NamesAtoms (Atom : List Token → Leaf → List Token → Prop) (names : Leaf → List Token) : Prop :=
  ∀ ⦃tokens leaf rest⦄, Atom tokens leaf rest → (names leaf ++ rest).Sublist tokens

mutual

theorem Term.names_sublist (hatom : NamesAtoms Atom names) :
    ∀ {tokens e rest}, Term Atom tokens e rest →
      (e.leaves.flatMap names ++ rest).Sublist tokens
  | _, _, _, .atom read => by
      rw [Expr.leaves_leaf, List.flatMap_singleton]
      exact hatom read
  | _, _, _, .group inside => by
      rw [Expr.leaves_choiceOf]
      exact .cons _ (((List.sublist_cons_self ..).append_left _).trans
        (inside.names_sublist hatom))

/-- The names in the separators stand behind those of what they take in. -/
theorem Separators.names_sublist (hatom : NamesAtoms Atom names) :
    ∀ {child tokens e rest}, Separators Atom child tokens e rest →
      ∃ more, e.leaves = child.leaves ++ more ∧ (more.flatMap names ++ rest).Sublist tokens
  | _, _, _, _, .done => ⟨[], (List.append_nil _).symm, .refl _⟩
  | child, _, _, _, .more read bounds others => by
      obtain ⟨more, hleaves, hmore⟩ := others.names_sublist hatom
      rw [Expr.leaves_separated, List.append_assoc] at hleaves
      refine ⟨_, hleaves, .cons _ ?_⟩
      rw [List.flatMap_append, List.append_assoc]
      exact ((hmore.trans bounds.sublist).append_left _).trans (read.names_sublist hatom)

theorem Element.names_sublist (hatom : NamesAtoms Atom names) :
    ∀ {tokens e rest}, Element Atom tokens e rest →
      (e.leaves.flatMap names ++ rest).Sublist tokens
  | _, _, _, .bare read separators => by
      obtain ⟨more, hleaves, hmore⟩ := separators.names_sublist hatom
      rw [hleaves, List.flatMap_append, List.append_assoc]
      exact (hmore.append_left _).trans (read.names_sublist hatom)
  | _, _, _, .suffix read separators bounds => by
      obtain ⟨more, hleaves, hmore⟩ := separators.names_sublist hatom
      rw [Expr.leaves_quantified, hleaves, List.flatMap_append, List.append_assoc]
      exact ((((bounds.sublist).append_left _).trans hmore).append_left _).trans
        (read.names_sublist hatom)

theorem Elements.names_sublist (hatom : NamesAtoms Atom names) :
    ∀ {tokens items rest}, Elements Atom tokens items rest →
      ((items.flatMap Expr.leaves).flatMap names ++ rest).Sublist tokens
  | _, _, _, .one read => by
      rw [List.flatMap_singleton]
      exact read.names_sublist hatom
  | _, _, _, .more read others => by
      rw [List.flatMap_cons, List.flatMap_append, List.append_assoc]
      exact ((others.names_sublist hatom).append_left _).trans (read.names_sublist hatom)

theorem Alternatives.names_sublist (hatom : NamesAtoms Atom names) :
    ∀ {tokens items rest}, Alternatives Atom tokens items rest →
      ((items.flatMap Expr.leaves).flatMap names ++ rest).Sublist tokens
  | _, _, _, .one read => by
      rw [List.flatMap_singleton, Expr.leaves_sequenceOf]
      exact read.names_sublist hatom
  | _, _, _, .more read others => by
      rw [List.flatMap_cons, Expr.leaves_sequenceOf, List.flatMap_append, List.append_assoc]
      exact (((others.names_sublist hatom).cons _).append_left _).trans
        (read.names_sublist hatom)

end

theorem Expression.names_sublist (hatom : NamesAtoms Atom names) {tokens rest : List Token}
    {e : Expr Leaf} (h : Expression Atom tokens e rest) :
    (e.leaves.flatMap names ++ rest).Sublist tokens := by
  obtain ⟨items, hitems, rfl⟩ := h
  rw [Expr.leaves_choiceOf]
  exact hitems.names_sublist hatom

end

/-- The name of a leaf that is a reference. -/
theorem PatternAtom.names_sublist {tokens rest : List Token} {leaf : PatternLeaf}
    (h : PatternAtom tokens leaf rest) :
    (leaf.reference?.toList.map Reference.spelled ++ rest).Sublist tokens := by
  cases h with
  | ref => exact .refl _
  | regex => exact List.sublist_cons_self ..
  | identifier => exact List.sublist_append_right [_, _] rest
  | number => exact List.sublist_append_right [_, _, _] rest
  | keyword => exact List.sublist_append_right [_, _, _] rest
  | keywordChoice run => exact run.sublist.trans (List.sublist_append_right [_, _, _] _)
  | @plain _ _ texts run _ =>
    have hnone : (PatternLeaf.ofPlain texts).reference? = none := by
      unfold PatternLeaf.ofPlain
      split <;> rfl
    rw [hnone]
    exact run.sublist
  | @keywords _ _ texts run _ =>
    have hnone : (PatternLeaf.ofKeywords texts).reference? = none := by
      unfold PatternLeaf.ofKeywords
      split <;> rfl
    rw [hnone]
    exact run.sublist

theorem RuleAtom.names_sublist {tokens rest : List Token} {leaf : RuleLeaf}
    (h : RuleAtom tokens leaf rest) :
    (leaf.references.map Reference.spelled ++ rest).Sublist tokens := by
  cases h with
  | ref => exact .refl _
  | @token _ _ leaf atom =>
    have hreferences : (RuleLeaf.token (.leaf leaf)).references = leaf.reference?.toList := by
      rw [RuleLeaf.references, Pattern.references, Expr.leaves_leaf,
        List.filterMap_eq_flatMap_toList, List.flatMap_singleton]
    rw [hreferences]
    exact atom.names_sublist

theorem Strategy.sublist {words rest : List Token} {strategy : SkipStrategy}
    (h : Strategy words strategy rest) : rest.Sublist words := by
  cases h with
  | default => exact .refl _
  | before | after => exact List.sublist_cons_self ..
  | beforeGreedy | beforeLazy | afterGreedy | afterLazy =>
    exact List.sublist_append_right [_, _] rest

/-- The names in a declaration that are references stand in its text in the order of the tree. -/
theorem Declares.references_sublist {tokens rest : List Token} {d : Declaration}
    (h : Declares tokens d rest) : (d.references.map Reference.spelled ++ rest).Sublist tokens := by
  have hsemicolon : ∀ {names tokens : List Token},
      (names ++ Token.mark .semicolon :: rest).Sublist tokens → (names ++ rest).Sublist tokens :=
    ((List.sublist_cons_self ..).append_left _).trans
  have hrule : ∀ {tokens rule}, Expression RuleAtom tokens rule (.mark .semicolon :: rest) →
      ((rule.leaves.flatMap RuleLeaf.references).map Reference.spelled ++ rest).Sublist
        tokens := by
    intro tokens rule body
    rw [List.map_flatMap]
    exact hsemicolon (body.names_sublist fun _ _ _ atom => atom.names_sublist)
  cases h with
  | token body =>
    rw [Declaration.references_token, Pattern.references, List.filterMap_eq_flatMap_toList,
      List.map_flatMap]
    exact (hsemicolon (body.names_sublist fun _ _ _ atom => atom.names_sublist)).trans
      (List.sublist_append_right [_, _] _)
  | rule body => exact (hrule body).trans (List.sublist_append_right [_, _] _)
  | main body => exact (hrule body).trans (List.sublist_append_right [_, _, _] _)
  | mainNamed body => exact (hrule body).trans (List.sublist_append_right [_, _, _, _] _)
  | skip chosen body =>
    exact ((hrule body).trans ((List.sublist_cons_self ..).trans chosen.sublist)).trans
      (List.sublist_append_right [_, _] _)

end Grammar

theorem ParsedSource.references_sublist {source : String} {d : Spanned Declaration}
    (h : parseDeclaration source = .ok d) :
    (d.node.references.map Reference.spelled).Sublist (nodes (tokenize source).tokens) := by
  have hdeclares := (Grammar.succeeds_declaration.mp (parseDeclaration_eq_ok.mp h).2).2.1
  have hsublist := hdeclares.references_sublist
  rwa [nodes_nil, List.append_nil] at hsublist

namespace Expr

theorem tokenLeaves_lists (rule : Rule) :
    rule.Lists (fun node => ∃ pattern, node = .leaf (.token pattern))
      (rule.tokenLeaves.map fun pattern => .leaf (.token pattern)) := by
  have htokens : rule.tokenLeaves.map (fun pattern => .leaf (.token pattern)) =
      rule.walk.filter fun node => (node.leaf?.bind RuleLeaf.token?).isSome := by
    rw [tokenLeaves, leaves, List.filterMap_filterMap, List.map_filterMap,
      ← List.filterMap_eq_filter]
    congr 1
    funext node
    cases node with
    | leaf value => cases value <;> rfl
    | _ => rfl
  rw [htokens]
  refine (walk_lists rule).filter fun node => ?_
  cases node with
  | leaf value => cases value <;> simp [leaf?, RuleLeaf.token?]
  | _ => simp [leaf?]

/-- The walk, which ends after as many rounds as there are nodes, is a node followed by the walks of
its parts.  So it has the node of every place once, before what is below it, and the parts from
left to right.  The token leaves of a rule are had from it in the same order, and so are all
references that resolution asks for in a declaration.  Where the declaration is read from a text,
that is the order of the names in the text. -/
theorem walk_in_order :
    (∀ (Leaf : Type) (e : Expr Leaf), e.walk = e :: e.children.flatMap walk ∧
      e.walk.length = e.size ∧ e.Lists (fun _ => True) e.walk) ∧
    (∀ rule : Rule, rule.Lists (fun node => ∃ pattern, node = .leaf (.token pattern))
      (rule.tokenLeaves.map fun pattern => .leaf (.token pattern))) ∧
    (∀ d : Declaration, ∃ places : List Declaration.Place,
      places.Pairwise Declaration.Place.Before ∧
      (∀ place, (d.reference? place).isSome = true → place ∈ places) ∧
      d.references = places.filterMap d.reference?) ∧
    (∀ (t : Table) (check : RegexCheck) (d : Declaration),
      (t.declarationErrors check d).filter ResolveError.isUndefined =
        d.references.filterMap (t.undefined? d.describe)) ∧
    (∀ (t : Table) (check : RegexCheck), (t.resolveWith check).filter ResolveError.isUndefined =
      t.declarations.flatMap fun d => d.references.filterMap (t.undefined? d.describe)) ∧
    ∀ source d, parseDeclaration source = .ok d →
      (d.node.references.map Reference.spelled).Sublist (nodes (tokenize source).tokens) := by
  refine ⟨fun Leaf e => ⟨walk_cons e, ?_, walk_lists e⟩, tokenLeaves_lists, fun d => ?_,
    fun t check d => t.filter_declarationErrors check d,
    fun t check => t.filter_resolveWith check,
    fun source d => ParsedSource.references_sublist⟩
  · rw [walk_eq, length_preorder]
  · exact ⟨d.places, d.pairwise_places, fun place => Declaration.mem_places_of_reference?,
      d.references_eq⟩

/-- A reference in a separator stands behind that in what is separated. -/
theorem walk_in_order_separated :
    ∃ d, parseDeclaration "list : entry % (',' Space)* name ;" = .ok d ∧
      d.node.references = [.rule "entry", .token "Space", .rule "name"] ∧
      [Token.ruleName "entry", .tokenName "Space", .ruleName "name"].Sublist
        (nodes (tokenize "list : entry % (',' Space)* name ;").tokens) := by
  have hread : (parseDeclaration "list : entry % (',' Space)* name ;").toOption.map
      (·.node.references) = some [.rule "entry", .token "Space", .rule "name"] := by
    decide +kernel
  cases hparse : parseDeclaration "list : entry % (',' Space)* name ;" with
  | error e =>
    rw [hparse] at hread
    cases hread
  | ok d =>
    rw [hparse] at hread
    have hreferences : d.node.references = _ := Option.some.inj hread
    have hsublist := walk_in_order.2.2.2.2.2 _ d hparse
    rw [hreferences] at hsublist
    exact ⟨d, rfl, hreferences, hsublist⟩

end Expr
end GrammarText
