/-
What the errors of a table say.  Names are written without line breaks, so the message of an error
is one line, unless it quotes what the regex engine says of a regex.
-/
import GrammarText.Proofs.Compilation
import GrammarText.Proofs.Table.Resolution

namespace GrammarText

/-- No line of the text ends before the text does. -/
def OneLine (text : String) : Prop :=
  '\n' ∉ text.toList

instance (text : String) : Decidable (OneLine text) :=
  inferInstanceAs (Decidable ('\n' ∉ text.toList))

theorem OneLine.append {a b : String} (ha : OneLine a) (hb : OneLine b) : OneLine (a ++ b) := by
  unfold OneLine
  rw [String.toList_append, List.mem_append]
  exact not_or.mpr ⟨ha, hb⟩

theorem ReadsAs.oneLine {make : String → Token} (hmake : Lexed.Names make) {name : String}
    (h : ReadsAs name (make name)) : OneLine name := by
  have hreading := (Lexed.tokenize_eq_iff name [make name]).mp h
  obtain ⟨c, more, hname, hc, hmore⟩ := Lexed.name_of_reading_eq hmake hreading
  unfold OneLine
  rw [hname, List.mem_cons]
  rintro (rfl | hmem)
  · have hblank := congrArg Match.fragment (hc [])
    cases hblank
  · cases hmore _ hmem

namespace Expr

variable {Leaf : Type} {P : Leaf → Prop} {e node : Expr Leaf}

theorem Canonical.leaf_of {value : Leaf} (h : Canonical P (.leaf value)) : P value := by
  cases h with
  | leaf spelled => exact spelled

/-- Every node of a canonical tree is canonical. -/
theorem Canonical.of_mem_preorder (h : Canonical P e) (hnode : node ∈ e.preorder) :
    Canonical P node := by
  induction h with
  | leaf spelled =>
    rw [preorder, List.mem_singleton] at hnode
    rw [hnode]
    exact .leaf spelled
  | sequence two parts ih =>
    rw [preorder, preorderList_eq, List.mem_cons, List.mem_flatMap] at hnode
    rcases hnode with rfl | ⟨item, hitem, hnode⟩
    · exact .sequence two parts
    · exact ih item hitem hnode
  | choice two parts ih =>
    rw [preorder, preorderList_eq, List.mem_cons, List.mem_flatMap] at hnode
    rcases hnode with rfl | ⟨item, hitem, hnode⟩
    · exact .choice two parts
    · exact ih item hitem hnode
  | optional part ih =>
    rw [preorder, List.mem_cons] at hnode
    rcases hnode with rfl | hnode
    · exact .optional part
    · exact ih hnode
  | repeated bounds part ih =>
    rw [preorder, List.mem_cons] at hnode
    rcases hnode with rfl | hnode
    · exact .repeated bounds part
    · exact ih hnode
  | separated part between ihpart ihbetween =>
    rw [preorder, List.mem_cons, List.mem_append] at hnode
    rcases hnode with rfl | hnode | hnode
    · exact .separated part between
    · exact ihpart hnode
    · exact ihbetween hnode

theorem Canonical.of_mem_leaves {value : Leaf} (h : Canonical P e) (hvalue : value ∈ e.leaves) :
    P value := by
  unfold leaves at hvalue
  obtain ⟨node, hnode, hleaf⟩ := List.mem_filterMap.mp hvalue
  rw [walk_eq] at hnode
  cases node with
  | leaf other =>
    cases hleaf
    exact (h.of_mem_preorder hnode).leaf_of
  | _ => cases hleaf

end Expr

namespace ResolveError

/-- The message is one line unless it is about a regex.  What is wrong with a regex is told by the
regex engine, at whatever length. -/
def IsPlain (e : ResolveError) : Prop :=
  (∀ body reason, e ≠ .invalidRegex body reason) → OneLine e.message

theorem IsPlain.line {e : ResolveError} (h : OneLine e.message) : e.IsPlain :=
  fun _ => h

theorem isPlain_invalidRegex (body reason : String) : (invalidRegex body reason).IsPlain :=
  fun hother => absurd rfl (hother body reason)

/-- A message about a name. -/
theorem oneLine_about {before name after : String} (hbefore : OneLine before)
    (hname : OneLine name) (hafter : OneLine after) : OneLine (before ++ name ++ after) :=
  (hbefore.append hname).append hafter

end ResolveError

namespace Table

open ResolveError

variable {t : Table} {check : RegexCheck} {owner : String} {e : ResolveError}

theorem patternErrors_isPlain {pattern : Pattern} (h : pattern.IsCanonical)
    (howner : OneLine owner) (he : e ∈ t.patternErrors check owner pattern) : e.IsPlain := by
  obtain ⟨leaf, hleaf, he⟩ := List.mem_flatMap.mp he
  have hcanonical := h.of_mem_leaves hleaf
  unfold patternLeafErrors at he
  split at he
  · rename_i name
    split at he
    · cases he
    · rw [List.mem_singleton.mp he]
      have hname : OneLine name := ReadsAs.oneLine Lexed.names_tokenName hcanonical
      exact .line ((oneLine_about (by decide) hname (by decide)).append howner)
  · rename_i body
    obtain ⟨reason, -, rfl⟩ := Option.map_eq_some_iff.mp (Option.mem_toList.mp he)
    exact isPlain_invalidRegex body reason
  · cases he

theorem ruleErrors_isPlain {rule : Rule} (h : rule.IsCanonical) (howner : OneLine owner)
    (he : e ∈ t.ruleErrors check owner rule) : e.IsPlain := by
  obtain ⟨leaf, hleaf, he⟩ := List.mem_flatMap.mp he
  have hcanonical := h.of_mem_leaves hleaf
  cases leaf with
  | ref name =>
    unfold ruleLeafErrors at he
    simp only at he
    split at he
    · cases he
    · rw [List.mem_singleton.mp he]
      have hname : OneLine name := ReadsAs.oneLine Lexed.names_ruleName hcanonical
      exact .line ((oneLine_about (by decide) hname (by decide)).append howner)
  | token pattern =>
    cases pattern with
    | leaf leaf => exact patternErrors_isPlain (.leaf hcanonical) howner he
    | _ => exact hcanonical.elim

/-- The declarations of a table that is read from a source: those that the source spells and the
builtin ones. -/
def IsRead (d : Declaration) : Prop :=
  d.IsCanonical ∨ ∃ b, d = builtinDeclaration b

theorem declarationErrors_isPlain {d : Declaration} (h : IsRead d)
    (he : e ∈ t.declarationErrors check d) : e.IsPlain := by
  rcases h with h | ⟨b, rfl⟩
  · cases d with
    | token name pattern =>
      obtain ⟨hname, hpattern⟩ := h
      exact patternErrors_isPlain hpattern ((by decide : OneLine "token ").append
        (hname.oneLine Lexed.names_tokenName)) he
    | rule name body =>
      obtain ⟨hname, hbody⟩ := h
      exact ruleErrors_isPlain hbody ((by decide : OneLine "rule ").append
        (hname.oneLine Lexed.names_ruleName)) he
    | main name body =>
      cases name with
      | none => exact ruleErrors_isPlain h (by decide : OneLine "$main") he
      | some name =>
        obtain ⟨hname, hbody⟩ := h
        exact ruleErrors_isPlain hbody ((by decide : OneLine "$main ").append
          (hname.oneLine Lexed.names_ruleName)) he
    | skip strategy body => exact ruleErrors_isPlain h (by decide : OneLine "$skip") he
  · obtain ⟨leaf, hleaf, he⟩ := List.mem_flatMap.mp he
    unfold Expr.leaves at hleaf
    rw [Expr.walk_eq, Expr.preorder] at hleaf
    rw [List.mem_singleton.mp hleaf] at he
    cases he

theorem conflict?_isPlain {earlier : List Declaration} {d : Declaration} (h : IsRead d)
    (he : Recomputed.conflict? earlier d = some e) : e.IsPlain := by
  cases d with
  | token name pattern =>
    have hname : OneLine name := by
      rcases h with h | ⟨b, hb⟩
      · exact ReadsAs.oneLine Lexed.names_tokenName h.1
      · cases hb
        cases b <;> decide
    simp only [Recomputed.conflict?] at he
    split at he
    · cases he
      exact .line (oneLine_about (by decide) hname (by decide))
    · cases he
  | rule name body =>
    have hname : OneLine name := by
      rcases h with h | ⟨b, hb⟩
      · exact ReadsAs.oneLine Lexed.names_ruleName h.1
      · cases hb
    obtain ⟨viaMain, -, rfl⟩ := Option.map_eq_some_iff.mp he
    cases viaMain with
    | false => exact .line (oneLine_about (by decide) hname (by decide))
    | true => exact .line (oneLine_about (by decide) hname (by decide))
  | main name body =>
    simp only [Recomputed.conflict?] at he
    split at he
    · cases he
      exact .line (by decide)
    · obtain ⟨name, rfl, he⟩ := Option.bind_eq_some_iff.mp he
      obtain ⟨holder, -, rfl⟩ := Option.map_eq_some_iff.mp he
      rcases h with h | ⟨b, hb⟩
      · have hname : OneLine name := ReadsAs.oneLine Lexed.names_ruleName h.1
        exact .line (oneLine_about (by decide) hname (by decide))
      · cases hb
  | skip strategy body =>
    simp only [Recomputed.conflict?] at he
    split at he
    · cases he
      exact .line (by decide)
    · cases he

theorem conflicts_isPlain {earlier declarations : List Declaration}
    (h : ∀ d ∈ declarations, IsRead d) (he : e ∈ Recomputed.conflicts earlier declarations) :
    e.IsPlain := by
  induction declarations generalizing earlier with
  | nil => cases he
  | cons d rest ih =>
    rcases List.mem_append.mp he with he | he
    · exact conflict?_isPlain (h d (List.mem_cons_self ..)) (Option.mem_toList.mp he)
    · exact ih (fun d' hd' => h d' (List.mem_cons_of_mem _ hd')) he

end Table

/-- A table that comes of a source is consistent, and it has what the source spells and the builtin
declarations. -/
theorem compileWith_isRead {withBuiltins : Bool} {source : String} {t : Table}
    (h : compileWith withBuiltins source = .ok t) :
    t.Consistent ∧ ∀ d ∈ t.declarations, Table.IsRead d := by
  obtain ⟨-, ht⟩ := compileWith_eq_ok.mp h
  have hregistered : (Table.empty.register (parseSource source)).Consistent :=
    Table.invariant_declareAll (fun _ d h => h.declare d) .empty _
  have hcanonical : ∀ d ∈ (Table.empty.register (parseSource source)).declarations,
      Table.IsRead d := by
    intro d hd
    unfold Table.register at hd
    rw [Table.declareAll_declarations] at hd
    obtain ⟨spanned, hspanned, rfl⟩ := List.mem_map.mp hd
    exact .inl (ParsedSource.canonical_of_mem hspanned)
  rw [ht]
  split
  · rw [Table.registerBuiltins_eq]
    refine ⟨Table.invariant_declareAll (fun _ d h => h.declare d) hregistered _, fun d hd => ?_⟩
    rw [Table.declareAll_declarations, List.mem_append] at hd
    rcases hd with hd | hd
    · exact hcanonical d hd
    · obtain ⟨b, -, rfl⟩ := List.mem_map.mp hd
      exact .inr ⟨b, rfl⟩
  · exact ⟨hregistered, hcanonical⟩

/-- Of the errors of a table that comes of a source, all are told in one line but those about
regexes. -/
theorem resolveWith_isPlain {withBuiltins : Bool} {source : String} {t : Table}
    (h : compileWith withBuiltins source = .ok t) {check : RegexCheck} {e : ResolveError}
    (he : e ∈ t.resolveWith check) : e.IsPlain := by
  obtain ⟨hconsistent, hread⟩ := compileWith_isRead h
  unfold Table.resolveWith at he
  rw [hconsistent.conflicts, List.mem_append, List.mem_append] at he
  rcases he with (he | he) | he
  · exact Table.conflicts_isPlain hread he
  · split at he
    · rw [List.mem_singleton.mp he]
      exact .line (by decide)
    · cases he
  · obtain ⟨d, hd, he⟩ := List.mem_flatMap.mp he
    exact Table.declarationErrors_isPlain (hread d hd) he

end GrammarText
