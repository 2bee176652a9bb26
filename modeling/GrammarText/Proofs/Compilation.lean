/-
A compiled table survives printing.  Its declarations are those that were read, in their order, and
builtins behind them that are not printed.  What is printed is read back as the same declarations,
and the same declarations make the same table.
-/
import GrammarText.Proofs.Printer.Declarations
import GrammarText.Proofs.Recovery.Clean
import GrammarText.Proofs.Table.Registration
import GrammarText.OutputFormat

namespace GrammarText

open GrammarText.Parser GrammarText.Recovery

namespace Recovery

open GrammarText.Declaration

/-- Every token that is parsed is one that a text can have. -/
theorem tokens_allLexed (source : String) :
    Grammar.AllLexed (nodes (tokens source (tokenize source))) := by
  intro t ht
  obtain ⟨u, hu, rfl⟩ := List.mem_map.mp ht
  rcases mem_tokens.mp hu with hu | ⟨e, -, before, after, -, rfl, -⟩
  · exact Grammar.allLexed_tokenize source _ (List.mem_map.mpr ⟨u, hu, rfl⟩)
  · trivial

end Recovery

namespace ParsedSource

open GrammarText.Recovery

/-- Only canonical declarations are read, whatever the source. -/
theorem canonical_of_mem {source : String} {d : Spanned Declaration}
    (h : d ∈ (parseSource source).declarations) : d.node.IsCanonical := by
  rw [declarations_eq] at h
  obtain ⟨segment, hmem, hparsed⟩ := List.mem_filterMap.mp (List.mem_filter.mp h).1
  have hlexed : Grammar.AllLexed (nodes segment) := by
    intro t ht
    obtain ⟨u, hu, rfl⟩ := List.mem_map.mp ht
    exact tokens_allLexed source _ (List.mem_map.mpr ⟨u, mem_tokens_of_mem hmem hu, rfl⟩)
  obtain ⟨e, he⟩ := (parsed?_isSome_iff hmem (Text.byteLength source.toList)).mp
    (Option.isSome_iff_exists.mpr ⟨d, hparsed⟩)
  rw [parsed?_of_declares he] at hparsed
  cases hparsed
  exact he.canonical hlexed

/-- The text of canonical declarations is read back as these declarations and nothing else. -/
theorem parseSource_printAll {declarations : List Declaration}
    (h : ∀ d ∈ declarations, d.IsCanonical) :
    (parseSource (Declaration.printAll declarations)).isClean ∧
      (parseSource (Declaration.printAll declarations)).declarations.map Spanned.node =
        declarations := by
  have hderived : List.Forall₂ (fun part d => Grammar.Declares part d [])
      (declarations.map Declaration.tokens) declarations := by
    refine List.forall₂_map_left_iff.mpr (List.forall₂_same.mpr fun d hd => ?_)
    have hd := Grammar.declares_tokens (h d hd) []
    rwa [List.append_nil] at hd
  exact parseSource_of_declares hderived (Lexed.spells_printAll h).reading_eq

end ParsedSource

namespace Table

/-- The table of what segments declare. -/
def ofSegments (stop : Nat) (cut : List (List Lexeme)) : Table :=
  empty.declareAll ((cut.filterMap (parsed? stop)).map Spanned.node)

/-- Builtins that were registered are not printed. -/
theorem print_registerBuiltins (t : Table) : t.registerBuiltins.print = t.print := by
  have hbuiltins : (t.missingBuiltins.map builtinDeclaration).filter (!·.isBuiltin) = [] := by
    refine List.filter_eq_nil_iff.mpr fun d hd => ?_
    obtain ⟨b, -, rfl⟩ := List.mem_map.mp hd
    simp [builtinDeclaration, Declaration.isBuiltin]
  unfold print Declaration.printAll
  rw [registerBuiltins_eq, declareAll_declarations, List.filter_append, hbuiltins, List.append_nil]

end Table

theorem compileWith_eq_ok {withBuiltins : Bool} {source : String} {t : Table} :
    compileWith withBuiltins source = .ok t ↔ (parseSource source).isClean ∧
      t = if withBuiltins then (Table.empty.register (parseSource source)).registerBuiltins
        else Table.empty.register (parseSource source) := by
  unfold compileWith Table.compile ParsedSource.isClean
  simp only
  split
  · rename_i h
    rw [Except.ok.injEq]
    exact ⟨fun heq => ⟨h, heq.symm⟩, fun heq => heq.2.symm⟩
  · rename_i h
    exact ⟨nofun, fun heq => absurd heq.1 h⟩

theorem compileWith_eq_error {withBuiltins : Bool} {source : String} {r : Report} :
    compileWith withBuiltins source = .error r ↔ (parseSource source).isClean = false ∧
      r = (parseSource source).report := by
  unfold compileWith Table.compile ParsedSource.isClean
  simp only
  split
  · rename_i h
    exact ⟨nofun, fun heq => absurd h (Bool.eq_false_iff.mp heq.1)⟩
  · rename_i h
    rw [Except.error.injEq]
    exact ⟨fun heq => ⟨Bool.eq_false_iff.mpr h, heq.symm⟩, fun heq => heq.2.symm⟩

/-- A source whose segments all parse is compiled to the table of what they declare. -/
theorem compileWith_of_parsed (withBuiltins : Bool) (source : String)
    (herrors : (tokenize source).errors = [])
    (hparsed : ∀ segment ∈ segments (tokenize source).tokens,
      (parsed? (Text.byteLength source.toList) segment).isSome) :
    compileWith withBuiltins source = .ok
      (if withBuiltins then (Table.ofSegments (Text.byteLength source.toList)
          (segments (tokenize source).tokens)).registerBuiltins
        else Table.ofSegments (Text.byteLength source.toList)
          (segments (tokenize source).tokens)) := by
  have hcut := segmentsOf_of_errors_nil herrors
  have hclean : (parseSource source).isClean := by
    refine (ParsedSource.isClean_iff source).mpr ⟨herrors, fun segment hmem => ?_⟩
    exact (parsed?_isSome_iff hmem _).mp (hparsed segment (hcut ▸ hmem))
  refine compileWith_eq_ok.mpr ⟨hclean, ?_⟩
  unfold Table.register Table.ofSegments
  rw [ParsedSource.declarations_of_errors_nil herrors, hcut]

/-- A compiled table is printed to a text from which the same table is compiled. -/
theorem compileWith_print {withBuiltins : Bool} {source : String} {t : Table}
    (h : compileWith withBuiltins source = .ok t) : compileWith withBuiltins t.print = .ok t := by
  obtain ⟨-, ht⟩ := compileWith_eq_ok.mp h
  have hprint : t.print =
      Declaration.printAll ((parseSource source).declarations.map Spanned.node) := by
    have hregister : (Table.empty.register (parseSource source)).print =
        Declaration.printAll ((parseSource source).declarations.map Spanned.node) := by
      unfold Table.print Table.register
      rw [Table.declareAll_declarations]
      rfl
    rw [ht, ← hregister]
    split
    · exact Table.print_registerBuiltins _
    · rfl
  have hcanonical : ∀ d ∈ (parseSource source).declarations.map Spanned.node, d.IsCanonical := by
    intro d hd
    obtain ⟨e, he, rfl⟩ := List.mem_map.mp hd
    exact ParsedSource.canonical_of_mem he
  obtain ⟨hclean, hdeclarations⟩ := ParsedSource.parseSource_printAll hcanonical
  have hsame : Table.empty.register (parseSource t.print) =
      Table.empty.register (parseSource source) := by
    unfold Table.register
    rw [hprint, hdeclarations]
  refine compileWith_eq_ok.mpr ⟨hprint ▸ hclean, ?_⟩
  rw [hsame, ht]

/-- Of two tokens of one name the second is a conflict, which the printed table has too. -/
theorem compileWith_print_conflict :
    ∃ t, compileWith true "A : '.' ; A : /b/ ; $main r : A* 'if' ;" = .ok t ∧
      t.conflicts = [.token "A"] ∧ compileWith true t.print = .ok t := by
  have h := compileWith_of_parsed true "A : '.' ; A : /b/ ; $main r : A* 'if' ;"
    (by decide +kernel) (by decide +kernel)
  exact ⟨_, h, by decide +kernel, compileWith_print h⟩

end GrammarText
