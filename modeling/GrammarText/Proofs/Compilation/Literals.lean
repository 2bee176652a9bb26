/-
Compiling a token that is a choice of literals.  Literals that agree on whether they end in a word
character make a canonical declaration, and the source is what is printed of it.  Literals that do
not agree are one faulty part of the source, which reaches from the first of them to the last.
-/
import GrammarText.Proofs.Compilation
import GrammarText.Proofs.Lexer.Layout
import GrammarText.Proofs.Viability.Leftmost

namespace GrammarText

open Computability GrammarText.Parser GrammarText.Recovery

namespace PatternLeaf

/-- The tokens of literals with bars between them, where their text starts at an offset. -/
def placed (offset : Nat) : List String → List Lexeme
  | [] => []
  | [text] => [⟨.literal text, ⟨offset, offset + Text.byteLength (Text.Quoted.encode text).toList⟩⟩]
  | text :: rest =>
      let stop := offset + Text.byteLength (Text.Quoted.encode text).toList
      ⟨.literal text, ⟨offset, stop⟩⟩ :: ⟨.mark .bar, ⟨stop + 1, stop + 2⟩⟩
        :: placed (stop + 3) rest

theorem nodes_placed (offset : Nat) (texts : List String) :
    nodes (placed offset texts) = runTokens texts := by
  fun_induction placed offset texts with
  | case1 => rfl
  | case2 => rfl
  | case3 offset text rest hrest stop ih =>
    rw [nodes_cons, nodes_cons, ih, runTokens]
    exact hrest

theorem byteLength_quotedRun (text next : String) (rest : List String) :
    Text.byteLength (quotedRun (text :: next :: rest)).toList =
      Text.byteLength (Text.Quoted.encode text).toList + 3 +
        Text.byteLength (quotedRun (next :: rest)).toList := by
  have hbar : Text.byteLength [' ', '|', ' '] = 3 := by decide
  have htext := Lexed.quotedRun_cons text next rest
  rw [htext, ← hbar, Nat.add_assoc, ← Text.byteLength_append, ← Text.byteLength_append]
  rfl

/-- The literals of a run reach from its first byte to its last. -/
theorem range_placed (offset : Nat) (text : String) (others : List String) :
    Grammar.range (placed offset (text :: others)) =
      ⟨offset, offset + Text.byteLength (quotedRun (text :: others)).toList⟩ := by
  have hstop : ((placed offset (text :: others)).getLast?.elim 0 (·.span.stop)) =
      offset + Text.byteLength (quotedRun (text :: others)).toList := by
    induction others generalizing offset text with
    | nil => rfl
    | cons next more ih =>
      have hrest := ih (offset + Text.byteLength (Text.Quoted.encode text).toList + 3) next
      have hne : placed (offset + Text.byteLength (Text.Quoted.encode text).toList + 3)
          (next :: more) ≠ [] := by
        cases more <;> exact List.cons_ne_nil _ _
      obtain ⟨t, later, hplaced⟩ := List.exists_cons_of_ne_nil hne
      rw [placed, hplaced, List.getLast?_cons_cons, List.getLast?_cons_cons, ← hplaced, hrest,
        byteLength_quotedRun]
      · omega
      · exact List.cons_ne_nil _ _
  have hstart : ((placed offset (text :: others)).head?.elim 0 (·.span.start)) = offset := by
    cases others <;> rfl
  rw [Grammar.range, hstart, hstop]

end PatternLeaf

namespace Lexed

open Text

/-- Fragments that are tokens without exception are the tokens of the text. -/
theorem tokenize_eq_of_fragments {source : String} {tokens : List Lexeme}
    (h : fragments 0 source.toList = tokens.map ofLexeme) : tokenize source = ⟨tokens, []⟩ := by
  have hlexeme : lexeme? ∘ ofLexeme = some := rfl
  have herror : lexError? ∘ ofLexeme = fun _ => none := rfl
  unfold tokenize
  rw [scan_eq, h, List.filterMap_map, List.filterMap_map, hlexeme, herror, List.filterMap_some,
    List.filterMap_none]

/-- A fragment that is a token and takes its first character and what stands in `inside`. -/
theorem fragments_of_ofHead {c : Char} {inside later : List Char} {t : Token}
    (h : Match.ofHead c (inside ++ later) = ⟨.token t, inside.length⟩) (offset : Nat) :
    fragments offset (c :: inside ++ later) =
      ⟨.token t, ⟨offset, offset + byteLength (c :: inside)⟩⟩ ::
        fragments (offset + byteLength (c :: inside)) later := by
  rw [List.cons_append, fragments_head (by rw [h]), h]
  rfl

theorem fragments_literal (text : String) (offset : Nat) (later : List Char) :
    fragments offset ((Quoted.encode text).toList ++ later) =
      ⟨.token (.literal text), ⟨offset, offset + byteLength (Quoted.encode text).toList⟩⟩ ::
        fragments (offset + byteLength (Quoted.encode text).toList) later := by
  rw [Quoted.encode, String.toList_ofList]
  exact fragments_of_ofHead (ofHead_encode text later) offset

theorem fragments_mark {c : Char} {m : Mark} (h : Mark.ofChar? c = some m) (offset : Nat)
    (later : List Char) : fragments offset (c :: later) =
      ⟨.token (.mark m), ⟨offset, offset + c.utf8Size⟩⟩ ::
        fragments (offset + c.utf8Size) later := by
  have hhead : Match.ofHead c ([] ++ later) = ⟨.token (.mark m), 0⟩ := ofHead_mark h later
  exact fragments_of_ofHead hhead offset

/-- A mark between two blanks. -/
theorem fragments_infix {c : Char} {m : Mark} (h : Mark.ofChar? c = some m)
    (hc : c.utf8Size = 1) (offset : Nat) (later : List Char) :
    fragments offset (' ' :: c :: ' ' :: later) =
      ⟨.token (.mark m), ⟨offset + 1, offset + 2⟩⟩ :: fragments (offset + 3) later := by
  rw [fragments_blank rfl, fragments_mark h, fragments_blank rfl, hc]
  rfl

theorem fragments_quotedRun (offset : Nat) (texts : List String) (later : List Char) :
    fragments offset ((PatternLeaf.quotedRun texts).toList ++ later) =
      (PatternLeaf.placed offset texts).map ofLexeme ++
        fragments (offset + byteLength (PatternLeaf.quotedRun texts).toList) later := by
  fun_induction PatternLeaf.placed offset texts with
  | case1 offset => rfl
  | case2 offset text => exact fragments_literal text offset later
  | case3 offset text rest hrest stop ih =>
    obtain ⟨next, more, rfl⟩ := List.exists_cons_of_ne_nil hrest
    have hbytes : stop + 3 + byteLength (PatternLeaf.quotedRun (next :: more)).toList =
        offset + byteLength (PatternLeaf.quotedRun (text :: next :: more)).toList := by
      rw [PatternLeaf.byteLength_quotedRun]
      omega
    rw [← hbytes, quotedRun_cons, List.append_assoc, fragments_literal, List.cons_append,
      List.cons_append, List.cons_append, fragments_infix (c := '|') rfl rfl, ih]
    rfl

end Lexed

/-- The source that declares a token as a choice of literals. -/
def literalsSource (texts : List String) : String :=
  "T : " ++ PatternLeaf.quotedRun texts ++ " ;"

/-- The tokens of that source. -/
def literalsTokens (texts : List String) : List Lexeme :=
  let stop := 4 + Text.byteLength (PatternLeaf.quotedRun texts).toList
  [⟨.tokenName "T", ⟨0, 1⟩⟩, ⟨.mark .colon, ⟨2, 3⟩⟩] ++
    (PatternLeaf.placed 4 texts ++ [⟨.mark .semicolon, ⟨stop + 1, stop + 2⟩⟩])

theorem tokenize_literalsSource (texts : List String) :
    tokenize (literalsSource texts) = ⟨literalsTokens texts, []⟩ := by
  have htext : (literalsSource texts).toList = 'T' :: ' ' :: ':' :: ' ' ::
      ((PatternLeaf.quotedRun texts).toList ++ [' ', ';']) := by
    simp [literalsSource]
  have hname : ∀ later, Lexed.fragments 0 ('T' :: ' ' :: later) =
      ⟨.token (.tokenName "T"), ⟨0, 1⟩⟩ :: Lexed.fragments 1 (' ' :: later) := fun later => by
    have hhead : Match.ofHead 'T' ([] ++ ' ' :: later) = ⟨.token (.tokenName "T"), 0⟩ := rfl
    exact Lexed.fragments_of_ofHead hhead 0
  have hend : ∀ offset, Lexed.fragments offset [' ', ';'] =
      [⟨.token (.mark .semicolon), ⟨offset + 1, offset + 2⟩⟩] := fun offset => by
    rw [Lexed.fragments_blank rfl, Lexed.fragments_mark rfl, Lexed.fragments_nil]
    rfl
  refine Lexed.tokenize_eq_of_fragments ?_
  rw [htext, hname, Lexed.fragments_infix (c := ':') rfl rfl, Lexed.fragments_quotedRun, hend]
  simp only [literalsTokens, List.map_append, List.map_cons]
  rfl

theorem nodes_literalsTokens (texts : List String) : nodes (literalsTokens texts) =
    .tokenName "T" :: .mark .colon :: (PatternLeaf.runTokens texts ++ [.mark .semicolon]) := by
  unfold literalsTokens
  rw [nodes_append, nodes_append, PatternLeaf.nodes_placed]
  rfl

namespace Grammar

theorem runTokens_mem_run {texts : List String} (hne : texts ≠ []) :
    PatternLeaf.runTokens texts ∈ Shape.run := by
  have hrun : Run (PatternLeaf.runTokens texts ++ []) texts [] := run_runTokens hne nofun
  rw [List.append_nil] at hrun
  obtain ⟨lexemes, hlexemes⟩ := exists_nodes_eq (PatternLeaf.runTokens texts)
  obtain ⟨remaining, hremaining, hs⟩ := hrun.reads 0 hlexemes
  obtain ⟨read, hread, hmem⟩ := Pattern.literalRun_spells hs
  rw [List.map_eq_nil_iff.mp hremaining, List.append_nil] at hread
  rw [← hlexemes, hread]
  exact hmem

/-- But for the check of its literals the source is a declaration. -/
theorem literalsTokens_mem_declaration {texts : List String} (hne : texts ≠ []) :
    nodes (literalsTokens texts) ∈ Shape.declaration := by
  have hmark : ∀ m, [.mark m] ∈ Shape.mark m := fun m => ⟨_, rfl, rfl⟩
  have hname : [.tokenName "T"] ∈ Shape.tokenName := ⟨_, ⟨"T", rfl⟩, rfl⟩
  have hatom : PatternLeaf.runTokens texts ∈ Shape.patternAtom :=
    .inr (.inr (.inr (runTokens_mem_run hne)))
  rw [nodes_literalsTokens]
  exact .inl (Language.append_mem_mul (Language.append_mem_mul
    (Language.append_mem_mul hname (hmark .colon)) (le_expression _ hatom)) (hmark .semicolon))

/-- A run of literals that are mixed is a faulty part, whatever stands behind it. -/
theorem firstFault_mixed {t : Lexeme} {more behind : List Lexeme} {text : String}
    {texts : List String} (ht : t.node = .literal text)
    (hrun : Run (nodes (t :: more ++ behind)) texts (nodes behind)) (hmixed : Mixed texts) :
    firstFault (t :: more ++ behind) =
      some ⟨behind.length, .mixedLiterals (range (t :: more))⟩ := by
  rw [List.cons_append, nodes_cons, ht] at hrun
  obtain ⟨rfl, hrest⟩ := hrun.reads.unique (run_joined text (nodes (more ++ behind))).reads
  have hextent : extent (t.node :: nodes (more ++ behind)) = joined (nodes (more ++ behind)) := by
    rw [ht]
    rfl
  have hlength := congrArg List.length hrest
  rw [← nodes_drop, nodes_length, nodes_length] at hlength
  obtain ⟨htake, hdrop⟩ :=
    List.append_inj' (List.take_append_drop (joined (nodes (more ++ behind))) _) hlength.symm
  have hpart : nodes (t :: more) = .literal text :: nodes more := by rw [nodes_cons, ht]
  rw [← nodes_take, htake, ← hpart] at hmixed
  rcases fault?_literal hpart with ⟨-, hfault⟩ | ⟨hsound, -⟩
  · rw [List.cons_append, firstFault_of_fault (by rw [hextent, htake, hfault]), hextent, hdrop]
  · exact absurd hmixed hsound

/-- The source of mixed literals fails over them. -/
theorem firstFault_literalsTokens {text : String} {others : List String}
    (hmixed : Mixed (text :: others)) : ∃ left, firstFault (literalsTokens (text :: others)) =
      some ⟨left, .mixedLiterals
        ⟨4, 4 + Text.byteLength (PatternLeaf.quotedRun (text :: others)).toList⟩⟩ := by
  obtain ⟨tail, htail⟩ :
      ∃ tail, PatternLeaf.runTokens (text :: others) = .literal text :: tail := by
    cases others <;> exact ⟨_, rfl⟩
  have hnodes := PatternLeaf.nodes_placed 4 (text :: others)
  obtain ⟨t, more, hplaced, ht, -⟩ := nodes_eq_cons.mp (hnodes.trans htail)
  have hrun : ∀ semicolon : Lexeme, semicolon.node = .mark .semicolon →
      Run (nodes (t :: more ++ [semicolon])) (text :: others) (nodes [semicolon]) := by
    intro semicolon hsemicolon
    rw [nodes_append, ← hplaced, hnodes, nodes_cons, hsemicolon]
    exact run_runTokens (List.cons_ne_nil _ _) (by simp)
  unfold literalsTokens
  rw [firstFault_lones (by simp [Lone]), hplaced, firstFault_mixed ht (hrun _ rfl) hmixed,
    ← hplaced, PatternLeaf.range_placed]
  exact ⟨_, rfl⟩

end Grammar

/-- Compiling the source declares the token `T` in every table and reports nothing, and the token is
found in the table that the source is compiled to, with and without the builtins. -/
structure DeclaresT (source : String) (pattern : Pattern) : Prop where
  declared (t : Table) : t.compile source = (t.declare (.token "T" pattern), ⟨[]⟩)
  compiled (withBuiltins : Bool) :
    ∃ t, compileWith withBuiltins source = .ok t ∧ t.token? "T" = some pattern

/-- Compiling the source registers nothing in any table and reports one diagnostic. -/
structure FailsOver (source : String) (d : Diagnostic) : Prop where
  unchanged (t : Table) : t.compile source = (t, ⟨[d]⟩)
  rejected (withBuiltins : Bool) : compileWith withBuiltins source = .error ⟨[d]⟩

theorem declaresT_of_clean {source : String} {pattern : Pattern}
    (h : (parseSource source).isClean ∧
      (parseSource source).declarations.map Spanned.node = [.token "T" pattern]) :
    DeclaresT source pattern := by
  obtain ⟨hclean, hdeclarations⟩ := h
  have hreport : (parseSource source).report = ⟨[]⟩ :=
    congrArg Report.mk (List.isEmpty_iff.mp hclean)
  have hregister : ∀ t : Table,
      t.register (parseSource source) = t.declare (.token "T" pattern) := fun t => by
    rw [Table.register, hdeclarations]
    rfl
  constructor
  · intro t
    exact Prod.ext (hregister t) hreport
  · intro withBuiltins
    refine ⟨_, compileWith_eq_ok.mpr ⟨hclean, rfl⟩, ?_⟩
    rw [hregister]
    cases withBuiltins <;> rfl

/-- Where the leaf is canonical and its text is that of the literals, the source declares it. -/
theorem declaresT_of_canonical {texts : List String} {leaf : PatternLeaf}
    (hcanonical : leaf.IsCanonical) (htext : leaf.text = PatternLeaf.quotedRun texts) :
    DeclaresT (literalsSource texts) (.leaf leaf) := by
  have hname : Lexed.reading "T".toList = [.token (.tokenName "T")] := by decide +kernel
  have hd : (Declaration.token "T" (.leaf leaf)).IsCanonical :=
    ⟨Grammar.readsAs_of_isLexed hname, .leaf hcanonical⟩
  have hsource : literalsSource texts = (Declaration.token "T" (.leaf leaf)).print := by
    rw [literalsSource, ← htext]
    rfl
  have hderived := Grammar.declares_tokens hd []
  have hspells := (Lexed.spells_declaration hd).reading_eq
  rw [List.append_nil] at hderived
  rw [← hsource, ← List.flatten_singleton (l := Declaration.tokens _)] at hspells
  exact declaresT_of_clean (ParsedSource.parseSource_of_declares (.cons hderived .nil) hspells)

namespace PatternLeaf

theorem text_ofPlain {texts : List String} (hne : texts ≠ []) :
    (ofPlain texts).text = quotedRun texts := by
  match texts, hne with
  | [_], _ => rfl
  | _ :: _ :: _, _ => rfl

theorem text_ofKeywords {texts : List String} (hne : texts ≠ [])
    (h : ∀ text ∈ texts, Text.endsInWord text = true) :
    (ofKeywords texts).text = quotedRun texts := by
  match texts, hne with
  | [_], _ => exact if_pos (h _ (List.mem_singleton_self _))
  | _ :: _ :: _, _ => exact if_pos (by simpa using h)

end PatternLeaf

/-- What the source of mixed literals is reported for. -/
def mixedDiagnostic (texts : List String) : Diagnostic where
  kind := .syntactic
  span := ⟨4, 4 + Text.byteLength (PatternLeaf.quotedRun texts).toList⟩
  message :=
    "literal choice mixes alternatives ending in a word character with alternatives that do not"
  expected := []
  found := none

/-- A source that is one declaration but for a faulty part has nothing but that part's error. -/
theorem ParsedSource.parseSource_of_fault {source : String} {s : Setback}
    (herrors : (tokenize source).errors = [])
    (hloose : nodes (tokenize source).tokens ∈ Grammar.Shape.declaration)
    (hfault : Grammar.firstFault (tokenize source).tokens = some s) :
    (parseSource source).declarations = [] ∧
      (parseSource source).report = ⟨[.ofParseError s.error]⟩ := by
  have hrun : ∀ stop, run Declaration.parser stop (tokenize source).tokens = .error s.error := by
    intro stop
    rcases Grammar.run_of_mem_declaration hloose stop with ⟨hnone, -⟩ | ⟨s', hs, hrun⟩
    · exact nomatch hfault.symm.trans hnone
    · rw [hfault] at hs
      rw [hrun, Option.some.inj hs]
  have hsegments : segmentsOf source = [(tokenize source).tokens] := by
    rw [segmentsOf_of_errors_nil herrors]
    exact segments_of_closed (Grammar.closed_of_mem_declaration hloose)
  have hparsed : ∀ stop, parsed? stop (tokenize source).tokens = none := fun stop => by
    rw [parsed?, hrun]
    rfl
  have hfailure : ∀ stop,
      failure? [] stop (tokenize source).tokens = some (.ofParseError s.error) := fun stop => by
    rw [failure?, hrun]
    rfl
  have hitems : (parseSource source).report.items = [.ofParseError s.error] := by
    rw [report_of_errors_nil herrors, hsegments, List.filterMap_cons_some (hfailure _),
      List.filterMap_nil]
  constructor
  · rw [declarations_of_errors_nil herrors, hsegments, List.filterMap_cons_none (hparsed _),
      List.filterMap_nil]
  · exact congrArg Report.mk hitems

theorem failsOver_of_report {source : String} {d : Diagnostic}
    (hdeclarations : (parseSource source).declarations = [])
    (hreport : (parseSource source).report = ⟨[d]⟩) : FailsOver source d := by
  constructor
  · intro t
    have hregister : t.register (parseSource source) = t := by
      rw [Table.register, hdeclarations]
      rfl
    exact Prod.ext hregister hreport
  · intro withBuiltins
    refine compileWith_eq_error.mpr ⟨?_, hreport.symm⟩
    rw [ParsedSource.isClean, hreport]
    rfl

theorem failsOver_of_mixed {text : String} {others : List String}
    (hmixed : Grammar.Mixed (text :: others)) :
    FailsOver (literalsSource (text :: others)) (mixedDiagnostic (text :: others)) := by
  obtain ⟨left, hfault⟩ := Grammar.firstFault_literalsTokens hmixed
  have hloose := Grammar.literalsTokens_mem_declaration (List.cons_ne_nil text others)
  have htokenize := tokenize_literalsSource (text :: others)
  obtain ⟨hdeclarations, hreport⟩ := ParsedSource.parseSource_of_fault (by rw [htokenize])
    (by rw [htokenize]; exact hloose) (by rw [htokenize]; exact hfault)
  exact failsOver_of_report hdeclarations hreport

/-- A token declared as a choice of literals is a keyword or a choice of keywords if all literals
end in a word character, and a literal or a choice of literals if none does.  Other literals are
reported from the first to the last, and nothing is registered. -/
theorem compile_literals (text : String) (others : List String) :
    ((∀ t ∈ text :: others, Text.endsInWord t = true) →
        DeclaresT (literalsSource (text :: others)) (.leaf (.ofKeywords (text :: others)))) ∧
      ((∀ t ∈ text :: others, Text.endsInWord t = false) →
        DeclaresT (literalsSource (text :: others)) (.leaf (.ofPlain (text :: others)))) ∧
      (¬ (∀ t ∈ text :: others, Text.endsInWord t = true) →
        ¬ (∀ t ∈ text :: others, Text.endsInWord t = false) →
        FailsOver (literalsSource (text :: others)) (mixedDiagnostic (text :: others))) := by
  have hne : text :: others ≠ [] := List.cons_ne_nil _ _
  refine ⟨fun hall => ?_, fun hnone => ?_, fun hall hnone => failsOver_of_mixed ⟨?_, ?_⟩⟩
  · exact declaresT_of_canonical (Grammar.canonical_ofKeywords hne)
      (PatternLeaf.text_ofKeywords hne hall)
  · exact declaresT_of_canonical (Grammar.canonical_ofPlain hne hnone)
      (PatternLeaf.text_ofPlain hne)
  · by_contra hno
    exact hnone fun t ht => Bool.eq_false_iff.mpr fun hword => hno ⟨t, ht, hword⟩
  · by_contra hno
    exact hall fun t ht => Bool.not_eq_false _ ▸ fun hplain => hno ⟨t, ht, hplain⟩

theorem compile_literals_each :
    DeclaresT "T : 'if' | 'do' ;" (.leaf (.keywordChoice ["if", "do"])) ∧
      DeclaresT "T : '' ;" (.leaf (.literal "")) ∧
      FailsOver "T : 'if' | ';' ;" ⟨.syntactic, ⟨4, 14⟩, "literal choice mixes alternatives " ++
        "ending in a word character with alternatives that do not", [], none⟩ := by
  have hkeywords : literalsSource ["if", "do"] = "T : 'if' | 'do' ;" := by decide +kernel
  have hplain : literalsSource [""] = "T : '' ;" := by decide +kernel
  have hmixed : literalsSource ["if", ";"] = "T : 'if' | ';' ;" := by decide +kernel
  rw [← hkeywords, ← hplain, ← hmixed]
  exact ⟨(compile_literals "if" ["do"]).1 (by decide +kernel),
    (compile_literals "" []).2.1 (by decide +kernel),
    (compile_literals "if" [";"]).2.2 (by decide +kernel) (by decide +kernel)⟩

end GrammarText
