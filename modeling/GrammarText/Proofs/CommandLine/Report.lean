/-
What a run of the command tells of a source.  Its exit code and its output are what the compiler and
the table say, and its error stream is the log, which is empty unless one is asked for, with the
report on what went wrong behind it.
-/
import GrammarText.Proofs.CommandLine.Log
import GrammarText.Proofs.Table.Messages

namespace GrammarText
namespace CommandLine

/- The libraries. -/

/-- What the documentation of the libraries promises: data is written in YAML, whatever it holds,
and where the environment asks for no log only errors are logged. -/
structure Libraries.Documented (lib : Libraries) : Prop where
  yaml : ∀ d, ∃ text, lib.yaml d = .ok text
  start : ∀ environment, environment.lookup "RUST_LOG" = none →
    (lib.logger environment).start = ""
  quiet : ∀ environment, environment.lookup "RUST_LOG" = none → ∀ records : List Log.Record,
    (∀ r ∈ records, r.level ≠ .error) → (lib.logger environment).write records = ""

/-- What is written on the error stream before a report on the source. -/
def Libraries.log (lib : Libraries) (s : Surroundings) (withBuiltins : Bool) (source : String) :
    String :=
  (lib.logger s.environment).start
    ++ (lib.logger s.environment).write (Log.ofSource withBuiltins source)

/-- The libraries of the program are such. -/
theorem Libraries.documented_standard : Libraries.standard.Documented where
  yaml d := ⟨d.toYaml, rfl⟩
  start _ h := Logger.start_ofEnvironment_of_unset h
  quiet _ h _ := Logger.write_ofEnvironment_of_unset h

section

variable {lib : Libraries} {s : Surroundings}

/-- Without a filter in the environment there is no log. -/
theorem Libraries.Documented.log_of_unset (h : lib.Documented)
    (hunset : s.environment.lookup "RUST_LOG" = none) (withBuiltins : Bool) (source : String) :
    lib.log s withBuiltins source = "" := by
  rw [Libraries.log, h.start _ hunset, h.quiet _ hunset _ fun _ hr => Log.level_ne_error hr]
  rfl

/-- Every format can be written. -/
theorem Libraries.Documented.exists_render (h : lib.Documented) (t : Table)
    (format : OutputFormat) : ∃ output, t.renderWith lib.yaml format = .ok output := by
  cases format with
  | yaml =>
    obtain ⟨text, htext⟩ := h.yaml t.toData
    refine ⟨text, ?_⟩
    rw [Table.renderWith, htext]
    rfl
  | json => exact ⟨_, rfl⟩
  | sbnf => exact ⟨_, rfl⟩
  | debug => exact ⟨_, rfl⟩

end

/- The report. -/

/-- How many of the diagnostics are shown. -/
def shownCount (limit count : Nat) : Nat :=
  if limit = 0 then count else min limit count

theorem truncated_eq (r : Report) (limit : Nat) :
    r.truncated limit = ⟨r.items.take (shownCount limit r.length)⟩ := by
  unfold Report.truncated shownCount Report.length
  by_cases h : limit = 0
  · subst h
    rw [if_pos rfl, beq_self_eq_true, if_pos rfl, List.take_length]
  · rw [if_neg h, beq_false_of_ne h, if_neg Bool.false_ne_true, List.take_eq_take_min]

theorem shownCount_le (limit count : Nat) : shownCount limit count ≤ count := by
  unfold shownCount
  split
  · exact Nat.le_refl _
  · exact Nat.min_le_right _ _

/-- The report on a failure shows the first diagnostics up to the limit, says how many more there
are if any is left out, and ends with their number. -/
theorem compileReport_eq (path source : String) (settings : Config.Settings) (r : Report) {k : Nat}
    (hk : k = shownCount settings.maxReported.toNat r.length) :
    compileReport path source settings r =
      Report.render ⟨r.items.take k⟩ source settings.contextLines ++
        (if k < r.length then "... and " ++ toString (r.length - k) ++ " more\n" else "") ++
        (path ++ ": " ++ toString r.length ++ " compile error(s)\n") := by
  have hlength : (r.truncated settings.maxReported.toNat).length = k := by
    rw [truncated_eq, ← hk, Report.length, List.length_take]
    exact Nat.min_eq_left (hk ▸ shownCount_le _ _)
  unfold compileReport
  simp only [hlength]
  rw [truncated_eq, ← hk]
  simp only [String.append_assoc]

/-- The report on a table that does not resolve has one line for each error, in their order. -/
theorem resolveReport_eq (path : String) (errors : List ResolveError) :
    resolveReport path errors =
      String.join (errors.map fun e => "error[resolve] " ++ e.message ++ "\n") ++
        (path ++ ": " ++ toString errors.length ++ " resolution error(s)\n") := by
  unfold resolveReport
  simp only [String.append_assoc]

/- A source, compiled. -/

section

variable {lib : Libraries} {settings : Config.Settings} {format : OutputFormat} {checkOnly : Bool}
  {path source output : String} {r : Report} {t : Table}

theorem compileSource_of_error (h : compileWith settings.registerBuiltins source = .error r) :
    compileSource lib settings format checkOnly path source =
      .failure (compileReport path source settings r) := by
  unfold compileSource
  rw [h]

theorem compileSource_of_unresolved (h : compileWith settings.registerBuiltins source = .ok t)
    (hresolve : t.resolveWith lib.regex ≠ []) :
    compileSource lib settings format checkOnly path source =
      .failure (resolveReport path (t.resolveWith lib.regex)) := by
  unfold compileSource
  obtain ⟨e, errors, herrors⟩ := List.exists_cons_of_ne_nil hresolve
  simp only [h, herrors]

theorem compileSource_of_resolved (h : compileWith settings.registerBuiltins source = .ok t)
    (hresolve : t.resolveWith lib.regex = [])
    (hrender : t.renderWith lib.yaml format = .ok output) :
    compileSource lib settings format checkOnly path source =
      .success (if checkOnly then "" else output) := by
  unfold compileSource
  simp only [h, hresolve, hrender]
  split <;> rfl

/-- Either a table comes of a source that resolves, or the run fails with nothing on its output. -/
theorem compileSource_cases (hlib : lib.Documented) (settings : Config.Settings)
    (format : OutputFormat) (path source : String) :
    (∃ t output, compileWith settings.registerBuiltins source = .ok t ∧
      t.resolveWith lib.regex = [] ∧ t.renderWith lib.yaml format = .ok output ∧
      ∀ checkOnly, compileSource lib settings format checkOnly path source =
        .success (if checkOnly then "" else output)) ∨
    ((∀ t, compileWith settings.registerBuiltins source = .ok t → t.resolveWith lib.regex ≠ []) ∧
      ∃ message, ∀ checkOnly,
        compileSource lib settings format checkOnly path source = .failure message) := by
  cases h : compileWith settings.registerBuiltins source with
  | error r => exact .inr ⟨nofun, _, fun _ => compileSource_of_error h⟩
  | ok t =>
    by_cases hresolve : t.resolveWith lib.regex = []
    · obtain ⟨output, houtput⟩ := hlib.exists_render t format
      exact .inl ⟨t, output, rfl, hresolve, houtput,
        fun _ => compileSource_of_resolved h hresolve houtput⟩
    · refine .inr ⟨fun t' h' => ?_, _, fun _ => compileSource_of_unresolved h hresolve⟩
      cases h'
      exact hresolve

end

/- A run. -/

section

variable {lib : Libraries} {arguments : List String} {s : Surroundings} {i : Invocation}
  {path : String} {settings : Config.Settings} {format : OutputFormat} {source : String}

theorem runWith_eq (hparse : lib.parse arguments = .ok i) (hpath : i.path = some path)
    (hsettings : i.settings (lib.config s) s.environment = .ok settings)
    (hformat : i.outputFormat settings = .ok format) (hread : s.read path = .ok source) :
    runWith lib arguments s =
      (compileSource lib settings format i.checkOnly path source).withLog
        (lib.log s settings.registerBuiltins source) := by
  unfold runWith Invocation.run
  simp only [hparse, hpath, hsettings, hformat, hread, Outcome.withLog, Libraries.log,
    String.append_assoc]

/-- The exit code, the output and the errors of a run on a source that can be read are those of the
compiler and the table. -/
theorem run_agrees_with_compiler (hlib : lib.Documented) (hparse : lib.parse arguments = .ok i)
    (hpath : i.path = some path)
    (hsettings : i.settings (lib.config s) s.environment = .ok settings)
    (hformat : i.outputFormat settings = .ok format) (hread : s.read path = .ok source) :
    ((runWith lib arguments s).exitCode = 0 ↔
      ∃ t, compileWith settings.registerBuiltins source = .ok t ∧ t.resolveWith lib.regex = []) ∧
    (∀ arguments' checkOnly, lib.parse arguments' = .ok { i with checkOnly } →
      (runWith lib arguments' s).exitCode = (runWith lib arguments s).exitCode) ∧
    (∀ t, compileWith settings.registerBuiltins source = .ok t →
      (runWith lib arguments s).exitCode = 0 → i.checkOnly = false →
        t.renderWith lib.yaml format = .ok (runWith lib arguments s).stdout) ∧
    ((runWith lib arguments s).exitCode ≠ 0 ∨ i.checkOnly = true →
      (runWith lib arguments s).stdout = "") ∧
    (s.environment.lookup "RUST_LOG" = none → lib.log s settings.registerBuiltins source = "") ∧
    (∀ r k, compileWith settings.registerBuiltins source = .error r →
      k = shownCount settings.maxReported.toNat r.length →
      (runWith lib arguments s).stderr = lib.log s settings.registerBuiltins source ++
        (Report.render ⟨r.items.take k⟩ source settings.contextLines ++
          (if k < r.length then "... and " ++ toString (r.length - k) ++ " more\n" else "") ++
          (path ++ ": " ++ toString r.length ++ " compile error(s)\n"))) ∧
    (∀ t errors, compileWith settings.registerBuiltins source = .ok t →
      errors = t.resolveWith lib.regex → errors ≠ [] →
      (runWith lib arguments s).stderr = lib.log s settings.registerBuiltins source ++
        (String.join (errors.map fun e => "error[resolve] " ++ e.message ++ "\n") ++
          (path ++ ": " ++ toString errors.length ++ " resolution error(s)\n")) ∧
      ∀ e ∈ errors, (∀ body reason, e ≠ .invalidRegex body reason) → OneLine e.message) := by
  have hrun := runWith_eq hparse hpath hsettings hformat hread
  refine ⟨?_, ?_, ?_, ?_, fun hunset => hlib.log_of_unset hunset _ _, ?_, ?_⟩
  · rw [hrun]
    rcases compileSource_cases hlib settings format path source with
      ⟨t, output, hok, hresolve, -, hsource⟩ | ⟨hnone, message, hsource⟩
    · rw [hsource]
      exact ⟨fun _ => ⟨t, hok, hresolve⟩, fun _ => rfl⟩
    · rw [hsource]
      exact ⟨nofun, fun ⟨t, hok, hresolve⟩ => absurd hresolve (hnone t hok)⟩
  · intro arguments' checkOnly hparse'
    rw [hrun, runWith_eq hparse' hpath hsettings hformat hread]
    rcases compileSource_cases hlib settings format path source with
      ⟨t, output, -, -, -, hsource⟩ | ⟨-, message, hsource⟩
    · rw [hsource, hsource]
      rfl
    · rw [hsource, hsource]
  · intro t hok hzero hcheck
    rw [hrun] at hzero ⊢
    rcases compileSource_cases hlib settings format path source with
      ⟨t', output, hok', -, hrender, hsource⟩ | ⟨-, message, hsource⟩
    · obtain rfl : t = t' := Except.ok.inj (hok.symm.trans hok')
      rw [hrender, hsource, hcheck]
      rfl
    · rw [hsource] at hzero
      cases hzero
  · intro h
    rw [hrun] at h ⊢
    rcases compileSource_cases hlib settings format path source with
      ⟨t, output, -, -, -, hsource⟩ | ⟨-, message, hsource⟩
    · rw [hsource] at h ⊢
      rcases h with h | h
      · exact absurd rfl h
      · rw [h]
        rfl
    · rw [hsource]
      rfl
  · intro r k herror hk
    rw [hrun, compileSource_of_error herror, ← compileReport_eq _ _ _ _ hk]
    rfl
  · rintro t errors hok rfl hresolve
    rw [hrun, compileSource_of_unresolved hok hresolve, ← resolveReport_eq]
    exact ⟨rfl, fun e he => resolveWith_isPlain hok he⟩

end

/- Two sources that fail. -/

/-- A directory with one file. -/
def oneFile (source : String) (environment : List (String × String)) : Surroundings where
  read := fun path => if path = "grammar" then .ok source else .error .missing
  isFile := (· = "grammar")
  environment

/-- The diagnostic of a declaration that ends at the offset before it has a body. -/
def noBody (offset : Nat) : Diagnostic :=
  ⟨.syntactic, ⟨offset, offset + 1⟩, "unexpected ';', expected token expression",
    ["token expression"], some "';'"⟩

theorem compileWith_noBody :
    compileWith true "A : ;\nB : ;\n" = .error ⟨[noBody 4, noBody 10]⟩ := by
  have hclean : (tokenize "A : ;\nB : ;\n").errors = [] := by decide +kernel
  have hitems := ParsedSource.report_of_errors_nil hclean
  rw [Recovery.segmentsOf_of_errors_nil hclean] at hitems
  have hreport : (parseSource "A : ;\nB : ;\n").report = ⟨[noBody 4, noBody 10]⟩ := by
    refine congrArg Report.mk (hitems.trans ?_)
    decide +kernel
  refine compileWith_eq_error.mpr ⟨?_, hreport.symm⟩
  unfold ParsedSource.isClean
  rw [hreport]
  rfl

/-- Of two errors one is shown. -/
theorem run_agrees_with_compiler_limited :
    let s := oneFile "A : ;\nB : ;\n" []
    let arguments := ["--set", "diagnostics.max_reported=1", "grammar"]
    let i : Invocation :=
      ⟨some "grammar", none, none, ["diagnostics.max_reported=1"], false, false⟩
    let settings := { Config.Settings.default with maxReported := 1 }
    Libraries.standard.parse arguments = .ok i ∧
      i.settings (Libraries.standard.config s) s.environment = .ok settings ∧
      i.outputFormat settings = .ok .sbnf ∧ s.read "grammar" = .ok "A : ;\nB : ;\n" ∧
      (run arguments s).exitCode ≠ 0 ∧ (run ("--check" :: arguments) s).exitCode ≠ 0 ∧
      (run arguments s).stdout = "" ∧
      (run arguments s).stderr =
        "error[syntax] 1:5: unexpected ';', expected token expression\n>>   1 | A : ;\n" ++
          "     2 | B : ;\n     3 | \n\n... and 1 more\ngrammar: 2 compile error(s)\n" := by
  intro s arguments i settings
  have hparse : Libraries.standard.parse arguments = .ok i := by decide
  have hcheck : Libraries.standard.parse ("--check" :: arguments) =
      .ok { i with checkOnly := true } := by decide
  have hsettings : i.settings (Libraries.standard.config s) s.environment = .ok settings := by
    decide +kernel
  have hformat : i.outputFormat settings = .ok .sbnf := rfl
  have hread : s.read "grammar" = .ok "A : ;\nB : ;\n" := rfl
  obtain ⟨hexit, hsame, -, hstdout, hlog, hstderr, -⟩ :=
    run_agrees_with_compiler Libraries.documented_standard hparse rfl hsettings hformat hread
  have hfails : (run arguments s).exitCode ≠ 0 := fun h => by
    obtain ⟨t, ht, -⟩ := hexit.mp h
    cases compileWith_noBody.symm.trans ht
  refine ⟨hparse, hsettings, hformat, hread, hfails, (hsame _ true hcheck).symm ▸ hfails,
    hstdout (.inl hfails), ?_⟩
  show (runWith .standard arguments s).stderr = _
  rw [hstderr _ 1 compileWith_noBody rfl, hlog rfl]
  decide +kernel

theorem compileWith_openRegex : ∃ t, compileWith true "$main : /(/ ;\n" = .ok t ∧
    t.resolveWith Libraries.standard.regex =
      [.invalidRegex "(" "regex parse error:\n    (\n    ^\nerror: unclosed group"] := by
  have hok := compileWith_of_parsed true "$main : /(/ ;\n" (by decide +kernel) (by decide +kernel)
  refine ⟨_, hok, ?_⟩
  rw [(compileWith_isRead hok).1.resolveWith]
  decide +kernel

/-- With a filter that asks for information the log stands before the report, and one error about a
regex takes several lines. -/
theorem run_reports_more :
    (let s := oneFile "A : ;\nB : ;\n" [("RUST_LOG", "info")]
      ∃ i r, Libraries.standard.parse ["grammar"] = .ok i ∧ i.path = some "grammar" ∧
        i.settings (Libraries.standard.config s) s.environment = .ok .default ∧
        i.outputFormat .default = .ok .sbnf ∧ s.read "grammar" = .ok "A : ;\nB : ;\n" ∧
        compileWith Config.Settings.default.registerBuiltins "A : ;\nB : ;\n" = .error r ∧
        (run ["grammar"] s).stderr ≠
          compileReport "grammar" "A : ;\nB : ;\n" Config.Settings.default r) ∧
    (let s := oneFile "$main : /(/ ;\n" []
      ∃ i t, Libraries.standard.parse ["grammar"] = .ok i ∧ i.path = some "grammar" ∧
        i.settings (Libraries.standard.config s) s.environment = .ok .default ∧
        i.outputFormat .default = .ok .sbnf ∧ s.read "grammar" = .ok "$main : /(/ ;\n" ∧
        compileWith Config.Settings.default.registerBuiltins "$main : /(/ ;\n" = .ok t ∧
        (t.resolveWith Libraries.standard.regex).length = 1 ∧
        (run ["grammar"] s).stderr.toList.count '\n' = 5) := by
  have hparse : Libraries.standard.parse ["grammar"] =
      .ok ⟨some "grammar", none, none, [], false, false⟩ := by
    decide
  constructor
  · intro s
    have hsettings : Invocation.settings ⟨some "grammar", none, none, [], false, false⟩
        (Libraries.standard.config s) s.environment = .ok .default := by
      decide +kernel
    have hread : s.read "grammar" = .ok "A : ;\nB : ;\n" := rfl
    have herror : compileWith Config.Settings.default.registerBuiltins "A : ;\nB : ;\n" =
        .error ⟨[noBody 4, noBody 10]⟩ := compileWith_noBody
    have hlog : Libraries.standard.log s true "A : ;\nB : ;\n" ≠ "" := by
      have hlogger : Libraries.standard.logger s.environment =
          ⟨"", fun records =>
            Log.write 0 (records.filter (Log.Filter.mk [⟨"", some .info⟩] none).passes)⟩ := by
        show Logger.ofEnvironment _ = _
        rw [Logger.ofEnvironment, show s.environment.lookup "RUST_LOG" = some "info" from rfl,
          Option.getD_some, Log.parse_info]
      rw [Libraries.log, hlogger, String.empty_append]
      exact Log.write_ne_empty 0 (List.ne_nil_of_mem
        (List.mem_filter.mpr ⟨Log.failure_logged compileWith_noBody, by decide +kernel⟩))
    refine ⟨_, _, hparse, rfl, hsettings, rfl, hread, herror, fun hstderr => hlog ?_⟩
    rw [run, runWith_eq hparse rfl hsettings rfl hread, compileSource_of_error herror] at hstderr
    exact String.append_eq_right_iff.mp hstderr
  · intro s
    have hsettings : Invocation.settings ⟨some "grammar", none, none, [], false, false⟩
        (Libraries.standard.config s) s.environment = .ok .default := by
      decide +kernel
    have hread : s.read "grammar" = .ok "$main : /(/ ;\n" := rfl
    obtain ⟨t, hok, hresolve⟩ := compileWith_openRegex
    have hok' : compileWith Config.Settings.default.registerBuiltins "$main : /(/ ;\n" = .ok t :=
      hok
    have hunresolved : t.resolveWith Libraries.standard.regex ≠ [] := by
      rw [hresolve]
      exact List.cons_ne_nil _ _
    refine ⟨_, t, hparse, rfl, hsettings, rfl, hread, hok', by rw [hresolve]; rfl, ?_⟩
    rw [run, runWith_eq hparse rfl hsettings rfl hread,
      compileSource_of_unresolved hok' hunresolved, hresolve,
      Libraries.documented_standard.log_of_unset rfl]
    decide +kernel

end CommandLine
end GrammarText
