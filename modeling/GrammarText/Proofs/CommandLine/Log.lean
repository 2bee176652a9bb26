/-
The log of a compilation.  None of its records is of an error, so a logger that only errors are
asked of has nothing to write, and that of the program is such a logger where the environment does
not ask for more.
-/
import GrammarText.CommandLine.Run
import GrammarText.Proofs.Compilation

namespace GrammarText
namespace CommandLine
namespace Log

theorem level_ne_error_of_trace {t : Recovery.Trace} {r : Record} (h : r ∈ ofTrace t) :
    r.level ≠ .error := by
  simp only [ofTrace, List.mem_append, List.mem_map] at h
  rcases h with ((h | ⟨step, -, rfl⟩) | ⟨skipped, -, rfl⟩) | ⟨d, -, rfl⟩
  · split at h
    · cases h
    · rw [List.mem_singleton.mp h]
      exact nofun
  · cases step <;> exact nofun
  · simp only [ofSkipped]
    split <;> exact nofun
  · exact nofun

/-- No record of a compilation is of an error, since those are in its report. -/
theorem level_ne_error {withBuiltins : Bool} {source : String} {r : Record}
    (h : r ∈ ofSource withBuiltins source) : r.level ≠ .error := by
  simp only [ofSource, List.mem_append, List.mem_map] at h
  rcases h with (h | ⟨d, -, rfl⟩) | h
  · exact level_ne_error_of_trace h
  · exact nofun
  · split at h
    · rw [List.mem_singleton.mp h]
      exact nofun
    · split at h
      · rw [List.mem_singleton.mp h]
        exact nofun
      · cases h

/-- That a source does not compile is logged as information. -/
theorem failure_logged {withBuiltins : Bool} {source : String} {r : Report}
    (h : compileWith withBuiltins source = .error r) :
    ⟨.info, .compiler, "compile failed with " ++ toString r.length ++ " diagnostics"⟩ ∈
      ofSource withBuiltins source := by
  obtain ⟨hclean, rfl⟩ := compileWith_eq_error.mp h
  replace hclean : (ParsedSource.ofTrace (Recovery.trace source)).isClean = false := hclean
  unfold ofSource
  simp only [hclean, Bool.not_false, if_true]
  exact List.mem_append_right _ (List.mem_singleton_self _)

/- The filter of the program. -/

theorem splitOn_empty {separator : String} (h : (separator == "") = false) :
    "".splitOn separator = [""] := by
  rw [String.splitOn, if_neg (Bool.eq_false_iff.mp h), String.splitOnAux]
  rfl

/-- A filter that is empty asks for errors. -/
theorem parse_empty : Filter.parse "" = (⟨[⟨"", some .error⟩], none⟩, "") := by
  unfold Filter.parse
  rw [splitOn_empty (by decide)]
  simp only [Filter.readItems, items]
  rw [splitOn_empty (by decide)]
  rfl

theorem not_passes_of_level {r : Record} (h : r.level ≠ .error) :
    (Filter.parse "").1.passes r = false := by
  have hdirective : (Filter.parse "").1.directive? r.part = some ⟨"", some .error⟩ := by
    rw [parse_empty]
    simp [Filter.directive?]
  unfold Filter.passes
  rw [hdirective]
  obtain ⟨level, part, message⟩ := r
  cases level with
  | error => exact absurd rfl h
  | _ => rfl

/-- At a character that does not start the separator a split goes on. -/
theorem splitOnAux_next {s separator : String} {start here : String.Pos.Raw} {parts : List String}
    (hend : here.atEnd s = false) (hne : (here.get s == String.Pos.Raw.get separator 0) = false) :
    s.splitOnAux separator start here 0 parts =
      s.splitOnAux separator start (here.next s) 0 parts := by
  rw [String.splitOnAux, if_neg (Bool.eq_false_iff.mp hend), if_neg (Bool.eq_false_iff.mp hne)]
  rfl

theorem splitOn_info {separator : String}
    (h : separator = "/" ∨ separator = "," ∨ separator = "=") :
    "info".splitOn separator = ["info"] := by
  rcases h with rfl | rfl | rfl <;>
  · rw [String.splitOn, if_neg (by decide), splitOnAux_next, splitOnAux_next, splitOnAux_next,
      splitOnAux_next, String.splitOnAux, if_pos] <;> decide

theorem parse_info : Log.Filter.parse "info" = (⟨[⟨"", some .info⟩], none⟩, "") := by
  have hslash : "info".splitOn "/" = ["info"] := splitOn_info (.inl rfl)
  have hcomma : "info".splitOn "," = ["info"] := splitOn_info (.inr (.inl rfl))
  have hequals : "info".splitOn "=" = ["info"] := splitOn_info (.inr (.inr rfl))
  have hitem : Log.item "info" = .ok ⟨"", some .info⟩ := by
    unfold Log.item
    rw [hequals]
    decide
  have hitems : Log.items "info" = [.ok ⟨"", some .info⟩] := by
    unfold Log.items
    rw [hcomma, ← hitem]
    rfl
  unfold Log.Filter.parse
  rw [hslash]
  simp only [Log.Filter.readItems, hitems]
  rfl

theorem write_ne_empty (width : Nat) {records : List Record} (h : records ≠ []) :
    write width records ≠ "" := by
  cases records with
  | nil => exact absurd rfl h
  | cons first rest =>
    intro hempty
    have hlength := congrArg String.length hempty
    simp [write] at hlength

end Log

theorem Logger.start_ofEnvironment_of_unset {environment : List (String × String)}
    (h : environment.lookup "RUST_LOG" = none) : (ofEnvironment environment).start = "" := by
  unfold ofEnvironment
  rw [h, Option.getD_none, Log.parse_empty]

theorem Logger.write_ofEnvironment_of_unset {environment : List (String × String)}
    (h : environment.lookup "RUST_LOG" = none) {records : List Log.Record}
    (hrecords : ∀ r ∈ records, r.level ≠ .error) :
    (ofEnvironment environment).write records = "" := by
  have hfilter : records.filter (Log.Filter.parse "").1.passes = [] :=
    List.filter_eq_nil_iff.mpr fun r hr =>
      Bool.eq_false_iff.mp (Log.not_passes_of_level (hrecords r hr))
  unfold ofEnvironment
  rw [h, Option.getD_none]
  show Log.write 0 (records.filter (Log.Filter.parse "").1.passes) = ""
  rw [hfilter]
  rfl

end CommandLine
end GrammarText
