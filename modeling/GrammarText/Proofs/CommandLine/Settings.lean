/-
The settings of an invocation.  Where the layers assign the settings alone, each has the value of
the topmost layer that has it, and the flag for the builtin tokens is a layer of its own on top.
Where they hold anything else besides, the flag still has the last word on its setting.
-/
import GrammarText.CommandLine.Command
import GrammarText.Config.Conversions
import GrammarText.Proofs.Config.Layers

namespace GrammarText
namespace CommandLine

open Config

/-! Overrides that stay. -/

/-- What is overridden after texts have been applied is either one of them or was there before. -/
theorem mem_overrides {texts : List String} {before after : Loader}
    (h : texts.foldlM Loader.withSetting before = .ok after) {path : Path} {value : Value}
    (hentry : (path, value) ∈ after.overrides.items) :
    (∃ text ∈ texts, Override.parse text = .ok ⟨path, value⟩) ∨
      (path, value) ∈ before.overrides.items := by
  induction texts generalizing before with
  | nil =>
    cases h
    exact .inr hentry
  | cons text rest ih =>
    rw [List.foldlM_cons] at h
    obtain ⟨mid, hfirst, hrest⟩ := bind_eq_ok.mp h
    rw [Loader.withSetting] at hfirst
    cases hparse : Override.parse text with
    | error fault =>
      rw [hparse] at hfirst
      cases hfirst
    | ok o =>
      rw [hparse] at hfirst
      cases hfirst
      rcases ih hrest with ⟨text', hmem, htext'⟩ | hmid
      · exact .inl ⟨text', List.mem_cons_of_mem _ hmem, htext'⟩
      · rcases mem_replaceEntry hmid with heq | hbefore
        · cases heq
          exact .inl ⟨text, List.mem_cons_self .., hparse⟩
        · exact .inr hbefore

/-- Values that are put elsewhere leave an entry of a tree alone. -/
theorem get?_foldl_set {name : String} {entries : List (Path × Value)}
    (h : ∀ entry ∈ entries, Text.lowercase entry.1.head ≠ name) (root : Value) :
    (entries.foldl (fun v (path, value) => v.set path value) root).get? name =
      root.get? name := by
  induction entries generalizing root with
  | nil => rfl
  | cons entry rest ih =>
    obtain ⟨hentry, hrest⟩ := List.forall_mem_cons.mp h
    rw [List.foldl_cons, ih hrest]
    exact Value.get?_set_of_ne root entry.1 entry.2 hentry

/-- A truth value that is put at the setting for the builtin tokens is read, in whatever order the
overrides are gone through, if the others are put at other groups. -/
theorem registerBuiltins_of_override {lib : Library} {loader : Loader} {root : Value}
    {origin : Option Origin} {b : Bool} {s : Settings}
    (hmem : (Field.registerBuiltins.path, .scalar origin (.boolean b)) ∈ loader.overrides.items)
    (hothers : ∀ path value, (path, value) ∈ loader.overrides.items →
      path = Field.registerBuiltins.path ∨ Text.lowercase path.head ≠ "compile")
    (h : Settings.ofValue lib.conversions (loader.putOverrides lib root) = .ok s) :
    s.registerBuiltins = b := by
  have hnodup := ((lib.order.perm loader.overrides.items).map Prod.fst).nodup_iff.mpr
    loader.overrides.distinct
  rw [← lib.order.mem_arrange] at hmem
  obtain ⟨before, after, hsplit⟩ := List.append_of_mem hmem
  rw [hsplit, List.map_append, List.map_cons] at hnodup
  have hapart : ∀ entry ∈ after, Text.lowercase entry.1.head ≠ "compile" := by
    intro entry hentry
    have hitems : entry ∈ lib.order.arrange loader.overrides.items := by
      rw [hsplit]
      exact List.mem_append_right _ (List.mem_cons_of_mem _ hentry)
    refine (hothers entry.1 entry.2 (lib.order.mem_arrange.mp hitems)).resolve_left fun heq => ?_
    have hnot := (List.nodup_cons.mp hnodup.of_append_right).1
    exact hnot (List.mem_map.mpr ⟨entry, hentry, heq⟩)
  obtain ⟨o, members, hentry, hvalue⟩ : ∃ o members,
      (loader.putOverrides lib root).get? "compile" = some (.table o members) ∧
        members.lookup "register_builtins" = some (.scalar origin (.boolean b)) := by
    rw [Loader.putOverrides, hsplit, List.foldl_append, List.foldl_cons, get?_foldl_set hapart]
    exact exists_get?_set _ .registerBuiltins rfl
  exact registerBuiltins_of_get? hentry hvalue h

namespace Invocation

variable {i : Invocation} {lib : Library} {environment : List (String × String)}
  {a : Assignments}

/-- The layer of the flag for the builtin tokens. -/
def flagged (i : Invocation) : List (Field × Value) :=
  if i.noBuiltins then [(.registerBuiltins, .scalar none (.boolean false))] else []

/-- The values that the layers give the settings, with the flag for the builtin tokens on top. -/
def values (i : Invocation) (a : Assignments) : Field → Value :=
  if i.noBuiltins then Function.update a.value .registerBuiltins (.scalar none (.boolean false))
  else a.value

theorem value_flagged (i : Invocation) (a : Assignments) :
    { a with settings := a.settings ++ i.flagged }.value = i.values a := by
  rw [Assignments.value_eq, applied, List.foldl_append, values, flagged]
  split
  · rw [Assignments.value_eq]
    rfl
  · rw [Assignments.value_eq]
    rfl

theorem loader_eq (htexts : TextsAssign i.assignments a.settings) :
    i.loader = .ok ({ a with settings := a.settings ++ i.flagged }.loader i.config) := by
  have hlayered : Loader.layered i.config = ⟨(i.config.map Source.file).toList ++ [.environment],
      .empty⟩ := by
    cases i.config <;> rfl
  rw [loader, htexts.foldlM_withSetting, hlayered]
  refine congrArg Except.ok ?_
  rw [Assignments.loader, flagged, List.map_append, Entries.insertAll, Entries.insertAll,
    List.foldl_append]
  split <;> rfl

theorem settings_eq (hbelow : a.Below lib i.config environment)
    (htexts : TextsAssign i.assignments a.settings) :
    i.settings lib environment =
      ((readFields lib.conversions (i.values a)).mapError .settings).mapError
        LoadError.message := by
  have hflagged : { a with settings := a.settings ++ i.flagged }.Below lib i.config environment :=
    ⟨hbelow.noFile, hbelow.file, hbelow.environment⟩
  have hscalar : ∀ p ∈ a.settings ++ i.flagged, p.2.isScalar = true := by
    refine List.forall_mem_append.mpr ⟨htexts.isScalar, ?_⟩
    unfold flagged
    split
    · exact List.forall_mem_singleton.mpr rfl
    · exact fun _ hp => nomatch hp
  rw [settings, loader_eq htexts]
  show (Loader.build lib environment _).mapError LoadError.message = _
  rw [hflagged.build_eq hscalar, value_flagged]

/-- With the flag no builtin tokens are registered, whatever the file and the environment hold, if
the texts set nothing else of the group of its setting. -/
theorem registerBuiltins_eq_false {s : Settings} (hflag : i.noBuiltins = true)
    (htexts : ∀ text ∈ i.assignments, (∃ (f : Field) (x : Value), f.IsSetting x text) ∨
      ∀ o, Override.parse text = .ok o → Text.lowercase o.path.head ≠ "compile")
    (h : i.settings lib environment = .ok s) : s.registerBuiltins = false := by
  obtain ⟨loader, hloader, hbuild⟩ := bind_eq_ok.mp h
  rw [mapError_eq_ok] at hloader hbuild
  obtain ⟨given, hgiven, hflagged⟩ := bind_eq_ok.mp hloader
  rw [hflag] at hflagged
  obtain rfl : given.setOverride .noBuiltins = loader := Except.ok.inj hflagged
  obtain ⟨root, -, hread⟩ := bind_eq_ok.mp hbuild
  rw [mapError_eq_ok] at hread
  have hlayered : (Loader.layered i.config).overrides.items = [] := by
    cases i.config <;> rfl
  have hflags : (Field.registerBuiltins.path, .scalar none (.boolean false)) ∈
      (given.setOverride .noBuiltins).overrides.items := by
    rw [← lookup_eq_some_iff_mem (given.setOverride .noBuiltins).overrides.distinct]
    show (replaceEntry Field.registerBuiltins.path _ given.overrides.items).lookup _ = _
    rw [lookup_replaceEntry, if_pos rfl]
    rfl
  refine registerBuiltins_of_override hflags (fun path value hentry => ?_) hread
  rcases mem_replaceEntry hentry with heq | hentry
  · exact .inl (congrArg Prod.fst heq)
  · rcases mem_overrides hgiven hentry with ⟨text, htext, hparse⟩ | hnone
    · rcases htexts text htext with ⟨f, x, hsetting⟩ | hother
      · have hpath : f.path = path :=
          congrArg Override.path (Except.ok.inj (hsetting.parse.symm.trans hparse))
        rw [← hpath]
        cases f with
        | registerBuiltins => exact .inl rfl
        | contextLines => exact .inr (by decide +kernel)
        | maxReported => exact .inr (by decide +kernel)
        | format => exact .inr (by decide +kernel)
      · exact .inr (hother ⟨path, value⟩ hparse)
    · rw [hlayered] at hnone
      cases hnone

end Invocation
end CommandLine

namespace Config

open CommandLine

/-- Layers override field by field.  Where they assign the four settings alone, each setting has the
value of the last text for it, else that of the environment, else that of the file, else its
default, and the flag for the builtin tokens is over all of them.  The settings are read from these
values, so loading fails if and only if one of them does not convert; values below them may be of
any kind.  Texts for different settings may change places, and maps may be gone through in any
order.  The flag has its way whatever else the file and the environment hold. -/
theorem layers_override_field_by_field {lib : Library} {environment : List (String × String)}
    {i : Invocation} {a : Assignments} (hbelow : a.Below lib i.config environment)
    (htexts : TextsAssign i.assignments a.settings) :
    (∀ s, i.settings lib environment = .ok s ↔ Reads lib.conversions (i.values a) s) ∧
    ((∃ message, i.settings lib environment = .error message) ↔
      ∃ f : Field, f.fits lib.conversions (i.values a f) = false) ∧
    (∀ before first second after (f g : Field) x y,
      i.assignments = before ++ first :: second :: after → f.IsSetting x first →
        g.IsSetting y second → f ≠ g → ∀ order s,
          { i with assignments := before ++ second :: first :: after }.settings
            { lib with order } environment = .ok s ↔ i.settings lib environment = .ok s) ∧
    (∀ (lib' : Library) (environment' : List (String × String)) (i' : Invocation) (s : Settings),
      i'.noBuiltins = true →
        (∀ text ∈ i'.assignments, (∃ (f : Field) (x : Value), f.IsSetting x text) ∨
          ∀ o, Override.parse text = .ok o → Text.lowercase o.path.head ≠ "compile") →
        i'.settings lib' environment' = .ok s → s.registerBuiltins = false) := by
  have hload : ∀ s, i.settings lib environment = .ok s ↔
      Reads lib.conversions (i.values a) s := by
    intro s
    rw [Invocation.settings_eq hbelow htexts, mapError_eq_ok, mapError_eq_ok, readFields_eq_ok]
  refine ⟨hload, ?_, ?_, fun lib' environment' i' s hflag hapart hs =>
    Invocation.registerBuiltins_eq_false hflag hapart hs⟩
  · rw [Invocation.settings_eq hbelow htexts, exists_mapError_eq_error, exists_mapError_eq_error,
      exists_readFields_eq_error]
  · intro before first second after f g x y hgiven hfirst hsecond hfg order s
    rw [hgiven] at htexts
    obtain ⟨earlier, later, hsettings, htexts'⟩ := htexts.swap hfirst hsecond
    let a' : Assignments := { a with settings := earlier ++ (g, y) :: (f, x) :: later }
    let i' : Invocation := { i with assignments := before ++ second :: first :: after }
    have hbelow' : a'.Below { lib with order } i'.config environment :=
      ⟨hbelow.noFile, hbelow.file, hbelow.environment⟩
    replace htexts' : TextsAssign i'.assignments a'.settings := htexts'
    have hvalue : a'.value = a.value := by
      funext k
      unfold Assignments.value
      rw [hsettings, last?_swap hfg x y earlier later k]
    have hvalues : i'.values a' = i.values a := by
      unfold Invocation.values
      rw [hvalue]
    rw [hload, ← hvalues, ← readFields_eq_ok]
    show i'.settings { lib with order } environment = .ok s ↔ _
    rw [Invocation.settings_eq hbelow' htexts', mapError_eq_ok, mapError_eq_ok]

/-- A number in the file is no name of a format, and makes no difference below a text that is.  With
the flag nothing but the setting for the builtin tokens changes, and that maps are gone through
backwards makes no difference. -/
theorem layers_override_field_by_field_unfit :
    let inFile := Value.scalar (some (.file "a")) (.integer 1)
    let lib : Library := {
      readFile := fun _ => .ok [("output", .table (some (.file "a")) [("format", inFile)])]
      order := ⟨List.reverse, List.reverse_perm⟩
      conversions := .standard }
    let environment := [("HOME", "/"), (Field.contextLines.variableName, "4")]
    let i : Invocation := ⟨some "g", some "a", none,
      ["output.format = yaml", " diagnostics.max_reported =7"], true, false⟩
    i.settings lib environment = .ok ⟨false, 4, 7, .yaml⟩ ∧
      Field.format.fits .standard inFile = false := by
  intro inFile lib environment i
  let a : Assignments := {
    file := [(.format, inFile)]
    environment := [(.contextLines, .scalar (some .environment) (Environment.scalar "4"))]
    settings := [(.format, .scalar none (.text "yaml")), (.maxReported, .scalar none (.text "7"))] }
  have hmembers : ∀ p ∈ [(Field.format, inFile)],
      p.1.group = Field.format.group ∧ p.2.isScalar = true :=
    List.forall_mem_singleton.mpr ⟨rfl, rfl⟩
  have hbelow : a.Below lib i.config environment := {
    noFile := nofun
    file := fun _ _ => ⟨_, rfl, .group hmembers .nil⟩
    environment := .foreign (by decide +kernel) (.setting (key?_variableName .contextLines) .nil) }
  have hformat : Field.format.IsSetting (.scalar none (.text "yaml")) "output.format = yaml" :=
    ⟨"output.format ".toList, " yaml".toList, rfl, by decide, rfl⟩
  have hmax : Field.maxReported.IsSetting (.scalar none (.text "7"))
      " diagnostics.max_reported =7" :=
    ⟨" diagnostics.max_reported ".toList, ['7'], rfl, by decide, rfl⟩
  have htexts : TextsAssign i.assignments a.settings := .cons hformat (.cons hmax .nil)
  obtain ⟨hload, -⟩ := layers_override_field_by_field hbelow htexts
  have hcontext : (a.value .contextLines).toWord Field.contextLines.key = .ok 4 := by
    decide +kernel
  have hmost : (a.value .maxReported).toWord Field.maxReported.key = .ok 7 := by decide +kernel
  have hname : (a.value .format).toFormat = .ok .yaml := by decide +kernel
  exact ⟨(hload _).mpr ⟨rfl, hcontext, hmost, hname⟩, rfl⟩

end Config
end GrammarText
