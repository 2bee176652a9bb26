/-
The settings as fields of a configuration tree.  The tree of the defaults has an entry for each of
them, and to set the path of one changes that entry and nothing else.  A tree with an entry for each
is read field by field.
-/
import GrammarText.Config.Loader
import GrammarText.Proofs.Config.Entries
import Mathlib.Logic.Function.Basic

namespace GrammarText
namespace Config

/-! Entries of a value. -/

namespace Value

theorem get?_setEntry (root : Value) (name other : String) (value : Value) :
    (root.setEntry name value).get? other = if other = name then some value else root.get? other :=
  lookup_replaceEntry name other value root.entries

theorem setEntry_setEntry (root : Value) (name : String) (value other : Value) :
    (root.setEntry name other).setEntry name value = root.setEntry name value := by
  cases root <;> exact congrArg _ (replaceEntry_replaceEntry name value other _)

theorem setEntry_of_get? {root : Value} {name : String} {value : Value}
    (h : root.get? name = some value) : root.setEntry name value = root := by
  cases root with
  | table origin entries => exact congrArg _ (replaceEntry_of_lookup h)
  | _ => cases h

/-- To set a path changes the entry of its first name and no other. -/
theorem get?_set_of_ne (root : Value) (path : Path) (value : Value) {name : String}
    (hname : Text.lowercase path.head ≠ name) :
    (root.set path value).get? name = root.get? name := by
  obtain ⟨head, tail⟩ := path
  have hentry : ∃ new, root.set ⟨head, tail⟩ value = root.setEntry (Text.lowercase head) new := by
    cases tail with
    | nil => cases value <;> exact ⟨_, rfl⟩
    | cons step rest => exact ⟨_, rfl⟩
  obtain ⟨new, hnew⟩ := hentry
  rw [hnew, get?_setEntry, if_neg hname.symm]

/-- To merge a table into an entry that is there is to set the members of it in turn. -/
theorem assign_table {root old : Value} {name : String} (hname : Text.lowercase name = name)
    (hold : root.get? name = some old) (origin : Option Origin) (members : List (String × Value)) :
    assign name (table origin members) root =
      members.foldl (fun v (member, value) => v.set ⟨name, [.name member]⟩ value) root := by
  rw [assign]
  simp only [hname, hold, Option.getD_some]
  induction members generalizing root old with
  | nil =>
    rw [assignAll, setEntry_of_get? hold]
    rfl
  | cons member rest ih =>
    have hset : root.set ⟨name, [.name member.1]⟩ member.2 =
        root.setEntry name (assign member.1 member.2 old) := by
      rw [set, setAlong]
      · simp only [hname, hold, Option.getD_some, setAlong]
      · simp
    have hnew : (root.setEntry name (assign member.1 member.2 old)).get? name =
        some (assign member.1 member.2 old) := by
      rw [get?_setEntry, if_pos rfl]
    rw [List.foldl_cons, hset, ← ih hnew, assignAll, assignEntry, setEntry_setEntry]

def isScalar : Value → Bool
  | scalar _ _ => true
  | _ => false

end Value

/-! The settings by name. -/

/-- A setting. -/
inductive Field where
  | registerBuiltins
  | contextLines
  | maxReported
  | format
  deriving Repr, DecidableEq

namespace Field

/-- The name of the group that a setting belongs to. -/
def group : Field → String
  | registerBuiltins => "compile"
  | contextLines | maxReported => "diagnostics"
  | format => "output"

/-- The name of a setting in its group. -/
def name : Field → String
  | registerBuiltins => "register_builtins"
  | contextLines => "context_lines"
  | maxReported => "max_reported"
  | format => "format"

/-- The key of a setting as it is spelled. -/
def key (f : Field) : String :=
  f.group ++ "." ++ f.name

def path (f : Field) : Path :=
  ⟨f.group, [.name f.name]⟩

/-- What a setting is if no layer has it. -/
def default : Field → Value
  | registerBuiltins => .scalar none (.boolean true)
  | contextLines => .scalar none (.integer 2)
  | maxReported => .scalar none (.integer 0)
  | format => .scalar none (.text "sbnf")

/-- Whether a value converts to the type of a setting. -/
def fits (c : Conversions) (f : Field) (v : Value) : Bool :=
  match f with
  | registerBuiltins => (c.boolean f.key v).isOk
  | contextLines | maxReported => (c.word f.key v).isOk
  | format => (c.format v).isOk

theorem lowercase_group (f : Field) : Text.lowercase f.group = f.group := by
  cases f <;> decide +kernel

theorem lowercase_name (f : Field) : Text.lowercase f.name = f.name := by
  cases f <;> decide +kernel

theorem parse_group (f : Field) : Path.parse f.group = .ok ⟨f.group, []⟩ := by
  cases f <;> rfl

theorem parse_key (f : Field) : Path.parse f.key = .ok f.path := by
  cases f <;> rfl

end Field

/-- The tree with a value for each setting and with nothing else. -/
def treeOf (v : Field → Value) : Value :=
  .table none [
    ("compile", .table none [("register_builtins", v .registerBuiltins)]),
    ("diagnostics", .table none [
      ("context_lines", v .contextLines),
      ("max_reported", v .maxReported)]),
    ("output", .table none [("format", v .format)])]

theorem toValue_default : Settings.default.toValue = treeOf Field.default :=
  rfl

theorem get?_treeOf (v : Field → Value) (f : Field) : ((treeOf v).get? f.group).isSome = true := by
  cases f <;> rfl

variable {v : Field → Value} {f : Field} {x : Value}

/-- The path of a setting leads through its group. -/
theorem set_path (root : Value) (hx : x.isScalar = true) :
    root.set f.path x =
      root.setEntry f.group (((root.get? f.group).getD .nothing).setEntry f.name x) := by
  cases x with
  | scalar origin value =>
    rw [Value.set, Field.path, Value.setAlong]
    · simp only [Value.setAlong, Value.assign, f.lowercase_group, f.lowercase_name]
    · simp
  | _ => cases hx

/-- To set the path of a setting changes the value of that setting alone. -/
theorem set_treeOf (hx : x.isScalar = true) :
    (treeOf v).set f.path x = treeOf (Function.update v f x) := by
  rw [set_path _ hx]
  cases f <;> rfl

/-- Whatever else a tree holds, its group of a setting that has been set is a table with the
value. -/
theorem exists_get?_set (root : Value) (f : Field) (hx : x.isScalar = true) :
    ∃ origin members, (root.set f.path x).get? f.group = some (.table origin members) ∧
      members.lookup f.name = some x := by
  rw [set_path root hx, Value.get?_setEntry, if_pos rfl]
  refine ⟨_, _, rfl, ?_⟩
  rw [lookup_replaceEntry, if_pos rfl]

/-! Reading. -/

theorem bind_eq_ok {ε α β : Type} {e : Except ε α} {g : α → Except ε β} {b : β} :
    e >>= g = .ok b ↔ ∃ a, e = .ok a ∧ g a = .ok b := by
  cases e <;> simp [bind, Except.bind]

theorem mapError_eq_ok {ε ε' α : Type} {g : ε → ε'} {e : Except ε α} {b : α} :
    e.mapError g = .ok b ↔ e = .ok b := by
  cases e with
  | error fault => exact ⟨nofun, nofun⟩
  | ok a =>
    exact ⟨fun h => congrArg Except.ok (Except.ok.inj h),
      fun h => congrArg Except.ok (Except.ok.inj h)⟩

theorem exists_mapError_eq_error {ε ε' α : Type} {g : ε → ε'} {e : Except ε α} :
    (∃ fault, e.mapError g = .error fault) ↔ ∃ fault, e = .error fault := by
  cases e with
  | error fault => exact ⟨fun _ => ⟨fault, rfl⟩, fun _ => ⟨g fault, rfl⟩⟩
  | ok a =>
    constructor
    · rintro ⟨fault, h⟩
      cases h
    · rintro ⟨fault, h⟩
      cases h

theorem isOk_iff {ε α : Type} {e : Except ε α} : e.isOk = true ↔ ∃ a, e = .ok a := by
  cases e <;> simp [Except.isOk, Except.toBool]

variable {c : Conversions}

/-- The settings that are read from their values, in the order in which they are read. -/
def readFields (c : Conversions) (v : Field → Value) : Except SettingsError Settings := do
  let registerBuiltins ← c.boolean Field.registerBuiltins.key (v .registerBuiltins)
  let contextLines ← c.word Field.contextLines.key (v .contextLines)
  let maxReported ← c.word Field.maxReported.key (v .maxReported)
  return ⟨registerBuiltins, contextLines, maxReported, ← c.format (v .format)⟩

/-- A setting that a group has in a table. -/
theorem read_table {α : Type} {g : Group} {origin : Option Origin}
    {members : List (String × Value)} {name : String} {value : Value}
    (hbody : g.body = .table origin members) (hvalue : members.lookup name = some value)
    (reader : String → Value → Except SettingsError α) :
    g.read name reader = (reader (g.key ++ "." ++ name) value).map some := by
  have hmember : g.member? name = some (g.key ++ "." ++ name, value) := by
    unfold Group.member?
    simp only [hbody, Value.get?, Value.entries, hvalue, Option.map_some]
  rw [Group.read, hmember]

theorem ofValue_treeOf (c : Conversions) (v : Field → Value) :
    Settings.ofValue c (treeOf v) = readFields c v := by
  let compile : Group := ⟨"compile", "CompileConfig", ["register_builtins"],
    .table none [("register_builtins", v .registerBuiltins)]⟩
  let diagnostics : Group := ⟨"diagnostics", "DiagnosticsConfig",
    ["context_lines", "max_reported"],
    .table none [("context_lines", v .contextLines), ("max_reported", v .maxReported)]⟩
  let output : Group := ⟨"output", "OutputConfig", ["format"],
    .table none [("format", v .format)]⟩
  have hcompile : Settings.group (treeOf v) "compile" "CompileConfig" ["register_builtins"] =
      .ok compile := rfl
  have hdiagnostics : Settings.group (treeOf v) "diagnostics" "DiagnosticsConfig"
      ["context_lines", "max_reported"] = .ok diagnostics := rfl
  have houtput : Settings.group (treeOf v) "output" "OutputConfig" ["format"] = .ok output := rfl
  have hbuiltins : compile.read "register_builtins" c.boolean =
      (c.boolean Field.registerBuiltins.key (v .registerBuiltins)).map some := read_table rfl rfl _
  have hcontext : diagnostics.read "context_lines" c.word =
      (c.word Field.contextLines.key (v .contextLines)).map some := read_table rfl rfl _
  have hmax : diagnostics.read "max_reported" c.word =
      (c.word Field.maxReported.key (v .maxReported)).map some := read_table rfl rfl _
  have hformat : output.read "format" (fun _ => c.format) =
      (c.format (v .format)).map some := read_table rfl rfl _
  simp only [Settings.ofValue, hcompile, hdiagnostics, houtput, hbuiltins, hcontext, hmax, hformat,
    readFields, bind, Except.bind]
  cases c.boolean Field.registerBuiltins.key (v .registerBuiltins) with
  | error e => rfl
  | ok registerBuiltins =>
    cases c.word Field.contextLines.key (v .contextLines) with
    | error e => rfl
    | ok contextLines =>
      cases c.word Field.maxReported.key (v .maxReported) with
      | error e => rfl
      | ok maxReported => cases c.format (v .format) <;> rfl

/-- The values convert to the settings. -/
structure Reads (c : Conversions) (v : Field → Value) (s : Settings) : Prop where
  registerBuiltins :
    c.boolean Field.registerBuiltins.key (v .registerBuiltins) = .ok s.registerBuiltins
  contextLines : c.word Field.contextLines.key (v .contextLines) = .ok s.contextLines
  maxReported : c.word Field.maxReported.key (v .maxReported) = .ok s.maxReported
  format : c.format (v .format) = .ok s.format

theorem readFields_eq_ok {s : Settings} : readFields c v = .ok s ↔ Reads c v s := by
  constructor
  · intro h
    obtain ⟨registerBuiltins, hbuiltins, h⟩ := bind_eq_ok.mp h
    obtain ⟨contextLines, hcontext, h⟩ := bind_eq_ok.mp h
    obtain ⟨maxReported, hmax, h⟩ := bind_eq_ok.mp h
    obtain ⟨format, hformat, h⟩ := bind_eq_ok.mp h
    cases h
    exact ⟨hbuiltins, hcontext, hmax, hformat⟩
  · rintro ⟨hbuiltins, hcontext, hmax, hformat⟩
    rw [readFields, hbuiltins, hcontext, hmax, hformat]
    rfl

theorem exists_reads : (∃ s, Reads c v s) ↔ ∀ f : Field, f.fits c (v f) = true := by
  constructor
  · rintro ⟨s, hs⟩ f
    cases f with
    | registerBuiltins => exact isOk_iff.mpr ⟨_, hs.registerBuiltins⟩
    | contextLines => exact isOk_iff.mpr ⟨_, hs.contextLines⟩
    | maxReported => exact isOk_iff.mpr ⟨_, hs.maxReported⟩
    | format => exact isOk_iff.mpr ⟨_, hs.format⟩
  · intro h
    obtain ⟨registerBuiltins, hbuiltins⟩ := isOk_iff.mp (h .registerBuiltins)
    obtain ⟨contextLines, hcontext⟩ := isOk_iff.mp (h .contextLines)
    obtain ⟨maxReported, hmax⟩ := isOk_iff.mp (h .maxReported)
    obtain ⟨format, hformat⟩ := isOk_iff.mp (h .format)
    exact ⟨⟨registerBuiltins, contextLines, maxReported, format⟩, hbuiltins, hcontext, hmax,
      hformat⟩

/-- Reading fails if and only if one of the values does not convert. -/
theorem exists_readFields_eq_error :
    (∃ e, readFields c v = .error e) ↔ ∃ f : Field, f.fits c (v f) = false := by
  have hnot : (∃ e, readFields c v = .error e) ↔ ¬ ∃ s, readFields c v = .ok s := by
    cases readFields c v <;> simp
  rw [hnot]
  simp only [readFields_eq_ok, exists_reads, not_forall, Bool.not_eq_true]

/-- Whatever else the tree holds, a truth value for the builtin tokens is read. -/
theorem registerBuiltins_of_get? {root : Value} {o origin : Option Origin}
    {members : List (String × Value)} {b : Bool} {s : Settings}
    (hentry : root.get? "compile" = some (.table o members))
    (hvalue : members.lookup "register_builtins" = some (.scalar origin (.boolean b)))
    (h : Settings.ofValue c root = .ok s) : s.registerBuiltins = b := by
  have hgroup : Settings.group root "compile" "CompileConfig" ["register_builtins"] =
      .ok ⟨"compile", "CompileConfig", ["register_builtins"], .table o members⟩ := by
    rw [Settings.group, hentry]
  obtain ⟨compile, hcompile, h⟩ := bind_eq_ok.mp h
  obtain rfl := Except.ok.inj (hgroup.symm.trans hcompile)
  obtain ⟨builtins, hbuiltins, h⟩ := bind_eq_ok.mp h
  rw [read_table rfl hvalue, c.boolean_truth] at hbuiltins
  obtain rfl : some b = builtins := Except.ok.inj hbuiltins
  obtain ⟨registerBuiltins, hdemand, h⟩ := bind_eq_ok.mp h
  obtain rfl : b = registerBuiltins := Except.ok.inj hdemand
  -- The other settings are read behind this one, and make no difference to it.
  obtain ⟨diagnostics, -, h⟩ := bind_eq_ok.mp h
  obtain ⟨context, -, h⟩ := bind_eq_ok.mp h
  obtain ⟨max, -, h⟩ := bind_eq_ok.mp h
  obtain ⟨contextLines, -, h⟩ := bind_eq_ok.mp h
  obtain ⟨maxReported, -, h⟩ := bind_eq_ok.mp h
  obtain ⟨output, -, h⟩ := bind_eq_ok.mp h
  obtain ⟨name, -, h⟩ := bind_eq_ok.mp h
  obtain ⟨format, -, h⟩ := bind_eq_ok.mp h
  cases h
  rfl

end Config
end GrammarText
