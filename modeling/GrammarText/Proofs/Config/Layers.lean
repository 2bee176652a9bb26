/-
Layers that assign the settings.  A file gives them in tables, the environment in variables and a
command line in texts of a key, an equals sign and a value.  Where no layer sets anything else, the
tree of all layers has for each setting the last value that the topmost layer with the setting gives
it, in whatever order the layers are gone through.  Values below that are never looked at.
-/
import GrammarText.Proofs.Config.Fields
import Mathlib.Data.List.Forall2
import Mathlib.Data.List.Induction
import Mathlib.Data.List.TakeWhile
import Mathlib.Data.Set.List

namespace GrammarText
namespace Config

/-! Assignments in turn. -/

/-- The value that a setting is given last. -/
def last? (f : Field) (given : List (Field × Value)) : Option Value :=
  given.reverse.lookup f

def applied (v : Field → Value) (given : List (Field × Value)) : Field → Value :=
  given.foldl (fun v (f, x) => Function.update v f x) v

theorem last?_append (f : Field) (first later : List (Field × Value)) :
    last? f (first ++ later) = (last? f later).or (last? f first) := by
  rw [last?, List.reverse_append, List.lookup_append]
  rfl

theorem last?_singleton (f g : Field) (x : Value) :
    last? f [(g, x)] = if f = g then some x else none := by
  rw [last?, List.reverse_singleton, List.lookup_cons]
  split_ifs with hfg
  · rw [hfg, beq_self_eq_true]
  · rw [beq_false_of_ne hfg]
    rfl

theorem applied_apply (v : Field → Value) (given : List (Field × Value)) (f : Field) :
    applied v given f = (last? f given).getD (v f) := by
  induction given using List.reverseRecOn with
  | nil => rfl
  | append_singleton before entry ih =>
    obtain ⟨g, x⟩ := entry
    rw [applied, List.foldl_append, last?_append, last?_singleton]
    show Function.update (applied v before) g x f = _
    rw [Function.update_apply, ih]
    split_ifs <;> rfl

/-- Two neighbours of different settings may change places. -/
theorem last?_swap {f g : Field} (hfg : f ≠ g) (x y : Value) (before after : List (Field × Value))
    (k : Field) : last? k (before ++ (f, x) :: (g, y) :: after) =
      last? k (before ++ (g, y) :: (f, x) :: after) := by
  have hapart : ∀ first second : Field × Value, last? k (before ++ first :: second :: after) =
      ((last? k after).or ((last? k [second]).or (last? k [first]))).or (last? k before) := by
    intro first second
    rw [show before ++ first :: second :: after = before ++ (([first] ++ [second]) ++ after) from
      rfl, last?_append, last?_append, last?_append]
  rw [hapart, hapart, last?_singleton, last?_singleton]
  split_ifs with hg hf
  · exact absurd (hf.symm.trans hg) hfg
  all_goals rfl

variable {v : Field → Value} {given : List (Field × Value)}

/-- With one value for each setting, the last is the only one. -/
theorem last?_of_nodup (h : (given.map Prod.fst).Nodup) (f : Field) :
    last? f given = given.lookup f :=
  lookup_of_perm given.reverse_perm h f

/-- Values that are put in a tree of the settings in turn, where each is put at its own. -/
theorem foldl_treeOf {κ : Type} {put : Value → κ × Value → Value} {spell : Field → κ}
    (hput : ∀ v f x, x.isScalar = true →
      put (treeOf v) (spell f, x) = treeOf (Function.update v f x))
    (hscalar : ∀ p ∈ given, p.2.isScalar = true) :
    (given.map fun (f, x) => (spell f, x)).foldl put (treeOf v) = treeOf (applied v given) := by
  induction given generalizing v with
  | nil => rfl
  | cons entry rest ih =>
    obtain ⟨hx, hrest⟩ := List.forall_mem_cons.mp hscalar
    rw [List.map_cons, List.foldl_cons, hput v entry.1 entry.2 hx, ih hrest]
    rfl

theorem put_path (v : Field → Value) (f : Field) (x : Value) (hx : x.isScalar = true) :
    (fun root (entry : Path × Value) => Value.set root entry.1 entry.2) (treeOf v) (f.path, x) =
      treeOf (Function.update v f x) :=
  set_treeOf hx

theorem put_key (v : Field → Value) (f : Field) (x : Value) (hx : x.isScalar = true) :
    (fun root (entry : String × Value) => Value.setKey root entry.1 entry.2) (treeOf v)
      (f.key, x) = treeOf (Function.update v f x) := by
  show (treeOf v).setKey f.key x = _
  rw [Value.setKey, f.parse_key]
  exact set_treeOf hx

/-- A map of values by settings has the last value of each, so the order in which it is gone through
makes no difference to a tree that they are put in. -/
theorem foldl_arrange {κ : Type} [DecidableEq κ] {put : Value → κ × Value → Value}
    {spell : Field → κ} (hspell : Function.Injective spell)
    (hput : ∀ v f x, x.isScalar = true →
      put (treeOf v) (spell f, x) = treeOf (Function.update v f x))
    (order : Order) (hscalar : ∀ p ∈ given, p.2.isScalar = true) :
    (order.arrange (Entries.empty.insertAll (given.map fun (f, x) => (spell f, x))).items).foldl
      put (treeOf v) = treeOf (applied v given) := by
  generalize hentries : Entries.empty.insertAll (given.map fun (f, x) => (spell f, x)) = entries
  have hgiven : ∀ entry ∈ order.arrange entries.items, ∃ p ∈ given, (spell p.1, p.2) = entry := by
    intro entry hentry
    rw [order.mem_arrange, ← hentries] at hentry
    rcases Entries.mem_insertAll hentry with h | h
    · exact List.mem_map.mp h
    · cases h
  -- What is gone through is a list by settings too, of one value for each.
  obtain ⟨visited, hvisited⟩ : order.arrange entries.items ∈
      Set.range (List.map fun p : Field × Value => (spell p.1, p.2)) := by
    rw [Set.range_list_map]
    intro entry hentry
    obtain ⟨p, -, hp⟩ := hgiven entry hentry
    exact ⟨p, hp⟩
  have hscalar' : ∀ p ∈ visited, p.2.isScalar = true := by
    intro p hp
    obtain ⟨q, hq, heq⟩ := hgiven (spell p.1, p.2)
      (hvisited ▸ List.mem_map_of_mem (f := fun p : Field × Value => (spell p.1, p.2)) hp)
    rw [← (Prod.mk.inj heq).2]
    exact hscalar q hq
  have hnodup : (visited.map Prod.fst).Nodup := by
    have hkeys := ((order.perm entries.items).map Prod.fst).nodup_iff.mpr entries.distinct
    rw [← hvisited, List.map_map] at hkeys
    refine List.Nodup.of_map spell ?_
    rw [List.map_map]
    exact hkeys
  have hlast : ∀ f, last? f visited = last? f given := by
    intro f
    calc last? f visited = visited.lookup f := last?_of_nodup hnodup f
      _ = (order.arrange entries.items).lookup (spell f) := by
        rw [← hvisited]
        exact (lookup_map_key hspell visited f).symm
      _ = entries.items.lookup (spell f) := order.lookup_arrange entries _
      _ = last? f given := by
        rw [← hentries, Entries.lookup_insertAll, ← List.map_reverse,
          lookup_map_key hspell given.reverse f]
        exact Option.or_none
  rw [← hvisited]
  refine (foldl_treeOf hput hscalar').trans (congrArg treeOf (funext fun f => ?_))
  rw [applied_apply, applied_apply, hlast]

/-! The file. -/

/-- The entries of a file that assigns scalars to settings and nothing else.  Settings of one group
stand in one table, under their names.  A text gives each key one value, which is then the last. -/
inductive FileAssigns : List (String × Value) → List (Field × Value) → Prop where
  | nil : FileAssigns [] []
  | group {f : Field} {origin : Option Origin} {members later : List (Field × Value)}
      {entries : List (String × Value)}
      (here : ∀ p ∈ members, p.1.group = f.group ∧ p.2.isScalar = true)
      (rest : FileAssigns entries later) :
      FileAssigns ((f.group, .table origin (members.map fun (g, x) => (g.name, x))) :: entries)
        (members ++ later)

theorem setKeys_file {entries : List (String × Value)} (h : FileAssigns entries given) :
    (treeOf v).setKeys entries = treeOf (applied v given) := by
  induction h generalizing v with
  | nil => rfl
  | @group f origin members later entries here rest ih =>
    obtain ⟨old, hold⟩ := Option.isSome_iff_exists.mp (get?_treeOf v f)
    have hput : (members.map fun (g, x) => (g.path, x)).foldl
        (fun root entry => root.set entry.1 entry.2) (treeOf v) = treeOf (applied v members) :=
      foldl_treeOf put_path fun p hp => (here p hp).2
    have hmembers : (treeOf v).setKey f.group
        (.table origin (members.map fun (g, x) => (g.name, x))) = treeOf (applied v members) := by
      rw [Value.setKey, f.parse_group]
      show Value.assign f.group _ _ = _
      rw [Value.assign_table f.lowercase_group hold, List.foldl_map, ← hput, List.foldl_map]
      refine List.foldl_ext _ _ _ fun root p hp => ?_
      rw [← (here p hp).1]
      rfl
    rw [Value.setKeys, List.foldl_cons]
    show Value.setKeys ((treeOf v).setKey f.group _) entries = _
    rw [hmembers, ih, applied, applied, applied, List.foldl_append]

/-! The environment. -/

/-- The variables of an environment that assigns settings and nothing else of this program. -/
inductive EnvironmentAssigns (c : Conversions) :
    List (String × String) → List (Field × Value) → Prop where
  | nil : EnvironmentAssigns c [] []
  | foreign {name text : String} {environment : List (String × String)}
      {given : List (Field × Value)} (hname : Environment.key? name = none)
      (rest : EnvironmentAssigns c environment given) :
      EnvironmentAssigns c ((name, text) :: environment) given
  | setting {f : Field} {name text : String} {environment : List (String × String)}
      {given : List (Field × Value)} (hname : Environment.key? name = some f.key)
      (rest : EnvironmentAssigns c environment given) :
      EnvironmentAssigns c ((name, text) :: environment)
        ((f, .scalar (some .environment) (c.scalar text)) :: given)

/-- The variable of a setting as it is usually spelled. -/
def Field.variableName : Field → String
  | registerBuiltins => "SBNF_COMPILE__REGISTER_BUILTINS"
  | contextLines => "SBNF_DIAGNOSTICS__CONTEXT_LINES"
  | maxReported => "SBNF_DIAGNOSTICS__MAX_REPORTED"
  | format => "SBNF_OUTPUT__FORMAT"

theorem key?_variableName (f : Field) : Environment.key? f.variableName = some f.key := by
  cases f <;> decide +kernel

variable {c : Conversions} {environment : List (String × String)}

theorem EnvironmentAssigns.entries_eq (h : EnvironmentAssigns c environment given) :
    Environment.entries c environment =
      Entries.empty.insertAll (given.map fun (f, x) => (f.key, x)) := by
  refine congrArg (Entries.insertAll .empty) ?_
  induction h with
  | nil => rfl
  | foreign hname _ ih =>
    rw [← ih]
    exact List.filterMap_cons_none (by simp only [hname, Option.map_none])
  | setting hname _ ih =>
    rw [List.map_cons, ← ih]
    exact List.filterMap_cons_some (by simp only [hname, Option.map_some])

theorem EnvironmentAssigns.isScalar (h : EnvironmentAssigns c environment given) :
    ∀ p ∈ given, p.2.isScalar = true := by
  induction h with
  | nil => exact fun _ hp => nomatch hp
  | foreign _ _ ih => exact ih
  | setting _ _ ih => exact List.forall_mem_cons.mpr ⟨rfl, ih⟩

theorem key_injective : Function.Injective Field.key := by
  intro f g h
  cases f <;> cases g <;> first | rfl | exact absurd h (by decide)

theorem setKeys_environment (h : EnvironmentAssigns c environment given) (order : Order) :
    (treeOf v).setKeys (order.arrange (Environment.entries c environment).items) =
      treeOf (applied v given) := by
  rw [h.entries_eq]
  exact foldl_arrange key_injective put_key order h.isScalar

/-! The command line. -/

/-- A text that sets a setting.  White space around the key and around the value does not count. -/
def Field.IsSetting (f : Field) (x : Value) (text : String) : Prop :=
  ∃ key value : List Char, text.toList = key ++ '=' :: value ∧ Text.trim key = f.key.toList ∧
    x = .scalar none (.text (String.ofList (Text.trim value)))

theorem mem_trim {c : Char} {text : List Char} (hc : Text.isSpace c = false) (h : c ∈ text) :
    c ∈ Text.trim text := by
  have hdrop : ∀ {chars : List Char}, c ∈ chars → c ∈ chars.dropWhile Text.isSpace := by
    intro chars hmem
    rw [← List.takeWhile_append_dropWhile (p := Text.isSpace) (l := chars), List.mem_append] at hmem
    rcases hmem with hmem | hmem
    · rw [List.mem_takeWhile_imp hmem] at hc
      cases hc
    · exact hmem
  exact List.mem_reverse.mpr (hdrop (List.mem_reverse.mpr (hdrop h)))

theorem path_injective : Function.Injective Field.path := by
  intro f g h
  cases f <;> cases g <;> first | rfl | exact absurd h (by decide)

theorem Field.IsSetting.parse {f : Field} {x : Value} {text : String} (h : f.IsSetting x text) :
    Override.parse text = .ok ⟨f.path, x⟩ := by
  obtain ⟨key, value, htext, hkey, rfl⟩ := h
  have hequals : '=' ∉ key := by
    intro hmem
    have htrim := mem_trim (by decide) hmem
    rw [hkey] at htrim
    cases f <;> exact absurd htrim (by decide)
  have htake : (key ++ '=' :: value).takeWhile (· != '=') = key := by
    rw [List.takeWhile_append_of_pos fun c hc => bne_iff_ne.mpr (ne_of_mem_of_not_mem hc hequals)]
    exact List.append_nil key
  unfold Override.parse
  simp only [htext, htake, List.drop_left, hkey, String.ofList_toList, f.parse_key]

/-- Texts that set settings in turn. -/
def TextsAssign : List String → List (Field × Value) → Prop :=
  List.Forall₂ fun text (f, x) => f.IsSetting x text

/-- The overrides of the settings, put on those that are there. -/
theorem TextsAssign.foldlM_withSetting {texts : List String} (h : TextsAssign texts given)
    (loader : Loader) : texts.foldlM Loader.withSetting loader = .ok { loader with
      overrides := loader.overrides.insertAll (given.map fun (f, x) => (f.path, x)) } := by
  induction h generalizing loader with
  | nil => rfl
  | cons hfirst _ ih =>
    rw [List.foldlM_cons, Loader.withSetting, hfirst.parse]
    exact ih _

theorem TextsAssign.isScalar {texts : List String} (h : TextsAssign texts given) :
    ∀ p ∈ given, p.2.isScalar = true := by
  induction h with
  | nil => exact fun _ hp => nomatch hp
  | cons hfirst _ ih =>
    obtain ⟨_, _, -, -, hvalue⟩ := hfirst
    exact List.forall_mem_cons.mpr ⟨by rw [hvalue]; rfl, ih⟩

theorem Field.IsSetting.unique {f g : Field} {x y : Value} {text : String}
    (hf : f.IsSetting x text) (hg : g.IsSetting y text) : f = g ∧ x = y := by
  have hsame : Override.mk f.path x = ⟨g.path, y⟩ := Except.ok.inj (hf.parse.symm.trans hg.parse)
  exact ⟨path_injective (congrArg Override.path hsame), congrArg Override.value hsame⟩

/-- The texts of two neighbours change places with them. -/
theorem TextsAssign.swap {before after : List String} {first second : String} {f g : Field}
    {x y : Value} (h : TextsAssign (before ++ first :: second :: after) given)
    (hfirst : f.IsSetting x first) (hsecond : g.IsSetting y second) :
    ∃ earlier later, given = earlier ++ (f, x) :: (g, y) :: later ∧
      TextsAssign (before ++ second :: first :: after) (earlier ++ (g, y) :: (f, x) :: later) := by
  have hflip := List.Forall₂.flip h
  have hbefore : TextsAssign before (given.take before.length) :=
    (List.forall₂_take_append given before _ hflip).flip
  have hothers : TextsAssign (first :: second :: after) (given.drop before.length) :=
    (List.forall₂_drop_append given before _ hflip).flip
  obtain ⟨p, others, hf, hothers, hdrop⟩ := List.forall₂_cons_left_iff.mp hothers
  obtain ⟨q, later, hg, hafter, rfl⟩ := List.forall₂_cons_left_iff.mp hothers
  obtain ⟨rfl, rfl⟩ := hfirst.unique hf
  obtain ⟨rfl, rfl⟩ := hsecond.unique hg
  refine ⟨given.take before.length, later, ?_,
    List.rel_append hbefore (.cons hsecond (.cons hfirst hafter))⟩
  rw [← hdrop, List.take_append_drop]

/-! All layers. -/

/-- What the layers above the defaults assign, each in its order. -/
structure Assignments where
  file : List (Field × Value)
  environment : List (Field × Value)
  settings : List (Field × Value)

namespace Assignments

/-- The value of the topmost layer that has the setting. -/
def value (a : Assignments) (f : Field) : Value :=
  match last? f a.settings with
  | some x => x
  | none =>
      match last? f a.environment with
      | some x => x
      | none =>
          match last? f a.file with
          | some x => x
          | none => f.default

/-- The file, if there is one, and the environment assign these settings and nothing else. -/
structure Below (a : Assignments) (lib : Library) (file : Option String)
    (environment : List (String × String)) : Prop where
  noFile : file = none → a.file = []
  file : ∀ path, file = some path →
    ∃ entries, lib.readFile path = .ok entries ∧ FileAssigns entries a.file
  environment : EnvironmentAssigns lib.conversions environment a.environment

/-- The loader of a file, the environment and these settings. -/
def loader (a : Assignments) (file : Option String) : Loader where
  sources := (file.map Source.file).toList ++ [.environment]
  overrides := Entries.empty.insertAll (a.settings.map fun (f, x) => (f.path, x))

variable {a : Assignments} {lib : Library} {file : Option String}

theorem value_eq (a : Assignments) :
    a.value = applied (applied (applied Field.default a.file) a.environment) a.settings := by
  funext f
  rw [applied_apply, applied_apply, applied_apply, value]
  cases last? f a.settings with
  | some x => rfl
  | none =>
    cases last? f a.environment with
    | some x => rfl
    | none => cases last? f a.file <;> rfl

theorem Below.below_eq (h : a.Below lib file environment) :
    Loader.below lib environment (a.loader file).sources =
      .ok (treeOf (applied (applied Field.default a.file) a.environment)) := by
  have henvironment : (treeOf (applied Field.default a.file)).setKeys
      (lib.order.arrange (Environment.entries lib.conversions environment).items) = _ :=
    setKeys_environment h.environment lib.order
  cases file with
  | none =>
    rw [h.noFile rfl] at henvironment ⊢
    exact congrArg Except.ok henvironment
  | some path =>
    obtain ⟨entries, hread, hassigns⟩ := h.file path rfl
    rw [← setKeys_file hassigns] at henvironment
    show Loader.below lib environment [.file path, .environment] = _
    rw [Loader.below, toValue_default, List.foldlM_cons, Loader.entriesOf, hread]
    exact congrArg Except.ok henvironment

/-- The tree of the layers has the value of the topmost layer at each setting, and the settings are
read from those values alone. -/
theorem Below.build_eq (h : a.Below lib file environment)
    (hscalar : ∀ p ∈ a.settings, p.2.isScalar = true) :
    (a.loader file).build lib environment =
      (readFields lib.conversions a.value).mapError .settings := by
  have hoverrides : (a.loader file).putOverrides lib
      (treeOf (applied (applied Field.default a.file) a.environment)) = treeOf a.value := by
    rw [value_eq]
    exact foldl_arrange path_injective put_path lib.order hscalar
  rw [Loader.build, h.below_eq]
  show (Settings.ofValue lib.conversions _).mapError _ = _
  rw [hoverrides, ofValue_treeOf]

end Assignments

end Config
end GrammarText
