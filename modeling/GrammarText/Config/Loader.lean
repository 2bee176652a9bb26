/-
A loader of settings.  It stacks sources, a file or the environment, over the defaults, and puts
overrides on top.  Each source replaces what it sets in the ones before it.  How a file is read, in
which order a map is gone through and how single values convert is for the libraries below to say.
-/
import GrammarText.Config.Path
import GrammarText.Config.Settings
import GrammarText.Text.Word

namespace GrammarText
namespace Config

/-- Sets what a key leads to.  A key that is no path is one name. -/
def Value.setKey (root : Value) (key : String) (value : Value) : Value :=
  match Path.parse key with
  | .ok path => root.set path value
  | .error _ => Value.assign key value root

/-- Keys with their values, set in turn. -/
def Value.setKeys (root : Value) (entries : List (String × Value)) : Value :=
  entries.foldl (fun v (key, value) => v.setKey key value) root

/-- What a loader has from the libraries below it. -/
structure Library where
  /-- The entries of the file at a path in the order in which they are gone through, or what is
  wrong with the file. -/
  readFile : (path : String) → Except String (List (String × Value))
  order : Order
  conversions : Conversions

namespace Environment

/-- A point for every two underscores, from the left on. -/
def withPoints : List Char → List Char
  | '_' :: '_' :: rest => '.' :: withPoints rest
  | c :: rest => c :: withPoints rest
  | [] => []

/-- The key of a variable of this program: the rest of its name in lower case, with a point for
every two underscores. -/
def key? (name : String) : Option String :=
  match (Text.lowercase name).toList with
  | 's' :: 'b' :: 'n' :: 'f' :: '_' :: rest => some (String.ofList (withPoints rest))
  | _ => none

/-- The keys and values of the variables that configure this program.  Of two variables with one key
the last counts. -/
def entries (c : Conversions) (environment : List (String × String)) : Entries String Value :=
  .insertAll .empty <| environment.filterMap fun (name, text) =>
    (key? name).map fun key => (key, .scalar (some .environment) (c.scalar text))

end Environment

/-- What is wrong with a text that should be a key, an equals sign and a value. -/
inductive AssignmentError where
  | noValue (text : String)
  | badKey (fault : PathFault)
  deriving Repr, DecidableEq

def AssignmentError.message : AssignmentError → String
  | noValue text => "expected KEY=VALUE, got '" ++ text ++ "'"
  | badKey fault => fault.message

/-- A path and the value that is put there over all sources. -/
structure Override where
  path : Path
  value : Value

namespace Override

/-- Reads a key, an equals sign and a value, which is a text. -/
def parse (text : String) : Except AssignmentError Override :=
  let chars := text.toList
  let key := chars.takeWhile (· != '=')
  match chars.drop key.length with
  | [] => .error (.noValue text)
  | _ :: value =>
      match Path.parse (String.ofList (Text.trim key)) with
      | .error fault => .error (.badKey fault)
      | .ok path => .ok ⟨path, .scalar none (.text (String.ofList (Text.trim value)))⟩

/-- Leaves the builtin tokens out. -/
def noBuiltins : Override where
  path := ⟨"compile", [.name "register_builtins"]⟩
  value := .scalar none (.boolean false)

end Override

inductive LoadError where
  /-- A file that cannot be read, with what there is to say of it. -/
  | file (message : String)
  | settings (error : SettingsError)
  deriving Repr, DecidableEq

def LoadError.message : LoadError → String
  | file message => message
  | settings error => error.message

inductive Source where
  | file (path : String)
  | environment
  deriving Repr, DecidableEq

structure Loader where
  /-- The sources over the defaults, the topmost last. -/
  sources : List Source
  /-- The last value for each path that is overridden. -/
  overrides : Entries Path Value

namespace Loader

/-- A loader of the defaults. -/
def new : Loader :=
  ⟨[], .empty⟩

def withSource (l : Loader) (source : Source) : Loader :=
  { l with sources := l.sources ++ [source] }

/-- A loader of the defaults, the file at a path if there is one, and over them the environment. -/
def layered (file : Option String) : Loader :=
  match file with
  | none => new.withSource .environment
  | some path => (new.withSource (.file path)).withSource .environment

def setOverride (l : Loader) (o : Override) : Loader :=
  { l with overrides := l.overrides.insert o.path o.value }

/-- Applies a setting as it is written on a command line. -/
def withSetting (l : Loader) (text : String) : Except AssignmentError Loader :=
  (Override.parse text).map l.setOverride

variable (lib : Library) (environment : List (String × String))

/-- The entries of a source in the order in which they are gone through. -/
def entriesOf : Source → Except LoadError (List (String × Value))
  | .file path => (lib.readFile path).mapError .file
  | .environment => .ok (lib.order.arrange (Environment.entries lib.conversions environment).items)

/-- The tree of the defaults and the sources. -/
def below (sources : List Source) : Except LoadError Value :=
  sources.foldlM (fun root source => (entriesOf lib environment source).map root.setKeys)
    Settings.default.toValue

/-- Puts the overrides on a tree. -/
def putOverrides (l : Loader) (root : Value) : Value :=
  (lib.order.arrange l.overrides.items).foldl (fun v (path, value) => v.set path value) root

/-- Loads the settings, where the variables of the environment have such texts. -/
def build (l : Loader) : Except LoadError Settings := do
  let root ← below lib environment l.sources
  (Settings.ofValue lib.conversions (l.putOverrides lib root)).mapError .settings

end Loader
end Config
end GrammarText
