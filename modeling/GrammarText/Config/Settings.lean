/-
The settings and how they are read from a configuration tree.
-/
import GrammarText.Config.Value
import GrammarText.OutputFormat
import GrammarText.Text.Printable

namespace GrammarText
namespace Config

structure Settings where
  /-- Whether a table gets the builtin tokens that it does not declare. -/
  registerBuiltins : Bool
  /-- The number of source lines shown before and after an error. -/
  contextLines : UInt64
  /-- The number of errors shown.  Zero is no limit. -/
  maxReported : UInt64
  format : OutputFormat
  deriving Repr, DecidableEq

/-- The settings that nothing overrides. -/
def Settings.default : Settings where
  registerBuiltins := true
  contextLines := 2
  maxReported := 0
  format := .sbnf

/-- The tree of some settings. -/
def Settings.toValue (s : Settings) : Value :=
  let word (n : UInt64) : Value := .scalar none (.integer n.toNat)
  .table none [
    ("compile", .table none [
      ("register_builtins", .scalar none (.boolean s.registerBuiltins))]),
    ("diagnostics", .table none [
      ("context_lines", word s.contextLines),
      ("max_reported", word s.maxReported)]),
    ("output", .table none [("format", .scalar none (.text s.format.name))])]

inductive SettingsError where
  /-- A value of a wrong type for a setting. -/
  | unfit (found : String) (expected : String) (key : String) (origin : Option Origin)
  /-- A single value where a group of settings should stand. -/
  | ungrouped (found : String) (group : String)
  /-- A list that is too short for the settings of a group. -/
  | tooShort (length : Nat) (group : String) (size : Nat)
  | missing (name : String)
  | unknownFormat (name : String)
  /-- Neither the name of a format nor a table with one entry. -/
  | noFormat
  deriving Repr, DecidableEq

namespace SettingsError

def message : SettingsError → String
  | unfit found expected key origin =>
      "invalid type: " ++ found ++ ", expected " ++ expected ++ " for key `" ++ key ++ "`"
        ++ (match origin with
          | none => ""
          | some origin => " in " ++ origin.text)
  | ungrouped found group => "invalid type: " ++ found ++ ", expected struct " ++ group
  | tooShort length group size =>
      "invalid length " ++ toString length ++ ", expected struct " ++ group ++ " with "
        ++ toString size ++ (if size == 1 then " element" else " elements")
  | missing name => "missing field `" ++ name ++ "`"
  | unknownFormat name => "enum OutputFormat does not have variant constructor " ++ name
  | noFormat =>
      "value of enum OutputFormat should be represented by either string or table with exactly "
        ++ "one key"

end SettingsError

namespace Value

/-- The value as messages name it. -/
def found : Value → String
  | scalar _ .nothing => "unit value"
  | scalar _ (.boolean b) => "boolean `" ++ toString b ++ "`"
  | scalar _ (.integer n) => "integer `" ++ toString n ++ "`"
  | scalar _ (.float x) => "floating point `" ++ x.text ++ "`"
  | scalar _ (.text s) => "string " ++ Text.visibleQuote s
  | array _ _ => "sequence"
  | table _ _ => "map"

/-- The value where a setting stands at a key. -/
def unfit (v : Value) (expected key : String) : SettingsError :=
  .unfit v.found expected key v.origin

end Value

/-- How single values are turned into what settings are made of.  A truth value is its own; apart
from that it is not known here which values convert, and to what. -/
structure Conversions where
  /-- What the text of an environment variable stands for. -/
  scalar : String → Scalar
  boolean : (key : String) → Value → Except SettingsError Bool
  word : (key : String) → Value → Except SettingsError UInt64
  format : Value → Except SettingsError OutputFormat
  boolean_truth : ∀ key origin b, boolean key (.scalar origin (.boolean b)) = .ok b

/-- A group of settings.  It is a table, or else a list with a value for each setting. -/
structure Group where
  key : String
  /-- How messages name the group. -/
  title : String
  /-- The names of its settings in their order. -/
  names : List String
  body : Value

namespace Group

/-- The value of a setting and the key that messages give it. -/
def member? (g : Group) (name : String) : Option (String × Value) :=
  match g.body with
  | .array _ items =>
      let i := g.names.idxOf name
      items[i]?.map fun v => (g.key ++ "[" ++ toString i ++ "]", v)
  | body => (body.get? name).map fun v => (g.key ++ "." ++ name, v)

/-- Reads a setting if it is there. -/
def read {α : Type} (g : Group) (name : String)
    (reader : String → Value → Except SettingsError α) : Except SettingsError (Option α) :=
  match g.member? name with
  | none => .ok none
  | some (key, v) => (reader key v).map some

/-- The setting that was read, which has to be there. -/
def demand {α : Type} (g : Group) (name : String) : Option α → Except SettingsError α
  | some a => .ok a
  | none =>
      match g.body with
      | .array _ items => .error (.tooShort items.length g.title g.names.length)
      | _ => .error (.missing name)

end Group

namespace Settings

/-- A group of settings at a key of the tree. -/
def group (root : Value) (key title : String) (names : List String) :
    Except SettingsError Group :=
  match root.get? key with
  | none => .error (.missing key)
  | some (.scalar origin value) => .error (.ungrouped (Value.scalar origin value).found title)
  | some body => .ok ⟨key, title, names, body⟩

/-- Reads all settings.  Within a group those that are there are read before any is missed. -/
def ofValue (c : Conversions) (root : Value) : Except SettingsError Settings := do
  let compile ← group root "compile" "CompileConfig" ["register_builtins"]
  let builtins ← compile.read "register_builtins" c.boolean
  let registerBuiltins ← compile.demand "register_builtins" builtins
  let diagnostics ←
    group root "diagnostics" "DiagnosticsConfig" ["context_lines", "max_reported"]
  let context ← diagnostics.read "context_lines" c.word
  let max ← diagnostics.read "max_reported" c.word
  let contextLines ← diagnostics.demand "context_lines" context
  let maxReported ← diagnostics.demand "max_reported" max
  let output ← group root "output" "OutputConfig" ["format"]
  let format ← output.read "format" fun _ => c.format
  return ⟨registerBuiltins, contextLines, maxReported, ← output.demand "format" format⟩

end Settings
end Config
end GrammarText
