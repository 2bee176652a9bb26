/-
The layers of a configuration as the program is given them: the text of a file, the variables of the
environment and the overrides in their order.
-/
import GrammarText.Config.Conversions
import GrammarText.Config.Loader
import GrammarText.Config.Toml

namespace GrammarText
namespace Config

/-- A configuration file under the name it was found by. -/
structure File where
  name : String
  text : String
  deriving Repr, DecidableEq

/-- The entries of a file in the order of their lines.  A byte order mark in front belongs to the
file and not to the text in it. -/
def File.entries (file : File) : Except String (List (String × Value)) :=
  match Toml.entries? (some (.file file.name)) (Toml.withoutMark file.text.toList) with
  | some entries => .ok entries
  | none => .error ("TOML parse error in " ++ file.name)

/-- The library of the program, which finds files by their names in such a way. -/
def Library.standard (find : String → Option File) : Library where
  readFile name :=
    match find name with
    | some file => file.entries
    | none => .error ("configuration file \"" ++ name ++ "\" not found")
  order := .asInserted
  conversions := .standard

/-- All that a configuration comes from, besides the defaults. -/
structure Layers where
  file : Option File
  /-- The variables of the environment with their texts. -/
  environment : List (String × String)
  overrides : List Override

/-- Loads the settings of some layers. -/
def Layers.load (l : Layers) : Except LoadError Settings :=
  let loader := l.overrides.foldl Loader.setOverride (.layered (l.file.map File.name))
  loader.build (.standard fun _ => l.file) l.environment

end Config
end GrammarText
