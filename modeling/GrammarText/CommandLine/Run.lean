/-
The command with the libraries of the program: its arguments, its log, its configuration files, its
check of regexes and its YAML as they are written out here.  What is proved of the command takes
them as parameters, so that it holds whatever else these libraries do.
-/
import GrammarText.CommandLine.Directory
import GrammarText.CommandLine.Log
import GrammarText.CommandLine.Usage
import GrammarText.Config.Layers
import GrammarText.Data.Yaml

namespace GrammarText

def Table.render (t : Table) (format : OutputFormat) : String :=
  match t.renderWith (fun d => .ok d.toYaml) format with
  | .ok text => text
  | .error message => message

namespace CommandLine

def Stop.outcome : Stop → Outcome
  | help => .success helpText
  | version => .success versionText
  | nothing => ⟨2, "", helpText⟩
  | fault f => ⟨2, "", f.message⟩

/-- The paths at which the configuration of a name may be: its own, and that with the usual
ending. -/
def configPaths (name : String) : List String :=
  name :: (withEnding? ".toml" name).toList

namespace Surroundings

/-- The file of a name, or else the one with the usual ending to it. -/
def configFile? (s : Surroundings) (name : String) : Option Config.File := do
  let path ← (configPaths name).find? s.isFile
  match s.read path with
  | .ok text => return ⟨tidyPath path, text⟩
  | .error _ => none

end Surroundings

/-- The logger that the filter in the environment asks for. -/
def Logger.ofEnvironment (environment : List (String × String)) : Logger :=
  let (filter, complaints) := Log.Filter.parse ((environment.lookup "RUST_LOG").getD "")
  ⟨complaints, fun records => Log.write 0 (records.filter filter.passes)⟩

/-- The libraries of the program. -/
def Libraries.standard : Libraries where
  parse arguments := (Invocation.parse arguments).mapError Stop.outcome
  logger := .ofEnvironment
  config s := .standard s.configFile?
  regex := Regex.complaint?
  yaml d := .ok d.toYaml

/-- Runs the command of the program on its arguments. -/
def run (arguments : List String) (s : Surroundings) : Outcome :=
  runWith .standard arguments s

end CommandLine
end GrammarText
