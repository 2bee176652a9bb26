/-
The command: what it is given, and what it writes and returns.  It reads its arguments, loads its
settings, and compiles, resolves and writes one grammar.  What other libraries do for it on the way
is a parameter.
-/
import GrammarText.CommandLine.Record
import GrammarText.Config.Loader
import GrammarText.OutputFormat

namespace GrammarText
namespace CommandLine

/-- Why there is no text at a path. -/
inductive ReadFault where
  | missing
  | isDirectory
  /-- A path that goes on behind a file. -/
  | notDirectory
  | nameTooLong
  /-- Bytes that are no text. -/
  | notText
  deriving Repr, DecidableEq

def ReadFault.message : ReadFault → String
  | missing => "No such file or directory (os error 2)"
  | isDirectory => "Is a directory (os error 21)"
  | notDirectory => "Not a directory (os error 20)"
  | nameTooLong => "File name too long (os error 36)"
  | notText => "stream did not contain valid UTF-8"

/-- What a run leaves behind. -/
structure Outcome where
  exitCode : UInt32
  stdout : String
  stderr : String
  deriving Repr, DecidableEq

namespace Outcome

/-- A run that did what it should. -/
def success (output : String) : Outcome :=
  ⟨0, output, ""⟩

def failure (message : String) : Outcome :=
  ⟨1, "", message⟩

/-- Puts a text before all that is written to the error stream. -/
def withLog (log : String) (o : Outcome) : Outcome :=
  { o with stderr := log ++ o.stderr }

end Outcome

/-- What a run sees of its surroundings. -/
structure Surroundings where
  read : String → Except ReadFault String
  /-- Whether a path leads to a file and to nothing else that can be read. -/
  isFile : String → Bool
  /-- The variables of the environment with their texts. -/
  environment : List (String × String)

/-- What the command is to do. -/
structure Invocation where
  path : Option String
  config : Option String
  format : Option String
  /-- Keys with their values, as they were given. -/
  assignments : List String
  noBuiltins : Bool
  checkOnly : Bool
  deriving Repr, DecidableEq

/-- A logger, set up for an environment. -/
structure Logger where
  /-- What it has to say of the environment. -/
  start : String
  /-- What it writes of the records of a run. -/
  write : List Log.Record → String

/-- What the command has from other libraries. -/
structure Libraries where
  /-- Reads the arguments, or tells what a run comes to that goes no further. -/
  parse : List String → Except Outcome Invocation
  logger : (environment : List (String × String)) → Logger
  config : Surroundings → Config.Library
  regex : RegexCheck
  /-- Writes data in YAML, or tells why it cannot. -/
  yaml : Data → Except String String

/-- The report on a source that does not compile: its first errors up to a limit, how many more
there are, and how many in all. -/
def compileReport (path source : String) (settings : Config.Settings) (r : Report) : String :=
  let shown := r.truncated settings.maxReported.toNat
  let more :=
    if shown.length < r.length then
      "... and " ++ toString (r.length - shown.length) ++ " more\n"
    else ""
  shown.render source settings.contextLines ++ more
    ++ path ++ ": " ++ toString r.length ++ " compile error(s)\n"

/-- The report on a table that does not resolve: its errors and how many there are. -/
def resolveReport (path : String) (errors : List ResolveError) : String :=
  String.join (errors.map fun e => "error[resolve] " ++ e.message ++ "\n")
    ++ path ++ ": " ++ toString errors.length ++ " resolution error(s)\n"

/-- Compiles and resolves a source, and writes its table unless it is only checked. -/
def compileSource (lib : Libraries) (settings : Config.Settings) (format : OutputFormat)
    (checkOnly : Bool) (path source : String) : Outcome :=
  match compileWith settings.registerBuiltins source with
  | .error r => .failure (compileReport path source settings r)
  | .ok t =>
      match t.resolveWith lib.regex with
      | [] =>
          if checkOnly then .success ""
          else
            match t.renderWith lib.yaml format with
            | .ok output => .success output
            | .error message => .failure ("Error formatting output: " ++ message ++ "\n")
      | errors => .failure (resolveReport path errors)

namespace Invocation

open Config (Loader Override)

/-- The loader of the settings: a file if one is named, then the environment, and over them what is
set in the arguments.  The flag for the builtin tokens comes last. -/
def loader (i : Invocation) : Except Config.AssignmentError Loader := do
  let loader ← i.assignments.foldlM Loader.withSetting (.layered i.config)
  return if i.noBuiltins then loader.setOverride .noBuiltins else loader

/-- Loads the settings, or tells why they cannot be loaded. -/
def settings (i : Invocation) (lib : Config.Library) (environment : List (String × String)) :
    Except String Config.Settings := do
  let loader ← i.loader.mapError Config.AssignmentError.message
  (loader.build lib environment).mapError Config.LoadError.message

/-- The format that is named in the arguments, or else the one of the settings. -/
def outputFormat (i : Invocation) (settings : Config.Settings) : Except String OutputFormat :=
  match i.format with
  | none => .ok settings.format
  | some name =>
      match OutputFormat.ofName? name with
      | some format => .ok format
      | none =>
          .error ("Unknown format '" ++ name ++ "'\nAvailable formats: "
            ++ String.intercalate ", " (OutputFormat.all.map OutputFormat.name) ++ "\n")

def run (i : Invocation) (lib : Libraries) (s : Surroundings) : Outcome :=
  match i.settings (lib.config s) s.environment with
  | .error message => .failure ("Configuration error: " ++ message ++ "\n")
  | .ok settings =>
      match i.path with
      | none => .failure "Missing input path\n"
      | some path =>
          match i.outputFormat settings with
          | .error message => .failure message
          | .ok format =>
              match s.read path with
              | .error fault => .failure ("Cannot read " ++ path ++ ": " ++ fault.message ++ "\n")
              | .ok source =>
                  (compileSource lib settings format i.checkOnly path source).withLog
                    ((lib.logger s.environment).write
                      (Log.ofSource settings.registerBuiltins source))

end Invocation

/-- Runs the command on its arguments. -/
def runWith (lib : Libraries) (arguments : List String) (s : Surroundings) : Outcome :=
  (match lib.parse arguments with
    | .error outcome => outcome
    | .ok i => i.run lib s).withLog (lib.logger s.environment).start

end CommandLine
end GrammarText
