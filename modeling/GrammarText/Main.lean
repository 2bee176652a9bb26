import GrammarText.CommandLine.Run

namespace GrammarText
namespace CommandLine

/-- What the system says about a file that cannot be read. -/
def readFaultOf : IO.Error → ReadFault
  | .inappropriateType _ code _ => if code == 20 then .notDirectory else .isDirectory
  | .illegalOperation _ _ => .isDirectory
  | .invalidArgument _ code _ => if code == 36 then .nameTooLong else .missing
  | _ => .missing

def readFile (path : String) : IO (Except ReadFault String) := do
  try
    let bytes ← IO.FS.readBinFile path
    return (match String.fromUTF8? bytes with
      | some text => .ok text
      | none => .error .notText)
  catch e =>
    return .error (readFaultOf e)

/-- The variables of the environment, as the system lists them. -/
def readEnvironment : IO (List (String × String)) := do
  match ← readFile "/proc/self/environ" with
  | .error _ => return []
  | .ok text =>
      return (text.splitOn "\x00").filterMap fun entry =>
        let name := entry.toList.takeWhile (· != '=')
        match entry.toList.drop name.length with
        | _ :: value => some (String.ofList name, String.ofList value)
        | [] => none

/-- The paths that a run may read. -/
def pathsOf (arguments : List String) : List String :=
  match Invocation.parse arguments with
  | .error _ => []
  | .ok i =>
      i.path.toList ++ (i.config.map configPaths).getD []

/-- Runs the command on the files and the environment of the system. -/
def runInSystem (arguments : List String) : IO UInt32 := do
  let files ← (pathsOf arguments).mapM fun path => do return (path, ← readFile path)
  let environment ← readEnvironment
  let read path := (files.lookup path).getD (.error .missing)
  let isFile path := (read path).isOk && !path.startsWith "/dev/"
  let outcome := run arguments ⟨read, isFile, environment⟩
  IO.print outcome.stdout
  IO.eprint outcome.stderr
  return outcome.exitCode

end CommandLine
end GrammarText

def main (arguments : List String) : IO UInt32 :=
  GrammarText.CommandLine.runInSystem arguments
