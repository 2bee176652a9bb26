/-
A working directory with the files below it, as texts under their paths, and what is around it as
far as every system has it: the directories above it, the usual ones, and the empty device.
-/
import GrammarText.CommandLine.Command

namespace GrammarText
namespace CommandLine

/-- The parts of a path between its slashes. -/
def pathParts (path : String) : List String :=
  path.splitOn "/"

/-- Whether a part of a path stays where it is. -/
def isIdle (part : String) : Bool :=
  part.isEmpty || part == "."

/-- A path without what makes no difference. -/
def tidyPath (path : String) : String :=
  String.intercalate "/" ((pathParts path).filter fun part => !isIdle part)

/-- A path with an ending to its last name, behind which nothing is left.  A path that ends in no
name has none. -/
def withEnding? (ending path : String) : Option String :=
  match (pathParts path).reverse.dropWhile isIdle with
  | [] => none
  | ".." :: _ => none
  | name :: above => some (String.intercalate "/" ((name ++ ending) :: above).reverse)

/-- What a place in the file system holds. -/
inductive Entry where
  | file (text : String)
  | device (text : String)
  | directory
  deriving Repr, DecidableEq

structure Directory where
  files : List (String × String)
  deriving Repr, DecidableEq

namespace Directory

/-- The names from the root to the working directory. -/
def home : List String :=
  ["tmp", "grammar"]

/-- The names that every root has. -/
def rootNames : List String :=
  ["bin", "boot", "dev", "etc", "home", "lib", "media", "mnt", "opt", "proc", "root", "run", "sbin",
    "srv", "sys", "tmp", "usr", "var"]

/-- The files under their names from the root on. -/
def placed (d : Directory) : List (List String × String) :=
  d.files.map fun (path, text) =>
    (home ++ (pathParts path).filter fun part => !isIdle part, text)

/-- What there is at a list of names from the root on.  A directory is where some file is below. -/
def entry? (d : Directory) (names : List String) : Option Entry :=
  match d.placed.lookup names with
  | some text => some (.file text)
  | none =>
      if names = ["dev", "null"] then some (.device "")
      else if names.isPrefixOf home || d.placed.any (fun (file, _) => names.isPrefixOf file) then
        some .directory
      else if rootNames.any fun name => names = [name] then some .directory
      else none

/-- Goes on from a place along a part of a path.  Only a directory leads on. -/
def follow (d : Directory) (names : List String) (part : String) :
    Except ReadFault (List String) :=
  match d.entry? names with
  | none => .error .missing
  | some .directory =>
      if isIdle part then .ok names
      else if part == ".." then .ok names.dropLast
      else if part.utf8ByteSize > 255 then .error .nameTooLong
      else .ok (names ++ [part])
  | some _ => .error .notDirectory

/-- What a path leads to. -/
def find (d : Directory) (path : String) : Except ReadFault Entry :=
  if path.isEmpty then .error .missing
  else if path.utf8ByteSize ≥ 4096 then .error .nameTooLong
  else do
    let start := if path.startsWith "/" then [] else home
    match d.entry? (← (pathParts path).foldlM d.follow start) with
    | some entry => return entry
    | none => throw .missing

def read (d : Directory) (path : String) : Except ReadFault String := do
  match ← d.find path with
  | .file text => return text
  | .device text => return text
  | .directory => throw .isDirectory

def isFile (d : Directory) (path : String) : Bool :=
  match d.find path with
  | .ok (.file _) => true
  | _ => false

end Directory
end CommandLine
end GrammarText
