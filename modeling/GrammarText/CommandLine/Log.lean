/-
The log of the program.  A filter says which records are written.
-/
import GrammarText.CommandLine.Command
import GrammarText.Regex.Match
import GrammarText.Regex.Reader
import GrammarText.Text.Word

namespace GrammarText
namespace CommandLine
namespace Log

/- Filters. -/

/-- How much is written of the parts whose names start with a text.  Without a level it is
nothing. -/
structure Directive where
  start : String
  level : Option Level
  deriving Repr, DecidableEq

structure Filter where
  directives : List Directive
  /-- What has to occur in a message. -/
  wanted : Option Regex.Tree
  deriving Repr, DecidableEq

/-- The level of a name in any case, or of the name for none. -/
def level? (name : String) : Option (Option Level) :=
  let upper := String.ofList (name.toList.map Char.toUpper)
  if upper == "OFF" then some none
  else (Level.all.find? (·.name == upper)).map some

/-- What is said of an item of a filter that is none. -/
def complaint (text : String) : String :=
  "warning: invalid logging spec '" ++ text ++ "', ignoring it\n"

/-- Reads an item of a filter: a level for all parts, the start of a name, or both with an equals
sign between them. -/
def item (text : String) : Except String Directive :=
  match text.splitOn "=" with
  | [one] =>
      match level? one with
      | some level => .ok ⟨"", level⟩
      | none => .ok ⟨one, some .trace⟩
  | [name, level] =>
      let level := String.ofList (Text.trim level.toList)
      if level.isEmpty then .ok ⟨name, some .trace⟩
      else
        match level? level with
        | some level => .ok ⟨name, level⟩
        | none => .error (complaint level)
  | _ => .error (complaint text)

/-- Reads a list of items. -/
def items (text : String) : List (Except String Directive) :=
  ((text.splitOn ",").filter fun part => !part.isEmpty).map item

namespace Filter

/-- Without directives only errors are written. -/
def ofDirectives (directives : List Directive) (wanted : Option Regex.Tree) : Filter :=
  if directives.isEmpty then ⟨[⟨"", some .error⟩], wanted⟩ else ⟨directives, wanted⟩

/-- Reads what has to occur in a message.  What is no pattern asks for nothing. -/
def readWanted (pattern : String) : Option Regex.Tree × String :=
  match Regex.read pattern with
  | .ok tree => (some tree, "")
  | .error e => (none, "warning: invalid regex filter - " ++ e.text pattern ++ "\n")

/-- Reads a list of items, to which it is known what has to occur in a message. -/
def readItems (list : String) (wanted : Option Regex.Tree × String) : Filter × String :=
  let items := items list
  let directives := items.filterMap fun
    | .ok directive => some directive
    | .error _ => none
  let complaints := items.filterMap fun
    | .ok _ => none
    | .error complaint => some complaint
  (ofDirectives directives wanted.1, String.join complaints ++ wanted.2)

/-- Reads a filter, and tells what is wrong with it. -/
def parse (text : String) : Filter × String :=
  match text.splitOn "/" with
  | [list] => readItems list (none, "")
  | [list, wanted] => readItems list (readWanted wanted)
  | _ =>
      (ofDirectives [] none,
        "warning: invalid logging spec '" ++ text ++ "', ignoring it (too many '/'s)\n")

/-- The directive for a part: the one with the longest start of its name, and the last of those. -/
def directive? (f : Filter) (p : Part) : Option Directive :=
  (f.directives.filter fun d => p.name.startsWith d.start).foldl
    (fun best d => if best.all (·.start.length ≤ d.start.length) then some d else best) none

/-- Whether a record is written. -/
def passes (f : Filter) (r : Record) : Bool :=
  let level := (f.directive? r.part).bind (·.level)
  level.any (fun level => r.level.rank ≤ level.rank)
    && f.wanted.all fun tree => tree.occursIn r.message

end Filter

/- Writing. -/

def padded (text : String) (width : Nat) : String :=
  text.pushn ' ' (width - text.length)

/-- Writes records, one to a line.  The names of parts are as wide as the widest so far. -/
def write : Nat → List Record → String
  | _, [] => ""
  | width, r :: rest =>
      let width := max width r.part.name.length
      " " ++ padded r.level.name 5 ++ " " ++ padded r.part.name width ++ " > " ++ r.message ++ "\n"
        ++ write width rest

end Log
end CommandLine
end GrammarText
