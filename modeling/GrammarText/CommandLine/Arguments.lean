/-
The arguments of the command.  They are read from left to right.  An option that takes its value
from the next argument, and the path, are kept back until something else follows, so of two faults
the one that is noticed first is reported.
-/
import GrammarText.CommandLine.Command
import GrammarText.CommandLine.Similarity

namespace GrammarText
namespace CommandLine

inductive Flag where
  | config
  | format
  | set
  | noBuiltins
  | check
  | help
  | version
  deriving Repr, DecidableEq

namespace Flag

def all : List Flag :=
  [config, format, set, noBuiltins, check, help, version]

def long : Flag → String
  | config => "config"
  | format => "format"
  | set => "set"
  | noBuiltins => "no-builtins"
  | check => "check"
  | help => "help"
  | version => "version"

def short? : Flag → Option Char
  | config => some 'c'
  | format => some 'f'
  | help => some 'h'
  | version => some 'V'
  | _ => none

/-- What stands for the value of a flag that takes one. -/
def value? : Flag → Option String
  | config => some "config"
  | format => some "format"
  | set => some "KEY=VALUE"
  | _ => none

/-- Whether a flag may be given more than once. -/
def isRepeatable : Flag → Bool
  | set => true
  | _ => false

def about : Flag → String
  | config => "TOML file layered over the built-in defaults"
  | format => "Output format: json, yaml, sbnf or debug (default from config)"
  | set => "Override a configuration key, e.g. diagnostics.context_lines=4"
  | noBuiltins => "Do not declare EOF, WS, SPACES and NEWLINE"
  | check => "Only report errors, print nothing on success"
  | help => "Print help"
  | version => "Print version"

def ofLong? (name : String) : Option Flag :=
  all.find? (·.long == name)

def ofShort? (c : Char) : Option Flag :=
  all.find? (·.short? == some c)

/-- The flag as messages show it. -/
def text (f : Flag) : String :=
  "--" ++ f.long
    ++ (match f.value? with
      | none => ""
      | some value => " <" ++ value ++ ">")

end Flag

/-- What a message proposes for an argument that is none. -/
inductive Hint where
  | similar (flag : Flag)
  | asValue
  deriving Repr, DecidableEq

/-- How to call the command: with any flags, or with those in use. -/
inductive Usage where
  | general
  | withFlags (flags : List Flag)
  deriving Repr, DecidableEq

inductive ArgumentFault where
  | unknown (argument : String) (hint : Option Hint) (usage : Usage)
  /-- A value for a flag that takes none. -/
  | needlessValue (value : String) (flag : Flag) (usage : Usage)
  | repeated (flag : Flag)
  | noValue (flag : Flag)
  | noPath (usage : Usage)
  deriving Repr, DecidableEq

/-- Why no arguments come out of reading. -/
inductive Stop where
  | help
  | version
  /-- No argument at all. -/
  | nothing
  | fault (fault : ArgumentFault)
  deriving Repr, DecidableEq

/-- What is kept back. -/
inductive Pending where
  | nothing
  /-- A flag that takes a value, and its value if it is there. -/
  | flag (flag : Flag) (value : Option String)
  | path (text : String)
  deriving Repr, DecidableEq

/-- The arguments as far as they have been read. -/
structure Arguments where
  /-- The flags with their values, in the order of their first use. -/
  flags : List (Flag × List String)
  path : Option String
  pending : Pending
  /-- Whether a path has been read, kept back or not. -/
  hasPath : Bool
  deriving Repr, DecidableEq

namespace Arguments

def empty : Arguments :=
  ⟨[], none, .nothing, false⟩

def used (a : Arguments) : List Flag :=
  a.flags.map Prod.fst

/-- Adds a value to those of a flag. -/
def addValue (flag : Flag) (value : String) :
    List (Flag × List String) → List (Flag × List String)
  | [] => [(flag, [value])]
  | (other, values) :: rest =>
      if other = flag then (other, values ++ [value]) :: rest
      else (other, values) :: addValue flag value rest

/-- Takes a flag with its value.  A flag that was there before and may not be repeated goes. -/
def take (a : Arguments) (flag : Flag) (value : String) : Arguments × Option ArgumentFault :=
  if a.used.contains flag && !flag.isRepeatable then
    ({ a with flags := a.flags.filter (·.1 ≠ flag) }, some (.repeated flag))
  else ({ a with flags := addValue flag value a.flags }, none)

/-- Takes what was kept back. -/
def settle (a : Arguments) : Arguments × Option ArgumentFault :=
  let rest := { a with pending := .nothing }
  match a.pending with
  | .nothing => (rest, none)
  | .path text => ({ rest with path := some text }, none)
  | .flag flag none => (rest, some (.noValue flag))
  | .flag flag (some value) => rest.take flag value

/-- Takes what was kept back, which has to be without fault. -/
def settled (a : Arguments) : Except Stop Arguments :=
  match a.settle with
  | (a, none) => .ok a
  | (_, some fault) => .error (.fault fault)

/-- An argument that is none.  What was kept back is taken first, whether it is faulty or not. -/
def refuse {α : Type} (a : Arguments) (argument : String) (hint : Option Hint)
    (usage : Arguments → Usage) : Except Stop α :=
  .error (.fault (.unknown argument hint (usage a.settle.1)))

/-- The usage with what has been given so far. -/
def usage (a : Arguments) : Usage :=
  if a.used.isEmpty && a.path.isNone then .general else .withFlags a.used

/-- The usage with the flags in use and another one, which is listed once. -/
def usageWith (a : Arguments) (flag : Flag) : Usage :=
  .withFlags (if a.used.contains flag then a.used else a.used ++ [flag])

/-- Reads a flag that takes no value. -/
def readSwitch (a : Arguments) (flag : Flag) : Except Stop Arguments := do
  let a ← a.settled
  match flag with
  | .help => .error .help
  | .version => .error .version
  | _ =>
      match a.take flag "true" with
      | (a, none) => return a
      | (_, some fault) => .error (.fault fault)

/-- Reads a flag that takes a value, which is attached to it or in the next argument. -/
def readOption (a : Arguments) (flag : Flag) (attached : Option String) :
    Except Stop Arguments := do
  let a ← a.settled
  match attached with
  | none => return { a with pending := .flag flag none }
  | some value =>
      match a.take flag value with
      | (a, none) => return a
      | (_, some fault) => .error (.fault fault)

/-- Reads an argument of two hyphens, a name, and perhaps an equals sign and a value. -/
def readLong (a : Arguments) (name : String) (attached : Option String) :
    Except Stop Arguments :=
  match Flag.ofLong? name with
  | none =>
      match (Similarity.closest? name (Flag.all.map Flag.long)).bind Flag.ofLong? with
      | some flag =>
          a.refuse ("--" ++ name) (some (.similar flag)) fun a => a.usageWith flag
      | none => a.refuse ("--" ++ name) (some .asValue) usage
  | some flag =>
      match flag.value?, attached with
      | some _, _ => a.readOption flag attached
      | none, none => a.readSwitch flag
      | none, some value => .error (.fault (.needlessValue value flag (a.usageWith flag)))

/-- Reads flags of one character each.  What stands behind one that takes a value is its value. -/
def readShorts (a : Arguments) : List Char → Except Stop Arguments
  | [] => .ok a
  | c :: rest =>
      match Flag.ofShort? c with
      | none => a.refuse (String.ofList ['-', c]) (some .asValue) fun _ => .general
      | some flag =>
          match flag.value? with
          | none => do readShorts (← a.readSwitch flag) rest
          | some _ =>
              a.readOption flag
                (match rest with
                  | [] => none
                  | '=' :: value => some (String.ofList value)
                  | value => some (String.ofList value))

/-- Reads an argument that is no flag: the value of a flag that waits for one, or the path. -/
def readPlain (a : Arguments) (text : String) (waits : Bool) : Except Stop Arguments :=
  match a.pending, waits with
  | .flag flag none, true => .ok { a with pending := .flag flag (some text) }
  | _, _ =>
      if a.hasPath then a.refuse text none fun _ => .general
      else do
        let a ← a.settled
        return { a with pending := .path text, hasPath := true }

/-- Reads one argument in front of two lone hyphens. -/
def readOne (a : Arguments) (text : String) : Except Stop Arguments :=
  match text.toList with
  | '-' :: '-' :: rest =>
      let name := rest.takeWhile (· != '=')
      a.readLong (String.ofList name)
        (match rest.drop name.length with
          | [] => none
          | _ :: value => some (String.ofList value))
  | '-' :: c :: rest => a.readShorts (c :: rest)
  | _ => a.readPlain text true

/-- Reads the arguments behind two lone hyphens, of which none is a flag. -/
def readPlains : Arguments → List String → Except Stop Arguments
  | a, [] => .ok a
  | a, text :: rest => do readPlains (← a.readPlain text false) rest

def readAll : Arguments → List String → Except Stop Arguments
  | a, [] => .ok a
  | a, text :: rest =>
      if text == "--" then readPlains a rest
      else do readAll (← a.readOne text) rest

def values (a : Arguments) (flag : Flag) : List String :=
  (a.flags.lookup flag).getD []

end Arguments

def Invocation.parse (arguments : List String) : Except Stop Invocation := do
  let a ← (← Arguments.empty.readAll arguments).settled
  match a.path with
  | none =>
      if a.flags.isEmpty then .error .nothing else .error (.fault (.noPath a.usage))
  | some path =>
      return {
        path := some path
        config := (a.values .config).head?
        format := (a.values .format).head?
        assignments := a.values .set
        noBuiltins := a.used.contains .noBuiltins
        checkOnly := a.used.contains .check }

end CommandLine
end GrammarText
