/-
What is logged of a compilation.  Every record has a level and tells which part of the program made
it.
-/
import GrammarText.Table

namespace GrammarText
namespace CommandLine
namespace Log

inductive Level where
  | error
  | warn
  | info
  | debug
  | trace
  deriving Repr, DecidableEq

namespace Level

def all : List Level :=
  [error, warn, info, debug, trace]

def name : Level → String
  | error => "ERROR"
  | warn => "WARN"
  | info => "INFO"
  | debug => "DEBUG"
  | trace => "TRACE"

/-- How much more than errors a level takes in. -/
def rank : Level → Nat
  | error => 0
  | warn => 1
  | info => 2
  | debug => 3
  | trace => 4

end Level

/-- The parts of the program that log. -/
inductive Part where
  | recovery
  | compiler
  deriving Repr, DecidableEq

def Part.name : Part → String
  | recovery => "sbnf::sbnf::parsing::recovery"
  | compiler => "sbnf::sbnf::compiler"

structure Record where
  level : Level
  part : Part
  message : String
  deriving Repr, DecidableEq

/- What is logged. -/

def ofStep : Step → Record
  | .read d =>
      ⟨.trace, .recovery, "parsed " ++ d.node.describe ++ " at " ++ d.span.text⟩
  | .skipped region next _ =>
      ⟨.trace, .recovery, "resynchronising at token " ++ toString next ++ " after " ++ region.text⟩

def ofSkipped (errors : List LexError) (region : Span) (e : ParseError) : Record :=
  if Recovery.isSpoiled errors region then
    ⟨.debug, .recovery, "syntax errors in " ++ region.text ++ " superseded by a lexical error"⟩
  else ⟨.warn, .recovery, "recovered from: " ++ e.message⟩

def ofDropped (d : Spanned Declaration) : Record :=
  ⟨.warn, .recovery, "dropping " ++ d.node.describe ++ " containing a lexical error"⟩

/-- The records of reading a source. -/
def ofTrace (t : Recovery.Trace) : List Record :=
  let errors := t.lexed.errors
  let swallowed : List Record :=
    if t.swallowed == 0 then []
    else [⟨.trace, .recovery, toString t.swallowed ++ " `;` recovered from lexical errors"⟩]
  swallowed ++ t.steps.map ofStep
    ++ t.skipped.map (fun (region, e) => ofSkipped errors region e)
    ++ (t.read.filter fun d => Recovery.isSpoiled errors d.span).map ofDropped

/-- The records of compiling a source. -/
def ofSource (withBuiltins : Bool) (source : String) : List Record :=
  let t := Recovery.trace source
  let parsed := ParsedSource.ofTrace t
  let registering := parsed.declarations.map fun d =>
    Record.mk .debug .compiler ("registering " ++ d.node.describe)
  let last : List Record :=
    if !parsed.isClean then
      [⟨.info, .compiler,
        "compile failed with " ++ toString parsed.report.length ++ " diagnostics"⟩]
    else if withBuiltins then
      let added := (Table.empty.register parsed).missingBuiltins.length
      [⟨.debug, .compiler, "registered " ++ toString added ++ " baseline tokens"⟩]
    else []
  ofTrace t ++ registering ++ last

end Log
end CommandLine
end GrammarText
