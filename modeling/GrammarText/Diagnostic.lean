/-
Diagnostics of a source text and their report.  A report is in the order of offsets and has one
diagnostic for each, the first that was recorded there.
-/
import GrammarText.Span
import GrammarText.Location
import GrammarText.ParseError

namespace GrammarText

inductive DiagnosticKind where
  | lexical
  | syntactic
  | range
  deriving Repr, DecidableEq

def DiagnosticKind.text : DiagnosticKind → String
  | lexical => "lexical"
  | syntactic => "syntax"
  | range => "range"

structure Diagnostic where
  kind : DiagnosticKind
  span : Span
  message : String
  /-- What would have been accepted.  Only errors about an unexpected token list it. -/
  expected : List String
  found : Option String
  deriving Repr, DecidableEq

namespace Diagnostic

def ofLexError (e : LexError) : Diagnostic :=
  ⟨.lexical, e.span, e.fault.message, [], none⟩

def ofParseError (e : ParseError) : Diagnostic :=
  match e.fault with
  | .unexpected =>
      ⟨.syntactic, e.span, e.message, e.expected.map Expectation.text, some e.foundText⟩
  | .mixedLiterals => ⟨.syntactic, e.span, e.message, [], none⟩
  | .invertedBounds _ _ => ⟨.range, e.span, e.message, [], none⟩

def text (d : Diagnostic) : String :=
  d.kind.text ++ " error at " ++ d.span.text ++ ": " ++ d.message

def startsBefore (a b : Diagnostic) : Bool :=
  a.span.start ≤ b.span.start

/-- Drops every diagnostic that starts where the one before it starts. -/
def firstOfEach : List Diagnostic → List Diagnostic
  | [] => []
  | d :: rest =>
      match firstOfEach rest with
      | [] => [d]
      | next :: later => if d.span.start == next.span.start then d :: later else d :: next :: later

end Diagnostic

/-- The diagnostics of one source text. -/
structure Report where
  items : List Diagnostic
  deriving Repr, DecidableEq

namespace Report

/-- Orders diagnostics by offset and keeps the first of each offset. -/
def ofList (items : List Diagnostic) : Report :=
  ⟨Diagnostic.firstOfEach (items.mergeSort Diagnostic.startsBefore)⟩

def isEmpty (r : Report) : Bool :=
  r.items.isEmpty

def length (r : Report) : Nat :=
  r.items.length

def first? (r : Report) : Option Diagnostic :=
  r.items.head?

def count (r : Report) (kind : DiagnosticKind) : Nat :=
  r.items.countP (·.kind == kind)

/-- The first diagnostics up to a limit.  Zero is no limit. -/
def truncated (r : Report) (limit : Nat) : Report :=
  if limit == 0 then r else ⟨r.items.take limit⟩

/-- The number of errors and one line for each. -/
def text (r : Report) : String :=
  (if r.length == 1 then "1 compile error" else toString r.length ++ " compile errors")
    ++ String.join (r.items.map ("\n  " ++ ·.text))

/-- A diagnostic with the source lines around it. -/
def renderItem (source : String) (around : UInt64) (d : Diagnostic) : String :=
  let p := Location.position source d.span.start
  "error[" ++ d.kind.text ++ "] " ++ p.text ++ ": " ++ d.message ++ "\n"
    ++ Location.context source p.line around ++ "\n"

/-- The report for people, with numbered source lines around every error. -/
def render (r : Report) (source : String) (around : UInt64) : String :=
  String.join (r.items.map (renderItem source around))

end Report
end GrammarText
