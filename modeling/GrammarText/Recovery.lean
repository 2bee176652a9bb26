/-
Reading a whole source.  Declarations are read one after another.  Where one fails, reading goes on
behind the next semicolon.  A fragment that is no token never reaches the parser, but a semicolon
inside it still ends the declaration it spoils, and a declaration or failure whose range overlaps
such a fragment is left out, so that the lexical error alone is reported there.
-/
import GrammarText.Declaration.Parser
import GrammarText.Diagnostic

namespace GrammarText

/-- What became of one stretch of tokens. -/
inductive Step where
  | read (declaration : Spanned Declaration)
  /-- Tokens that are no declaration, the index of the token where reading goes on, and why. -/
  | skipped (region : Span) (next : Nat) (error : ParseError)
  deriving DecidableEq

namespace Recovery

/-- Every semicolon of a text that starts at an offset, as a token. -/
def semicolons (offset : Nat) : List Char → List Lexeme
  | [] => []
  | c :: rest =>
      let later := semicolons (offset + c.utf8Size) rest
      if c == ';' then ⟨.mark .semicolon, ⟨offset, offset + 1⟩⟩ :: later else later

/-- The semicolons inside lexical errors. -/
def swallowed (source : String) (errors : List LexError) : List Lexeme :=
  errors.flatMap fun e =>
    semicolons e.span.start (Text.slice source.toList e.span.start e.span.stop)

/-- The tokens to parse: those of the source and the semicolons of its lexical errors, by offset. -/
def tokens (source : String) (lexed : Lexed) : List Lexeme :=
  (lexed.tokens ++ swallowed source lexed.errors).mergeSort
    fun a b => a.span.start ≤ b.span.start

/-- The tokens up to the first semicolon, if there is one, and those behind it. -/
def cut? : List Lexeme → Option (Lexeme × List Lexeme)
  | [] => none
  | t :: rest => if t.node = .mark .semicolon then some (t, rest) else cut? rest

/-- One declaration or failure at the head of the tokens, and the tokens behind it. -/
def step (stop index : Nat) (first : Lexeme) (rest : List Lexeme) : Step × List Lexeme :=
  match Parser.run Declaration.parser stop (first :: rest) with
  | .ok d => (.read d, (first :: rest).dropWhile (·.span.start < d.span.stop))
  | .error e =>
      match cut? (first :: rest) with
      | some (semicolon, later) =>
          (.skipped ⟨first.span.start, semicolon.span.stop⟩
            (index + (rest.length + 1 - later.length)) e, later)
      | none => (.skipped ⟨first.span.start, stop⟩ (index + (rest.length + 1)) e, [])

/-- All steps through a list of tokens, of which the first has the given index. -/
def steps (stop : Nat) : Nat → Nat → List Lexeme → List Step
  | 0, _, _ => []
  | _ + 1, _, [] => []
  | limit + 1, index, first :: rest =>
      let (s, later) := step stop index first rest
      s :: steps stop limit (index + (rest.length + 1 - later.length)) later

/-- Whether a range overlaps a lexical error. -/
def isSpoiled (errors : List LexError) (region : Span) : Bool :=
  errors.any fun e => e.span.overlaps region

/-- What the steps found, in their order. -/
structure Trace where
  lexed : Lexed
  swallowed : Nat
  steps : List Step

def trace (source : String) : Trace :=
  let lexed := tokenize source
  let all := tokens source lexed
  ⟨lexed, (swallowed source lexed.errors).length,
    steps (Text.byteLength source.toList) all.length 0 all⟩

namespace Trace

/-- Every declaration that was read, spoiled or not. -/
def read (t : Trace) : List (Spanned Declaration) :=
  t.steps.filterMap fun
    | .read d => some d
    | .skipped _ _ _ => none

/-- Every region that was skipped, spoiled or not. -/
def skipped (t : Trace) : List (Span × ParseError) :=
  t.steps.filterMap fun
    | .read _ => none
    | .skipped region _ e => some (region, e)

end Trace
end Recovery

/-- The declarations of a source and the report on the rest of it. -/
structure ParsedSource where
  declarations : List (Spanned Declaration)
  report : Report
  deriving DecidableEq

namespace ParsedSource

/-- Leaves out what lexical errors spoil. -/
def ofTrace (t : Recovery.Trace) : ParsedSource where
  declarations := t.read.filter fun d => !Recovery.isSpoiled t.lexed.errors d.span
  report :=
    .ofList
      (t.lexed.errors.map Diagnostic.ofLexError
        ++ (t.skipped.filter fun s => !Recovery.isSpoiled t.lexed.errors s.1).map
          fun s => Diagnostic.ofParseError s.2)

def isClean (p : ParsedSource) : Bool :=
  p.report.isEmpty

end ParsedSource

/-- Reads every declaration of a source. -/
def parseSource (source : String) : ParsedSource :=
  .ofTrace (Recovery.trace source)

/-- Reads a source that has to consist of one declaration. -/
def parseDeclaration (source : String) : Except Report (Spanned Declaration) :=
  let lexed := tokenize source
  match lexed.errors with
  | _ :: _ => .error (.ofList (lexed.errors.map Diagnostic.ofLexError))
  | [] =>
      match Parser.run (Parser.before Declaration.parser Parser.endOfInput)
          (Text.byteLength source.toList) lexed.tokens with
      | .ok d => .ok d
      | .error e => .error (.ofList [Diagnostic.ofParseError e])

end GrammarText
