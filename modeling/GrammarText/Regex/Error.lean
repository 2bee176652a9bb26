/-
Errors in regexes and how they are shown: the pattern, a line of carets under the places the error
is about, and the reason.
-/
namespace GrammarText
namespace Regex

/-- A place in a pattern.  Lines and columns start at one, and columns count characters. -/
structure Place where
  line : Nat
  column : Nat
  deriving Repr, DecidableEq

/-- The characters from one place up to another. -/
structure Extent where
  start : Place
  stop : Place
  deriving Repr, DecidableEq

inductive Fault where
  | classEscapeInvalid
  | classRangeInvalid
  | classRangeLiteral
  | classUnclosed
  | decimalInvalid
  | hexEmpty
  | hexInvalid
  | hexInvalidDigit
  | escapeUnexpectedEnd
  | escapeUnrecognized
  | flagDanglingNegation
  | flagDuplicate
  | flagRepeatedNegation
  | flagUnexpectedEnd
  | flagUnrecognized
  | groupNameDuplicate
  | groupNameEmpty
  | groupNameInvalid
  | groupNameUnexpectedEnd
  | groupUnclosed
  | groupUnopened
  | countInvalid
  | countEmpty
  | countUnclosed
  | repetitionMissing
  | wordBoundaryUnclosed
  | wordBoundaryUnrecognized
  | wordBoundaryUnexpectedEnd
  | propertyInvalid
  | backreference
  | lookAround
  | unicodeNotAllowed
  | invalidUtf8
  | propertyNotFound
  | propertyValueNotFound
  deriving Repr, DecidableEq

def Fault.message : Fault → String
  | classEscapeInvalid => "invalid escape sequence found in character class"
  | classRangeInvalid => "invalid character class range, the start must be <= the end"
  | classRangeLiteral => "invalid range boundary, must be a literal"
  | classUnclosed => "unclosed character class"
  | decimalInvalid => "decimal literal invalid"
  | hexEmpty => "hexadecimal literal empty"
  | hexInvalid => "hexadecimal literal is not a Unicode scalar value"
  | hexInvalidDigit => "invalid hexadecimal digit"
  | escapeUnexpectedEnd => "incomplete escape sequence, reached end of pattern prematurely"
  | escapeUnrecognized => "unrecognized escape sequence"
  | flagDanglingNegation => "dangling flag negation operator"
  | flagDuplicate => "duplicate flag"
  | flagRepeatedNegation => "flag negation operator repeated"
  | flagUnexpectedEnd => "expected flag but got end of regex"
  | flagUnrecognized => "unrecognized flag"
  | groupNameDuplicate => "duplicate capture group name"
  | groupNameEmpty => "empty capture group name"
  | groupNameInvalid => "invalid capture group character"
  | groupNameUnexpectedEnd => "unclosed capture group name"
  | groupUnclosed => "unclosed group"
  | groupUnopened => "unopened group"
  | countInvalid => "invalid repetition count range, the start must be <= the end"
  | countEmpty => "repetition quantifier expects a valid decimal"
  | countUnclosed => "unclosed counted repetition"
  | repetitionMissing => "repetition operator missing expression"
  | wordBoundaryUnclosed =>
      "special word boundary assertion is either unclosed or contains an invalid character"
  | wordBoundaryUnrecognized =>
      "unrecognized special word boundary assertion, valid choices are: start, end, start-half "
        ++ "or end-half"
  | wordBoundaryUnexpectedEnd =>
      "found either the beginning of a special word boundary or a bounded repetition on a \\b "
        ++ "with an opening brace, but no closing brace"
  | propertyInvalid => "invalid Unicode character class"
  | backreference => "backreferences are not supported"
  | lookAround => "look-around, including look-ahead and look-behind, is not supported"
  | unicodeNotAllowed => "Unicode not allowed here"
  | invalidUtf8 => "pattern can match invalid UTF-8"
  | propertyNotFound => "Unicode property not found"
  | propertyValueNotFound => "Unicode property value not found"

/-- What is wrong, where, and what earlier place it clashes with. -/
structure Error where
  fault : Fault
  extent : Extent
  earlier : Option Extent
  deriving Repr, DecidableEq

namespace Error

def of (fault : Fault) (extent : Extent) : Error :=
  ⟨fault, extent, none⟩

/-- The lines of a pattern.  A line feed at the end starts no line, and a carriage return before a
line feed belongs to it. -/
def patternLines (pattern : List Char) : List (List Char) :=
  let pieces := pattern.foldr (fun c lines =>
    if c == '\n' then [] :: lines
    else
      match lines with
      | [] => [[c]]
      | first :: others => (c :: first) :: others) [[]]
  let terminated := pieces.dropLast.map fun line =>
    if line.getLast? == some '\r' then line.dropLast else line
  match pieces.getLast? with
  | some [] => terminated
  | some last => terminated ++ [last]
  | none => terminated

/-- The extents of an error, in the order of their places. -/
def extents (e : Error) : List Extent :=
  match e.earlier with
  | none => [e.extent]
  | some other =>
      if other.start.line < e.extent.start.line
          || (other.start.line == e.extent.start.line
            && other.start.column ≤ e.extent.start.column) then
        [other, e.extent]
      else
        [e.extent, other]

/-- Carets under the columns of some extents of one line.  An empty extent has one caret. -/
def carets (extents : List Extent) : List Char :=
  extents.foldl (fun notes x =>
    notes ++ List.replicate (x.start.column - 1 - notes.length) ' '
      ++ List.replicate (max 1 (x.stop.column - x.start.column)) '^') []

def spaces (n : Nat) : String :=
  "".pushn ' ' n

/-- A line of the pattern with its number, if lines are numbered, and the carets under it. -/
def noted (width : Nat) (extents : List Extent) (number : Nat) (line : List Char) : String :=
  let digits := toString number
  let lead := if width == 0 then spaces 4 else spaces (width - digits.length) ++ digits ++ ": "
  let here := extents.filter fun x => x.start.line == number && x.stop.line == number
  let notes :=
    if here.isEmpty then ""
    else spaces (if width == 0 then 4 else width + 2) ++ String.ofList (carets here) ++ "\n"
  lead ++ String.ofList line ++ "\n" ++ notes

def notedLines (width : Nat) (extents : List Extent) : Nat → List (List Char) → String
  | _, [] => ""
  | number, line :: rest =>
      noted width extents number line ++ notedLines width extents (number + 1) rest

/-- Where an extent over several lines starts and stops. -/
def acrossLines (x : Extent) : String :=
  "on line " ++ toString x.start.line ++ " (column " ++ toString x.start.column
    ++ ") through line " ++ toString x.stop.line ++ " (column " ++ toString (x.stop.column - 1)
    ++ ")"

/-- The error as a report under the pattern. -/
def text (pattern : String) (e : Error) : String :=
  let lines := patternLines pattern.toList
  let reason := "error: " ++ e.fault.message
  if pattern.toList.contains '\n' then
    let count := lines.length + (if pattern.toList.getLast? == some '\n' then 1 else 0)
    let width := if count ≤ 1 then 0 else (toString count).length
    let divider := "".pushn '~' 79 ++ "\n"
    let across := e.extents.filter fun x => x.start.line != x.stop.line
    let remarks :=
      if across.isEmpty then "" else String.intercalate "\n" (across.map acrossLines) ++ "\n"
    "regex parse error:\n" ++ divider ++ notedLines width e.extents 1 lines ++ divider ++ remarks
      ++ reason
  else
    "regex parse error:\n" ++ notedLines 0 e.extents 1 lines ++ reason

end Error
end Regex
end GrammarText
