/-
Literals between delimiters: texts between single quotes, and the bodies of regexes between slashes.
-/
import GrammarText.Span

namespace GrammarText
namespace Text

/-- Carriage return and line feed end a line.  No literal runs past them. -/
def isLineEnd (c : Char) : Bool :=
  c == '\r' || c == '\n'

namespace Delimited

/-
A delimited literal is an opening delimiter, a run of units and a closing delimiter.  A unit is a
character other than the delimiter, the backslash and a line end, or a backslash together with the
character after it, which may be anything but a line end.
-/

/--
Splits the text behind an opening delimiter where the literal stops: behind the closing delimiter
if one comes, else before a line end, before a backslash that opens no unit, or at the end.
-/
def split (delimiter : Char) : List Char → List Char × List Char
  | [] => ([], [])
  | ['\\'] => ([], ['\\'])
  | '\\' :: c :: rest =>
      if isLineEnd c then ([], '\\' :: c :: rest)
      else
        let (inside, outside) := split delimiter rest
        ('\\' :: c :: inside, outside)
  | c :: rest =>
      if c == delimiter then ([c], rest)
      else if isLineEnd c then ([], c :: rest)
      else
        let (inside, outside) := split delimiter rest
        (c :: inside, outside)

/--
The text between the delimiters.  A last delimiter that an odd number of backslashes precedes is
part of a unit and closes nothing.
-/
def body? (delimiter : Char) : List Char → Option (List Char)
  | [] => none
  | opening :: inner =>
      if opening != delimiter then none
      else
        match inner.reverse with
        | [] => none
        | closing :: reversed =>
            if closing == delimiter && (reversed.takeWhile (· == '\\')).length % 2 == 0 then
              some reversed.reverse
            else
              none

end Delimited

namespace Quoted

/-- How a character is written between single quotes. -/
def escape : Char → List Char
  | '\\' => ['\\', '\\']
  | '\'' => ['\\', '\'']
  | '\n' => ['\\', 'n']
  | '\t' => ['\\', 't']
  | '\r' => ['\\', 'r']
  | c => [c]

def encode (text : String) : String :=
  String.ofList ('\'' :: text.toList.flatMap escape ++ ['\''])

/-- What the character behind a backslash stands for. -/
def escaped? : Char → Option Char
  | 'n' => some '\n'
  | 't' => some '\t'
  | 'r' => some '\r'
  | '\'' => some '\''
  | '\\' => some '\\'
  | _ => none

/-- Undoes `escape` on a whole body.  A backslash that opens no known escape has no reading. -/
def unescape : List Char → Option (List Char)
  | [] => some []
  | ['\\'] => none
  | '\\' :: c :: rest =>
      match escaped? c with
      | some value => (unescape rest).map (value :: ·)
      | none => none
  | c :: rest => (unescape rest).map (c :: ·)

/-- Reads a single-quoted literal, delimiters included. -/
def decode (raw : List Char) : Except LexFault String :=
  match Delimited.body? '\'' raw with
  | none => .error .unterminatedLiteral
  | some body =>
      match unescape body with
      | some text => .ok (String.ofList text)
      | none => .error .malformedEscape

end Quoted

namespace Slashed

/-- Writes a regex body between slashes, with a backslash before every slash of its own. -/
def encode (body : String) : String :=
  let written := body.toList.flatMap fun c => if c == '/' then ['\\', '/'] else [c]
  String.ofList ('/' :: written ++ ['/'])

/--
Drops the backslash before a slash and keeps every other escape as it is written, for the regex
engine to read.  A lone backslash at the end has no reading.
-/
def unescape : List Char → Option (List Char)
  | [] => some []
  | ['\\'] => none
  | '\\' :: c :: rest =>
      (unescape rest).map fun tail => if c == '/' then '/' :: tail else '\\' :: c :: tail
  | c :: rest => (unescape rest).map (c :: ·)

/-- Reads a slash-delimited regex, delimiters included. -/
def decode (raw : List Char) : Except LexFault String :=
  match Delimited.body? '/' raw with
  | none => .error .unterminatedRegex
  | some body =>
      match unescape body with
      | some text => .ok (String.ofList text)
      | none => .error .unterminatedRegex

end Slashed
end Text
end GrammarText
