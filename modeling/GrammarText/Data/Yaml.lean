import GrammarText.Data
import GrammarText.Data.Scalar
import GrammarText.Text.Escaped

namespace GrammarText
namespace Data
namespace Yaml

def spaces (n : Nat) : String :=
  "".pushn ' ' n

/-- The text between single quotes.  A break is followed by the indentation. -/
def singleQuoted (indent : Nat) (text : List Char) : String :=
  let rec body (afterBreak : Bool) : List Char → List Char
    | [] => if afterBreak then List.replicate indent ' ' else []
    | c :: rest =>
        if isBreak c then c :: body true rest
        else
          (if afterBreak then List.replicate indent ' ' else [])
            ++ (if c == '\'' then ['\'', '\''] else [c]) ++ body false rest
  "'" ++ String.ofList (body false text) ++ "'"

/-- The digits of a code point in upper case. -/
def upperHex (width n : Nat) : List Char :=
  (Text.hexPadded width n).map Char.toUpper

/-- How a character is written between double quotes. -/
def escape (c : Char) : List Char :=
  if isPrintable c && !isBreak c && c != '"' && c != '\\' then [c]
  else
    '\\' ::
      match c with
      | '\x00' => ['0']
      | '\x07' => ['a']
      | '\x08' => ['b']
      | '\t' => ['t']
      | '\n' => ['n']
      | '\x0b' => ['v']
      | '\x0c' => ['f']
      | '\r' => ['r']
      | '\x1b' => ['e']
      | '"' => ['"']
      | '\\' => ['\\']
      | '\x85' => ['N']
      | '\u2028' => ['L']
      | '\u2029' => ['P']
      | c =>
          if c.toNat ≤ 0xff then 'x' :: upperHex 2 c.toNat
          else if c.toNat ≤ 0xffff then 'u' :: upperHex 4 c.toNat
          else 'U' :: upperHex 8 c.toNat

def doubleQuoted (text : List Char) : String :=
  String.ofList ('"' :: text.flatMap escape ++ ['"'])

/--
What stands behind the bar of a literal text: the indentation, where its first line does not show
it, and whether the breaks at its end are none, one, or as they are.
-/
def literalHints (text : List Char) : String :=
  let indentation := if text.head?.any (fun c => c == ' ' || isBreak c) then "2" else ""
  let ending :=
    match text.reverse with
    | [] => "-"
    | [last] => if isBreak last then "+" else "-"
    | last :: previous :: _ =>
        if !isBreak last then "-" else if isBreak previous then "+" else ""
  indentation ++ ending

/-- The lines of a literal text with their indentation.  Empty lines have none. -/
def literalBody (indent : Nat) (afterBreak : Bool) : List Char → List Char
  | [] => []
  | c :: rest =>
      if isBreak c then c :: literalBody indent true rest
      else
        (if afterBreak then List.replicate indent ' ' else []) ++ c :: literalBody indent false rest

/-- A text, and the line feed behind it unless it ends in a break of its own. -/
def textLine (indent : Nat) (text : String) : String :=
  let chars := text.toList
  match styleOf chars with
  | .plain => text ++ "\n"
  | .single => singleQuoted indent chars ++ "\n"
  | .double => doubleQuoted chars ++ "\n"
  | .literal =>
      "|" ++ literalHints chars ++ "\n" ++ String.ofList (literalBody indent true chars)
        ++ (if chars.getLast?.any isBreak then "" else "\n")

mutual

/-- What stands behind a field's name in a record that has the given indentation. -/
def printValue (indent : Nat) : Data → String
  | null => " null\n"
  | number value => " " ++ toString value ++ "\n"
  | text value => " " ++ textLine (indent + 2) value
  | list [] => " []\n"
  | list items => "\n" ++ printItems indent items
  | record [] => " \x7b\x7d\n"
  | record fields => "\n" ++ printFields true (indent + 2) fields

/-- What stands behind the hyphen of an item in a list that has the given indentation. -/
def printItem (indent : Nat) : Data → String
  | null => " null\n"
  | number value => " " ++ toString value ++ "\n"
  | text value => " " ++ textLine (indent + 2) value
  | list [] => " []\n"
  | list (item :: rest) => " -" ++ printItem (indent + 2) item ++ printItems (indent + 2) rest
  | record [] => " \x7b\x7d\n"
  | record fields => " " ++ printFields false (indent + 2) fields

def printItems (indent : Nat) : List Data → String
  | [] => ""
  | item :: rest => spaces indent ++ "-" ++ printItem indent item ++ printItems indent rest

/-- Fields, of which the first may stand on a line that has been started. -/
def printFields (startsLine : Bool) (indent : Nat) : List (String × Data) → String
  | [] => ""
  | (name, value) :: rest =>
      (if startsLine then spaces indent else "") ++ name ++ ":" ++ printValue indent value
        ++ printFields true indent rest

end

end Yaml

/-- The data in YAML. -/
def toYaml : Data → String
  | record [] => "\x7b\x7d\n"
  | record fields => Yaml.printFields true 0 fields
  | list [] => "[]\n"
  | list items => Yaml.printItems 0 items
  | null => "null\n"
  | number value => toString value ++ "\n"
  | text value => Yaml.textLine 0 value

end Data
end GrammarText
