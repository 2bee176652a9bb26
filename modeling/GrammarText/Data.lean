/-
Structured data, to which tables are turned before they are written in a structured format, and its
JSON.
-/
import GrammarText.Text.Escaped

namespace GrammarText

inductive Data where
  | null
  | number (value : Nat)
  | text (value : String)
  | list (items : List Data)
  /-- Named fields in their order. -/
  | record (fields : List (String × Data))
  deriving Repr

namespace Data

/-- The value of a field. -/
def field? (name : String) : Data → Option Data
  | record fields => fields.lookup name
  | _ => none

def text? : Data → Option String
  | text value => some value
  | _ => none

namespace Json

/-- How a character is written between double quotes. -/
def escape (c : Char) : List Char :=
  if c == '"' then ['\\', '"']
  else if c == '\\' then ['\\', '\\']
  else if c == '\n' then ['\\', 'n']
  else if c == '\r' then ['\\', 'r']
  else if c == '\t' then ['\\', 't']
  else if c == '\x08' then ['\\', 'b']
  else if c == '\x0c' then ['\\', 'f']
  else if c.toNat < 32 then ['\\', 'u'] ++ Text.hexPadded 4 c.toNat
  else [c]

def quote (text : String) : String :=
  String.ofList ('"' :: text.toList.flatMap escape ++ ['"'])

def indent (depth : Nat) : String :=
  "".pushn ' ' (2 * depth)

mutual

/-- Writes data with two spaces to a level.  Empty lists and records stay on their line. -/
def print (depth : Nat) : Data → String
  | null => "null"
  | number value => toString value
  | text value => quote value
  | list [] => "[]"
  | list (item :: rest) =>
      "[\n" ++ indent (depth + 1) ++ print (depth + 1) item ++ printItems (depth + 1) rest
        ++ "\n" ++ indent depth ++ "]"
  | record [] => "\x7b\x7d"
  | record ((name, value) :: rest) =>
      "\x7b\n" ++ indent (depth + 1) ++ quote name ++ ": " ++ print (depth + 1) value
        ++ printFields (depth + 1) rest ++ "\n" ++ indent depth ++ "\x7d"

/-- The items of a list behind the first. -/
def printItems (depth : Nat) : List Data → String
  | [] => ""
  | item :: rest => ",\n" ++ indent depth ++ print depth item ++ printItems depth rest

/-- The fields of a record behind the first. -/
def printFields (depth : Nat) : List (String × Data) → String
  | [] => ""
  | (name, value) :: rest =>
      ",\n" ++ indent depth ++ quote name ++ ": " ++ print depth value ++ printFields depth rest

end

end Json

/-- The data in JSON, without a line feed at the end. -/
def toJson (d : Data) : String :=
  Json.print 0 d

end Data

end GrammarText
