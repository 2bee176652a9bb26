/-
Paths into a configuration: names with points between them, and indexes in square brackets behind
names.
-/
import GrammarText.Config.Value
import GrammarText.Text.Decimal

namespace GrammarText
namespace Config

inductive PathStep where
  | name (text : String)
  | index (value : Int)
  deriving Repr, DecidableEq

/-- A name and the steps from there on. -/
structure Path where
  head : String
  tail : List PathStep
  deriving Repr, DecidableEq

inductive PathFault where
  /-- No name where the path starts. -/
  | noName
  /-- Neither a name behind a point nor a bracket where one has to stand. -/
  | noStep
  /-- No digit where an index starts. -/
  | noDigit
  /-- An index beyond 64 bits. -/
  | indexRange
  deriving Repr, DecidableEq

def PathFault.message : PathFault → String
  | noName => "IsA"
  | noStep => "Char"
  | noDigit => "Digit"
  | indexRange => "Map on Result"

namespace Path

def isNameChar (c : Char) : Bool :=
  c.isAlphanum || c == ' ' || c == '_' || c == '-'

def isBlank (c : Char) : Bool :=
  c == ' ' || c == '\t'

/-- Reads an index and the bracket behind it. -/
def index (text : List Char) : Except PathFault (Int × List Char) :=
  let inside := text.dropWhile isBlank
  let (negative, inside) : Bool × List Char :=
    match inside with
    | '-' :: rest => (true, rest)
    | _ => (false, inside)
  let digits := inside.takeWhile Char.isDigit
  let value : Int := Text.Decimal.valueOf digits
  let value := if negative then -value else value
  if digits.isEmpty then .error .noDigit
  else if !Scalar.isInRange value then .error .indexRange
  else
    match (inside.drop digits.length).dropWhile isBlank with
    | ']' :: rest => .ok (value, rest)
    | _ => .error .noStep

/-- Reads the next step. -/
def step : List Char → Except PathFault (PathStep × List Char)
  | '.' :: rest =>
      match rest.takeWhile isNameChar with
      | [] => .error .noStep
      | name => .ok (.name (String.ofList name), rest.drop name.length)
  | '[' :: rest => do
      let (value, rest) ← index rest
      return (.index value, rest)
  | _ => .error .noStep

/-- Reads steps up to the end, at most as many as there are characters. -/
def steps : Nat → List Char → Except PathFault (List PathStep)
  | _, [] => .ok []
  | 0, _ => .error .noStep
  | limit + 1, text => do
      let (first, rest) ← step text
      return first :: (← steps limit rest)

def parse (text : String) : Except PathFault Path :=
  let chars := text.toList
  match chars.takeWhile isNameChar with
  | [] => .error .noName
  | name => do
      return ⟨String.ofList name, ← steps chars.length (chars.drop name.length)⟩

end Path

namespace Value

/-- Sets what the steps behind a value lead to. -/
def setAlong (value : Value) : List PathStep → Value → Value
  | [], _ => value
  | [.name name], root => assign name value root
  | .name name :: rest, root =>
      let key := Text.lowercase name
      root.setEntry key (setAlong value rest ((root.get? key).getD nothing))
  | .index i :: rest, root =>
      let old := (root.items[place root.items.length i]?).getD nothing
      root.setItem i (setAlong value rest old)

/-- Sets what a path leads to.  Values on the way that the path cannot go through give way. -/
def set (root : Value) (path : Path) (value : Value) : Value :=
  setAlong value (.name path.head :: path.tail) root

end Value
end Config
end GrammarText
