namespace GrammarText
namespace Text

/-- An arithmetic run of code points: every `step`-th one from `first` up to `last`. -/
structure CharRun where
  first : Nat
  last : Nat
  step : Nat
  deriving Repr, DecidableEq

namespace CharRun

/-- The run that holds one code point. -/
def one (code : Nat) : CharRun :=
  ⟨code, code, 1⟩

/-- Consecutive code points. -/
def run (first last : Nat) : CharRun :=
  ⟨first, last, 1⟩

/-- Every other code point, as in the blocks that interleave the two cases of a letter. -/
def alt (first last : Nat) : CharRun :=
  ⟨first, last, 2⟩

def has (r : CharRun) (code : Nat) : Bool :=
  r.first ≤ code && code ≤ r.last && (code - r.first) % r.step == 0

/-- Whether some run of an ascending table holds the code point. -/
def anyHas : List CharRun → Nat → Bool
  | [], _ => false
  | r :: rest, code => r.first ≤ code && (r.has code || anyHas rest code)

/- Packed tables.

A table can be written as a text, with an item for each run and blanks between the items.  An item
says in base 36 how many code points the run leaves out behind the run before it.  A hyphen and a
number follow if the run goes on for so many code points, and a slash and a number if it goes on for
so many of every other code point. -/

def digit36 (c : Char) : Nat :=
  if c.isDigit then c.toNat - '0'.toNat else c.toNat - 'a'.toNat + 10

def number36 (digits : List Char) : Nat :=
  digits.foldl (fun n c => 36 * n + digit36 c) 0

/-- The run of an item, of which the first code point may be `start`. -/
def unpackItem (start : Nat) (item : List Char) : CharRun :=
  let gap := item.takeWhile Char.isAlphanum
  let first := start + number36 gap
  match item.drop gap.length with
  | '-' :: more => run first (first + number36 more)
  | '/' :: more => alt first (first + 2 * number36 more)
  | _ => one first

def unpackItems : Nat → List String → List CharRun
  | _, [] => []
  | start, item :: rest =>
      let r := unpackItem start item.toList
      r :: unpackItems (r.last + 1) rest

def unpack (text : String) : List CharRun :=
  unpackItems 0 (text.splitOn " ")

end CharRun

end Text
end GrammarText
