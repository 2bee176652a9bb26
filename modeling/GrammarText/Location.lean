/-
Lines and columns of a source text.  Lines end at line feeds, so there is one more of them than of
line feeds, and columns count characters.  Both start at zero and are shown starting at one.  The
offsets at which the lines start are listed once, and the line of an offset is found among them by
halving.
-/
import GrammarText.Text.Offset

namespace GrammarText

structure Position where
  line : Nat
  column : Nat
  deriving Repr, DecidableEq

/-- Positions are in the order of their lines, and on one line in that of their columns. -/
instance : LT Position :=
  ⟨fun p q => p.line < q.line ∨ p.line = q.line ∧ p.column < q.column⟩

/-- The position as editors number it. -/
def Position.text (p : Position) : String :=
  toString (p.line + 1) ++ ":" ++ toString (p.column + 1)

namespace Location

/-- The offsets behind the line feeds of a text that starts at an offset. -/
def startsFrom : Nat → List Char → List Nat
  | _, [] => []
  | offset, c :: rest =>
      if c == '\n' then (offset + 1) :: startsFrom (offset + 1) rest
      else startsFrom (offset + c.utf8Size) rest

/-- The offsets at which the lines of a text start. -/
def lineStarts (text : List Char) : Array Nat :=
  (0 :: startsFrom 0 text).toArray

/--
Looks for a number between two places of an increasing array.  The result is the place of the
number, or else the place at which it would have to be inserted.
-/
def search (numbers : Array Nat) (wanted low high : Nat) (h : high ≤ numbers.size) :
    Except Nat Nat :=
  if hlt : low < high then
    let middle := low + (high - low) / 2
    have hmiddle : middle < high := by omega
    if numbers[middle] = wanted then .ok middle
    else if numbers[middle] < wanted then search numbers wanted (middle + 1) high h
    else search numbers wanted low middle (by omega)
  else .error low
termination_by high - low

/-- The line of an offset: the one that starts there, or else the last that starts before. -/
def lineOf (starts : Array Nat) (offset : Nat) : Nat :=
  match search starts offset 0 starts.size (Nat.le_refl _) with
  | .ok place => place
  | .error place => place - 1

/--
The position of a byte offset.  An offset inside a character is that of the character, and an
offset past the end is that of the end.  There is none if the line or its text up to the offset
cannot be had.
-/
def position? (source : String) (offset : Nat) : Option Position := do
  let text := source.toList
  let starts := lineStarts text
  let offset := Text.clamp text offset
  let line := lineOf starts offset
  let start ← starts[line]?
  let before ← Text.slice? text start offset
  return ⟨line, before.length⟩

/-- The position of a byte offset, for every offset has one. -/
def position (source : String) (offset : Nat) : Position :=
  (position? source offset).getD ⟨0, 0⟩

def lineCount (source : String) : Nat :=
  (lineStarts source.toList).size

/-- A line without the carriage returns at its end. -/
def withoutReturns (line : List Char) : List Char :=
  (line.reverse.dropWhile (· == '\r')).reverse

/-- Where a line of a text ends, before the line feed in front of the next or at the end. -/
def lineStop (starts : Array Nat) (text : List Char) (line : Nat) : Nat :=
  match starts[line + 1]? with
  | some next => next - 1
  | none => Text.byteLength text

def line? (source : String) (line : Nat) : Option String := do
  let text := source.toList
  let starts := lineStarts text
  let start ← starts[line]?
  let piece ← Text.slice? text start (lineStop starts text line)
  return String.ofList (withoutReturns piece)

/-- A number with spaces in front of it up to three places. -/
def padded (n : Nat) : String :=
  let digits := toString n
  "".pushn ' ' (3 - digits.length) ++ digits

/-- One numbered line, marked or not. -/
def numbered (marked : Bool) (number : Nat) (text : String) : String :=
  (if marked then ">>" else "  ") ++ " " ++ padded (number + 1) ++ " | " ++ text ++ "\n"

/--
The lines around a line, which is marked.  The last line of the window is found by addition of
machine words.
-/
def context (source : String) (line : Nat) (around : UInt64) : String :=
  let first := line - around.toNat
  let last := min (UInt64.ofNat line + around + 1).toNat (lineCount source)
  String.join ((List.range' first (last - first)).map fun number =>
    match line? source number with
    | some text => numbered (number == line) number text
    | none => "")

end Location
end GrammarText
