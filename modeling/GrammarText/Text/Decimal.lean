/-
Decimal numbers with an exponent, as exact values.
-/
namespace GrammarText
namespace Text

/-- The number `digits * 10 ^ exponent`, or its opposite. -/
structure Decimal where
  negative : Bool
  digits : Nat
  exponent : Int
  deriving Repr, DecidableEq

namespace Decimal

def isZero (d : Decimal) : Bool :=
  d.digits == 0

/-- The value of a run of decimal digits. -/
def valueOf (digits : List Char) : Nat :=
  digits.foldl (fun n c => 10 * n + (c.toNat - '0'.toNat)) 0

/-- Reads an exponent without its letter: a sign, if any, and digits. -/
def exponent? (text : List Char) : Option Int :=
  let (negative, digits) :=
    match text with
    | '-' :: rest => (true, rest)
    | '+' :: rest => (false, rest)
    | rest => (false, rest)
  if digits.isEmpty || !digits.all Char.isDigit then none
  else some (if negative then -(valueOf digits : Int) else valueOf digits)

/-- Reads a number without a sign: digits with or without a point among them, and perhaps an
exponent. -/
def unsigned? (text : List Char) : Option Decimal :=
  let whole := text.takeWhile Char.isDigit
  let behind := text.drop whole.length
  let part :=
    match behind with
    | '.' :: rest => rest.takeWhile Char.isDigit
    | _ => []
  let tail :=
    match behind with
    | '.' :: rest => rest.drop part.length
    | rest => rest
  if whole.isEmpty && part.isEmpty then none
  else
    let exponent :=
      match tail with
      | [] => some 0
      | c :: rest => if c == 'e' || c == 'E' then exponent? rest else none
    exponent.map fun e => ⟨false, valueOf (whole ++ part), e - part.length⟩

/-- Reads a number with or without a sign. -/
def parse? : List Char → Option Decimal
  | '-' :: rest => (unsigned? rest).map fun d => { d with negative := true }
  | '+' :: rest => unsigned? rest
  | rest => unsigned? rest

/-- The number of decimal digits of a number, none for zero. -/
def width (n : Nat) : Nat :=
  if n == 0 then 0 else (Nat.toDigits 10 n).length

/-- The digits without zeros at the end, and the exponent that goes with them. -/
def reduced : Nat → Nat → Int → Nat × Int
  | 0, digits, exponent => (digits, exponent)
  | limit + 1, digits, exponent =>
      if digits != 0 && digits % 10 == 0 then reduced limit (digits / 10) (exponent + 1)
      else (digits, exponent)

/-- The number with all its places and a point, behind which at least one digit stands. -/
def text (d : Decimal) : String :=
  let (digits, exponent) := reduced (width d.digits) d.digits d.exponent
  let sign := if d.negative then "-" else ""
  if digits == 0 then sign ++ "0.0"
  else if exponent ≥ 0 then sign ++ toString (digits * Nat.pow 10 exponent.toNat) ++ ".0"
  else
    let places := (-exponent).toNat
    let padded := List.replicate (places + 1 - width digits) '0' ++ (toString digits).toList
    let whole := padded.take (padded.length - places)
    sign ++ String.ofList whole ++ "." ++ String.ofList (padded.drop whole.length)

end Decimal
end Text
end GrammarText
