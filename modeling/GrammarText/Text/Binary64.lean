/-
Binary numbers of 64 bits, as exact values.  A decimal number denotes the nearest of them, of two
that are equally near the one with the even significand, and a binary number is written with the
fewest decimal digits that denote it.
-/
import GrammarText.Text.Decimal

namespace GrammarText
namespace Text

inductive Binary64 where
  /-- The number `significand * 2 ^ exponent`, or its opposite. -/
  | finite (negative : Bool) (significand : Nat) (exponent : Int)
  | infinite (negative : Bool)
  | nan
  deriving Repr, DecidableEq

namespace Binary64

/-- The least exponent, which is that of the numbers near zero. -/
def leastExponent : Int := -1074

/-- The least significand of 53 bits, which only numbers near zero fall short of. -/
def leastNormal : Nat := 4503599627370496

/-- A quotient to the nearest whole number, of two the even one. -/
def roundEven (num den : Nat) : Nat :=
  let whole := num / den
  let twice := 2 * (num % den)
  if twice < den || (twice == den && whole % 2 == 0) then whole else whole + 1

/-- A quotient times a power of two, as a numerator and a denominator. -/
def scale (num den : Nat) (power : Int) : Nat × Nat :=
  if power ≥ 0 then (num * Nat.pow 2 power.toNat, den)
  else (num, den * Nat.pow 2 (-power).toNat)

/-- The binary number nearest to a positive quotient, which is infinite from the middle between the
greatest one and the next power of two. -/
def ofRatio (negative : Bool) (num den : Nat) : Binary64 :=
  let estimate : Int := (Nat.log2 num : Int) - Nat.log2 den
  let (a, b) := scale num den (-estimate)
  let exponent := max (if a < b then estimate - 53 else estimate - 52) leastExponent
  let (a, b) := scale num den (-exponent)
  let significand := roundEven a b
  let (significand, exponent) :=
    if significand == 2 * leastNormal then (leastNormal, exponent + 1) else (significand, exponent)
  if exponent > 971 then infinite negative else finite negative significand exponent

/-- The binary number that a decimal number denotes. -/
def ofDecimal (d : Decimal) : Binary64 :=
  let magnitude := (Decimal.width d.digits : Int) + d.exponent
  if d.isZero || magnitude < -400 then finite d.negative 0 leastExponent
  else if magnitude > 400 then infinite d.negative
  else if d.exponent ≥ 0 then ofRatio d.negative (d.digits * Nat.pow 10 d.exponent.toNat) 1
  else ofRatio d.negative d.digits (Nat.pow 10 (-d.exponent).toNat)

def isFinite : Binary64 → Bool
  | finite _ _ _ => true
  | _ => false

/-- Both zeros are. -/
def isZero : Binary64 → Bool
  | finite _ significand _ => significand == 0
  | _ => false

/-- A binary number and its neighbours' middles, all four times as great. -/
structure Interval where
  low : Nat
  value : Nat
  high : Nat
  /-- Whether the ends denote the number too. -/
  closed : Bool

/-- The decimal numbers that denote a number, in quarters of its unit. -/
def interval (significand : Nat) (exponent : Int) : Interval where
  low :=
    4 * significand - (if significand == leastNormal && exponent > leastExponent then 1 else 2)
  value := 4 * significand
  high := 4 * significand + 2
  closed := significand % 2 == 0

def Interval.has (i : Interval) (num den : Nat) : Bool :=
  if i.closed then i.low * den ≤ num && num ≤ i.high * den
  else i.low * den < num && num < i.high * den

/-- The multiple of a power of ten that denotes the number, of two the nearer one.  Where both are
equally near it is the even one. -/
def onGrid? (i : Interval) (exponent : Int) (power : Int) : Option Nat :=
  let ten := Nat.pow 10 power.natAbs
  let (stepNum, stepDen) : Nat × Nat := if power ≥ 0 then (ten, 1) else (1, ten)
  let (num, den) := scale stepNum stepDen (2 - exponent)
  let below := i.value * den / num
  let fits (n : Nat) : Bool := i.has (n * num) den
  let under := i.value * den - below * num
  let nearer := if 2 * under < num || (2 * under == num && below % 2 == 0) then below else below + 1
  if fits nearer then some nearer
  else if fits below then some below
  else if fits (below + 1) then some (below + 1)
  else none

/-- The coarsest of so many powers of ten, each a tenth of the one before, that has a multiple which
denotes the number. -/
def coarsest (i : Interval) (exponent : Int) : Nat → Int → Decimal
  | 0, power => ⟨false, (onGrid? i exponent power).getD 0, power⟩
  | limit + 1, power =>
      match onGrid? i exponent power with
      | some digits => ⟨false, digits, power⟩
      | none => coarsest i exponent limit (power - 1)

/-- The decimal number of the fewest digits that denotes a number. -/
def shortest (significand : Nat) (exponent : Int) : Decimal :=
  if significand == 0 then ⟨false, 0, 0⟩
  else
    let bits := (Nat.log2 significand : Int) + 1 + exponent
    coarsest (interval significand exponent) exponent 20 (bits * 30103 / 100000 + 1)

/-- The number in decimal with all its places. -/
def text : Binary64 → String
  | finite negative significand exponent =>
      ({ shortest significand exponent with negative := negative } : Decimal).text
  | infinite negative => if negative then "-inf" else "inf"
  | nan => "NaN"

/-- The nearest whole number to a number that is not negative, the greater of two, up to a greatest
one.  Negative numbers and those that are none give zero. -/
def roundUpTo (greatest : Nat) : Binary64 → Nat
  | finite negative significand exponent =>
      let (num, den) := scale significand 1 exponent
      if negative then 0 else min ((2 * num + den) / (2 * den)) greatest
  | infinite negative => if negative then 0 else greatest
  | nan => 0

/-- The names of numbers that have no digits, in lower case. -/
def named? (negative : Bool) (name : List Char) : Option Binary64 :=
  match String.ofList (name.map Char.toLower) with
  | "inf" | "infinity" => some (infinite negative)
  | "nan" => some nan
  | _ => none

/-- Reads a decimal number or the name of one that has no digits, with or without a sign. -/
def parse? (text : List Char) : Option Binary64 :=
  let named :=
    match text with
    | '-' :: name => named? true name
    | '+' :: name => named? false name
    | name => named? false name
  named <|> (Decimal.parse? text).map ofDecimal

end Binary64
end Text
end GrammarText
