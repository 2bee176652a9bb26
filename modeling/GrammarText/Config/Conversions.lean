/-
How single values convert in the program.  Texts, numbers and truth values stand for each other
where they can, so a setting may come from a file, from the environment or from a command line,
where every value is a text.
-/
import GrammarText.Config.Settings
import GrammarText.Text.Decimal

namespace GrammarText
namespace Config

/- Values of settings. -/

namespace Value

/-- The truth value that a text spells, in any case. -/
def truth? (text : String) : Option Bool :=
  let lower := Text.lowercase text
  if ["1", "true", "on", "yes"].contains lower then some true
  else if ["0", "false", "off", "no"].contains lower then some false
  else none

/-- Reads a truth value.  A number is true unless it is zero. -/
def toBoolean (key : String) (v : Value) : Except SettingsError Bool :=
  match v with
  | scalar _ (.boolean b) => .ok b
  | scalar _ (.integer n) => .ok (n != 0)
  | scalar _ (.float x) => .ok !x.isZero
  | scalar origin (.text s) =>
      match truth? s with
      | some b => .ok b
      | none => .error (unfit (scalar origin (.text (Text.lowercase s))) "a boolean" key)
  | _ => .error (v.unfit "a boolean" key)

/-- The number that a text spells in decimal, if it has 64 bits, or one or zero for the words of
truth. -/
def word? (text : String) : Option UInt64 :=
  let lower := Text.lowercase text
  if ["true", "on", "yes"].contains lower then some 1
  else if ["false", "off", "no"].contains lower then some 0
  else
    let digits :=
      match text.toList with
      | '+' :: rest => rest
      | chars => chars
    let value := Text.Decimal.valueOf digits
    if digits.isEmpty || !digits.all Char.isDigit || value ≥ UInt64.size then none
    else some (UInt64.ofNat value)

/-- Reads a number.  A fraction is rounded, and what is out of range goes to the nearest end of
it. -/
def toWord (key : String) (v : Value) : Except SettingsError UInt64 :=
  match v with
  | scalar _ (.boolean b) => .ok (if b then 1 else 0)
  | scalar origin (.integer n) =>
      if n ≥ 0 then .ok (UInt64.ofNat n.toNat)
      else
        .error (.unfit ("64-bit integer `" ++ toString n ++ "`")
          "an unsigned 64 bit or less integer" key origin)
  | scalar _ (.float x) => .ok (UInt64.ofNat (x.roundUpTo (UInt64.size - 1)))
  | scalar _ (.text s) =>
      match word? s with
      | some n => .ok n
      | none => .error (v.unfit "an integer" key)
  | _ => .error (v.unfit "an integer" key)

/-- The format of a name in any case. -/
def formatNamed (name : String) : Except SettingsError OutputFormat :=
  match OutputFormat.ofName? (Text.lowercase name) with
  | some format => .ok format
  | none => .error (.unknownFormat name)

/-- Reads the name of a format, which may also be the one key of a table. -/
def toFormat : Value → Except SettingsError OutputFormat
  | scalar _ (.text name) => formatNamed name
  | table _ [(name, _)] => formatNamed name
  | _ => .error .noFormat

end Value

/- Variables of the environment. -/

namespace Environment

/-- The whole number of 64 bits that a text spells in decimal. -/
def integer? (text : List Char) : Option Int :=
  let (negative, digits) : Bool × List Char :=
    match text with
    | '-' :: rest => (true, rest)
    | '+' :: rest => (false, rest)
    | rest => (false, rest)
  let value : Int := Text.Decimal.valueOf digits
  let value := if negative then -value else value
  if digits.isEmpty || !digits.all Char.isDigit then none
  else if Scalar.isInRange value then some value
  else none

/-- The truth value, the number or else the text that a variable holds. -/
def scalar (text : String) : Scalar :=
  match Text.lowercase text with
  | "true" => .boolean true
  | "false" => .boolean false
  | _ =>
      match integer? text.toList with
      | some n => .integer n
      | none =>
          match Text.Binary64.parse? text.toList with
          | some x => .float x
          | none => .text text

end Environment

/-- The conversions of the program. -/
def Conversions.standard : Conversions where
  scalar := Environment.scalar
  boolean := Value.toBoolean
  word := Value.toWord
  format := Value.toFormat
  boolean_truth _ _ _ := rfl

end Config
end GrammarText
