/-
Reading TOML text.  A text is a list of statements, each of which opens a table, opens a further
table of a list, or gives a key its value.  The statements are read first and then carried out on a
tree.  A text that is no TOML has no value here.  That a time is one of the calendar and of the
clock is not checked, nor are control characters.
-/
import GrammarText.Config.Value

namespace GrammarText
namespace Config
namespace Toml

/-- A key, of as many names as there are points in it and one more. -/
abbrev Key : Type := List String

inductive Statement where
  | openTable (key : Key)
  | openListTable (key : Key)
  | assign (key : Key) (value : Value)
  deriving Repr

/- Space. -/

def isBlank (c : Char) : Bool :=
  c == ' ' || c == '\t'

def isSpace (c : Char) : Bool :=
  isBlank c || c == '\n' || c == '\r'

def skipBlank (text : List Char) : List Char :=
  text.dropWhile isBlank

/-- Skips space, line ends and comments.  Inside a comment everything up to the line end goes. -/
def skipSpace : Bool → List Char → List Char
  | _, [] => []
  | true, c :: rest => skipSpace (c != '\n') rest
  | false, c :: rest =>
      if c == '#' then skipSpace true rest
      else if isSpace c then skipSpace false rest
      else c :: rest

/-- Skips what may stand behind a statement on its line. -/
def endLine? (text : List Char) : Option (List Char) :=
  match skipBlank text with
  | [] => some []
  | '\n' :: rest => some rest
  | '\r' :: '\n' :: rest => some rest
  | '#' :: rest => some (rest.dropWhile (· != '\n')).tail
  | _ => none

/- Strings. -/

def hexValue? (c : Char) : Option Nat :=
  if c.isDigit then some (c.toNat - '0'.toNat)
  else if 'a' ≤ c && c ≤ 'f' then some (c.toNat - 'a'.toNat + 10)
  else if 'A' ≤ c && c ≤ 'F' then some (c.toNat - 'A'.toNat + 10)
  else none

/-- The number that digits of a base spell. -/
def numberIn? (base : Nat) (digits : List Char) : Option Nat :=
  if digits.isEmpty then none
  else
    digits.foldlM (fun n c => do
      let d ← hexValue? c
      if d < base then some (n * base + d) else none) 0

def codePoint? (digits : List Char) : Option Char := do
  let n ← numberIn? 16 digits
  if n.isValidChar then some (Char.ofNat n) else none

def simpleEscape? : Char → Option Char
  | 'b' => some '\x08'
  | 't' => some '\t'
  | 'n' => some '\n'
  | 'f' => some '\x0c'
  | 'r' => some '\r'
  | '"' => some '"'
  | '\\' => some '\\'
  | _ => none

/-- A character before what a reader makes of the rest. -/
def push (first : Option Char) (later : Option (List Char × List Char)) :
    Option (List Char × List Char) := do
  let c ← first
  let (others, rest) ← later
  return (c :: others, rest)

/-- The string up to the double quote that ends it. -/
def basic : List Char → Option (List Char × List Char)
  | '"' :: rest => some ([], rest)
  | '\\' :: 'u' :: a :: b :: c :: d :: rest => push (codePoint? [a, b, c, d]) (basic rest)
  | '\\' :: 'U' :: a :: b :: c :: d :: e :: f :: g :: h :: rest =>
      push (codePoint? [a, b, c, d, e, f, g, h]) (basic rest)
  | '\\' :: c :: rest => push (simpleEscape? c) (basic rest)
  | c :: rest => if c == '\n' then none else push (some c) (basic rest)
  | [] => none

/-- The string up to the three double quotes that end it, of which up to two more may belong to the
string.  A backslash before a line end joins what follows the space behind it, and every other line
end is a line feed. -/
def longBasic : Bool → List Char → Option (List Char × List Char)
  | _, '"' :: '"' :: '"' :: '"' :: '"' :: rest => some (['"', '"'], rest)
  | _, '"' :: '"' :: '"' :: '"' :: rest => some (['"'], rest)
  | _, '"' :: '"' :: '"' :: rest => some ([], rest)
  | _, '\\' :: 'u' :: a :: b :: c :: d :: rest =>
      push (codePoint? [a, b, c, d]) (longBasic false rest)
  | _, '\\' :: 'U' :: a :: b :: c :: d :: e :: f :: g :: h :: rest =>
      push (codePoint? [a, b, c, d, e, f, g, h]) (longBasic false rest)
  | _, '\\' :: c :: rest =>
      if isSpace c then longBasic true rest
      else push (simpleEscape? c) (longBasic false rest)
  | joining, '\r' :: '\n' :: rest =>
      if joining then longBasic true rest else push (some '\n') (longBasic false rest)
  | joining, c :: rest =>
      if joining && isSpace c then longBasic true rest
      else push (some c) (longBasic false rest)
  | _, [] => none

/-- The string up to the single quote that ends it. -/
def literal : List Char → Option (List Char × List Char)
  | '\'' :: rest => some ([], rest)
  | c :: rest => if c == '\n' then none else push (some c) (literal rest)
  | [] => none

/-- The string up to the three single quotes that end it.  Every line end is a line feed. -/
def longLiteral : List Char → Option (List Char × List Char)
  | '\'' :: '\'' :: '\'' :: '\'' :: '\'' :: rest => some (['\'', '\''], rest)
  | '\'' :: '\'' :: '\'' :: '\'' :: rest => some (['\''], rest)
  | '\'' :: '\'' :: '\'' :: rest => some ([], rest)
  | '\r' :: '\n' :: rest => push (some '\n') (longLiteral rest)
  | c :: rest => push (some c) (longLiteral rest)
  | [] => none

/-- A line end behind the quotes that open a long string is no part of it. -/
def skipFirstLineEnd : List Char → List Char
  | '\n' :: rest => rest
  | '\r' :: '\n' :: rest => rest
  | rest => rest

/-- A string with its quotes, long or not. -/
def string? (text : List Char) : Option (String × List Char) :=
  let result : Option (List Char × List Char) :=
    match text with
    | '"' :: '"' :: '"' :: rest => longBasic false (skipFirstLineEnd rest)
    | '\'' :: '\'' :: '\'' :: rest => longLiteral (skipFirstLineEnd rest)
    | '"' :: rest => basic rest
    | '\'' :: rest => literal rest
    | _ => none
  result.map fun (chars, rest) => (String.ofList chars, rest)

/- Keys. -/

def isBare (c : Char) : Bool :=
  c.isAlphanum || c == '_' || c == '-'

def name? (text : List Char) : Option (String × List Char) :=
  match text with
  | '"' :: rest => (basic rest).map fun (chars, rest) => (String.ofList chars, rest)
  | '\'' :: rest => (literal rest).map fun (chars, rest) => (String.ofList chars, rest)
  | _ =>
      match text.takeWhile isBare with
      | [] => none
      | name => some (String.ofList name, text.drop name.length)

/-- A key of at most so many names, with the blanks around it and its points. -/
def key? : Nat → List Char → Option (Key × List Char)
  | 0, _ => none
  | limit + 1, text => do
      let (first, rest) ← name? (skipBlank text)
      match skipBlank rest with
      | '.' :: rest => do
          let (others, rest) ← key? limit rest
          return (first :: others, rest)
      | rest => return ([first], rest)

/- Numbers and times. -/

/-- Digits without the underscores, each of which stands between two of them.  Behind an underscore,
as at the start, a digit has to come. -/
def ungrouped? : Bool → List Char → Option (List Char)
  | true, [] => none
  | false, [] => some []
  | false, '_' :: rest => ungrouped? true rest
  | _, c :: rest =>
      if (hexValue? c).isSome then (ungrouped? false rest).map (c :: ·) else none

def based? (base : Nat) (text : List Char) : Option Nat :=
  (ungrouped? true text).bind (numberIn? base)

/-- A decimal number, which starts with a zero only if it is zero. -/
def decimal? (text : List Char) : Option Nat :=
  match text with
  | '0' :: _ :: _ => none
  | _ => based? 10 text

def integer? (text : List Char) : Option Int :=
  let whole :=
    match text with
    | '0' :: 'x' :: rest => (based? 16 rest).map Int.ofNat
    | '0' :: 'o' :: rest => (based? 8 rest).map Int.ofNat
    | '0' :: 'b' :: rest => (based? 2 rest).map Int.ofNat
    | '-' :: rest => (decimal? rest).map fun n => -(n : Int)
    | '+' :: rest => (decimal? rest).map Int.ofNat
    | rest => (decimal? rest).map Int.ofNat
  whole.filter Scalar.isInRange

def withoutSign : List Char → List Char
  | '+' :: rest => rest
  | '-' :: rest => rest
  | rest => rest

/-- Whether a text is nothing or an exponent. -/
def isExponent : List Char → Bool
  | [] => true
  | c :: rest => (c == 'e' || c == 'E') && (based? 10 (withoutSign rest)).isSome

/-- Whether a text is a decimal number with a fraction, an exponent or both.  There are digits on
both sides of the point. -/
def isFloat (text : List Char) : Bool :=
  let isDigit (c : Char) : Bool := c.isDigit || c == '_'
  let whole := (withoutSign text).takeWhile isDigit
  (decimal? whole).isSome &&
    match (withoutSign text).drop whole.length with
    | [] => false
    | '.' :: rest =>
        let fraction := rest.takeWhile isDigit
        (based? 10 fraction).isSome && isExponent (rest.drop fraction.length)
    | rest => isExponent rest

/-- The nearest number of 64 bits. -/
def float? (text : List Char) : Option Text.Binary64 :=
  if isFloat text then (Text.Decimal.parse? (text.filter (· != '_'))).map Text.Binary64.ofDecimal
  else none

/-- An offset from universal time.  The one of no time at all has a plus sign. -/
def offsetText (text : List Char) : List Char :=
  if text = "-00:00".toList then "+00:00".toList else text.map Char.toUpper

/-- A time of day without the zeros at the end of its fraction, of which nine digits count. -/
def timeText (text : List Char) : List Char :=
  let clock := text.takeWhile fun c => c.isDigit || c == ':'
  let fraction :=
    match text.drop clock.length with
    | '.' :: rest => rest.takeWhile Char.isDigit
    | _ => []
  let behind :=
    match text.drop clock.length with
    | '.' :: rest => rest.drop fraction.length
    | rest => rest
  let kept := ((fraction.take 9).reverse.dropWhile (· == '0')).reverse
  clock ++ (if kept.isEmpty then [] else '.' :: kept) ++ offsetText behind

/-- A date, a time, or both with a `T` between them. -/
def timestamp (text : List Char) : String :=
  let date := text.take 10
  match text.take 5, text.drop 10 with
  | [_, _, _, _, '-'], _ :: time => String.ofList (date ++ 'T' :: timeText time)
  | [_, _, _, _, '-'], [] => String.ofList date
  | _, _ => String.ofList (timeText text)

def isTimestamp (text : List Char) : Bool :=
  match text with
  | _ :: _ :: ':' :: _ => true
  | a :: b :: c :: d :: '-' :: _ => [a, b, c, d].all Char.isDigit
  | _ => false

/-- The characters of a number, a time or a word. -/
def isPlainValue (c : Char) : Bool :=
  c.isAlphanum || ['_', '-', '+', '.', ':'].contains c

/-- The characters of a value without quotes.  A blank may stand between a date and a time. -/
def plainValue (text : List Char) : List Char :=
  let first := text.takeWhile isPlainValue
  match text.drop first.length with
  | ' ' :: c :: rest =>
      if isTimestamp first && first.length == 10 && c.isDigit then
        first ++ ' ' :: (c :: rest).takeWhile isPlainValue
      else first
  | _ => first

def plainScalar? (text : List Char) : Option Scalar :=
  match String.ofList text with
  | "true" => some (.boolean true)
  | "false" => some (.boolean false)
  | word =>
      if ["inf", "+inf", "-inf", "nan", "+nan", "-nan"].contains word then
        (Text.Binary64.parse? text).map .float
      else if isTimestamp text then some (.text (timestamp text))
      else
        match integer? text with
        | some n => some (.integer n)
        | none => (float? text).map .float

/- What a document defines. -/

/-- How a key came to stand for something. -/
inductive Definition where
  /-- A table with a header of its own. -/
  | headed
  /-- A table on the way to one with a header. -/
  | passed
  /-- A table on the way to a value. -/
  | joined
  | list
  | value
  deriving DecidableEq

/-- What is defined.  The latest definition of a key comes first. -/
abbrev Definitions : Type := List (Key × Definition)

/-- The keys of the tables on the way from one table to what a key stands for in it. -/
def way (start key : Key) : List Key :=
  (List.range key.length).tail.map fun n => start ++ key.take n

/-- Goes through tables, and defines those that are not there. -/
def goThrough (kind : Definition) (isOpen : Definition → Bool) (tables : List Key)
    (known : Definitions) : Option Definitions :=
  tables.foldlM (fun known table =>
    match known.lookup table with
    | none => some ((table, kind) :: known)
    | some d => if isOpen d then some known else none) known

/-- What is defined by one more statement, and the table that is open behind it.  A table has one
header, and what has a header is not written to by a key from outside. -/
def define : Key × Definitions → Statement → Option (Key × Definitions)
  | (_, known), .openTable key => do
      let known ← goThrough .passed (· != .value) (way [] key) known
      match known.lookup key with
      | none => return (key, (key, .headed) :: known)
      | some .passed => return (key, (key, .headed) :: known)
      | some _ => none
  | (_, known), .openListTable key => do
      let known ← goThrough .passed (· != .value) (way [] key) known
      let others := known.filter fun (other, _) => !key.isPrefixOf other
      match known.lookup key with
      | none => return (key, (key, .list) :: others)
      | some .list => return (key, (key, .list) :: others)
      | some _ => none
  | (current, known), .assign key _ => do
      let tables := way current key
      let known ← goThrough .joined (fun d => d != .value && d != .headed) tables known
      if tables.getLast?.any (known.lookup · != some .joined) then none
      else
        match known.lookup (current ++ key) with
        | none => return (current, (current ++ key, .value) :: known)
        | some _ => none

/-- Whether a document defines nothing twice. -/
def isConsistent (statements : List Statement) : Bool :=
  (statements.foldlM define ([], [])).isSome

/- Trees. -/

/-- Replaces an entry, or adds one, by what there is of it. -/
def changeEntry (name : String) (change : Option Value → Option Value) :
    List (String × Value) → Option (List (String × Value))
  | [] => do return [(name, ← change none)]
  | (other, old) :: rest =>
      if other = name then do return (name, ← change (some old)) :: rest
      else do return (other, old) :: (← changeEntry name change rest)

/-- Changes what a key leads to.  A list on the way is entered at its last item. -/
def changeAlong (origin : Option Origin) (change : Option Value → Option Value) :
    Key → Option Value → Option Value
  | [], old => change old
  | name :: rest, none => do
      return .table origin [(name, ← changeAlong origin change rest none)]
  | name :: rest, some (.table o entries) => do
      return .table o (← changeEntry name (changeAlong origin change rest) entries)
  | name :: rest, some (.array o items) => do
      match items.getLast? with
      | some (.table p entries) =>
          return .array o
            (items.dropLast
              ++ [.table p (← changeEntry name (changeAlong origin change rest) entries)])
      | _ => none
  | _ :: _, some (.scalar _ _) => none

/-- A key may be given a value once. -/
def once (value : Value) : Option Value → Option Value
  | none => some value
  | some _ => none

/-- A table that is there already is opened again. -/
def opened (origin : Option Origin) : Option Value → Option Value
  | none => some (.table origin [])
  | some (.scalar _ _) => none
  | some v => some v

/-- Adds an empty table to a list of tables. -/
def extended (origin : Option Origin) : Option Value → Option Value
  | none => some (.array origin [.table origin []])
  | some (.array o items) => some (.array o (items ++ [.table origin []]))
  | some _ => none

/-- Carries statements out from the table that was opened last. -/
def carryOut (origin : Option Origin) : Key → List Statement → Value → Option Value
  | _, [], root => some root
  | current, .assign key value :: rest, root => do
      carryOut origin current rest
        (← changeAlong origin (once value) (current ++ key) (some root))
  | _, .openTable key :: rest, root => do
      carryOut origin key rest (← changeAlong origin (opened origin) key (some root))
  | _, .openListTable key :: rest, root => do
      carryOut origin key rest (← changeAlong origin (extended origin) key (some root))

/-- The tree of a document. -/
def tree? (origin : Option Origin) (statements : List Statement) : Option Value :=
  if isConsistent statements then carryOut origin [] statements (.table origin []) else none

/- Values. -/

mutual

/-- A value, with lists and tables nested at most so deep as the first number tells. -/
def value? (origin : Option Origin) : Nat → List Char → Option (Value × List Char)
  | 0, _ => none
  | limit + 1, text =>
      match text with
      | '[' :: rest => do
          let (items, rest) ← items? origin limit (skipSpace false rest)
          return (.array origin items, rest)
      | '{' :: rest => do
          let (statements, rest) ← members? origin limit (skipBlank rest)
          return (← tree? origin statements, rest)
      | c :: _ =>
          if c == '"' || c == '\'' then do
            let (s, rest) ← string? text
            return (.scalar origin (.text s), rest)
          else do
            let word := plainValue text
            return (.scalar origin (← plainScalar? word), text.drop word.length)
      | [] => none

/-- The items of a list up to its bracket. -/
def items? (origin : Option Origin) : Nat → List Char → Option (List Value × List Char)
  | 0, _ => none
  | _ + 1, ']' :: rest => some ([], rest)
  | limit + 1, text => do
      let (first, rest) ← value? origin limit text
      match skipSpace false rest with
      | ',' :: rest => do
          let (others, rest) ← items? origin limit (skipSpace false rest)
          return (first :: others, rest)
      | ']' :: rest => return ([first], rest)
      | _ => none

/-- The members of a table on one line up to its brace. -/
def members? (origin : Option Origin) : Nat → List Char → Option (List Statement × List Char)
  | 0, _ => none
  | _ + 1, '}' :: rest => some ([], rest)
  | limit + 1, text => do
      let (key, rest) ← key? text.length text
      match rest with
      | '=' :: rest => do
          let (value, rest) ← value? origin limit (skipBlank rest)
          match skipBlank rest with
          | ',' :: rest => do
              let rest := skipBlank rest
              if rest.head? == some '}' then none
              let (others, rest) ← members? origin limit rest
              return (.assign key value :: others, rest)
          | '}' :: rest => return ([.assign key value], rest)
          | _ => none
      | _ => none

end

/- Documents. -/

def statement? (origin : Option Origin) (text : List Char) : Option (Statement × List Char) :=
  match text with
  | '[' :: '[' :: rest => do
      let (key, rest) ← key? rest.length rest
      match rest with
      | ']' :: ']' :: rest => return (.openListTable key, rest)
      | _ => none
  | '[' :: rest => do
      let (key, rest) ← key? rest.length rest
      match rest with
      | ']' :: rest => return (.openTable key, rest)
      | _ => none
  | _ => do
      let (key, rest) ← key? text.length text
      match rest with
      | '=' :: rest => do
          let (value, rest) ← value? origin text.length (skipBlank rest)
          return (.assign key value, rest)
      | _ => none

/-- The statements of a text, of which there are at most so many. -/
def statements? (origin : Option Origin) : Nat → List Char → Option (List Statement)
  | limit, text =>
      match skipSpace false text, limit with
      | [], _ => some []
      | _, 0 => none
      | text, limit + 1 => do
          let (first, rest) ← statement? origin text
          return first :: (← statements? origin limit (← endLine? rest))

/-- The text behind a byte order mark, if it starts with one. -/
def withoutMark : List Char → List Char
  | '\ufeff' :: rest => rest
  | text => text

/-- The entries of a text. -/
def entries? (origin : Option Origin) (text : List Char) : Option (List (String × Value)) := do
  let statements ← statements? origin text.length (withoutMark text)
  return (← tree? origin statements).entries

end Toml
end Config
end GrammarText
