/-
Configuration values.  A tree is changed one entry at a time: an entry of a table is replaced,
unless the new value is a table too, which is then merged into what is there.  Keys are in lower
case.
-/
import GrammarText.Config.Entries
import GrammarText.Text.Binary64
import GrammarText.Text.Lowercase

namespace GrammarText
namespace Config

/-- Where a value was written, as far as messages tell. -/
inductive Origin where
  | file (name : String)
  | environment
  deriving Repr, DecidableEq

def Origin.text : Origin → String
  | file name => name
  | environment => "the environment"

inductive Scalar where
  | nothing
  | boolean (value : Bool)
  | integer (value : Int)
  | float (value : Text.Binary64)
  | text (value : String)
  deriving Repr, DecidableEq

/-- Integers have 64 bits. -/
def Scalar.isInRange (n : Int) : Bool :=
  Int64.minValue.toInt ≤ n && n ≤ Int64.maxValue.toInt

inductive Value where
  | scalar (origin : Option Origin) (value : Scalar)
  | array (origin : Option Origin) (items : List Value)
  | table (origin : Option Origin) (entries : List (String × Value))
  deriving Repr

namespace Value

/-- What an array is filled up with. -/
def nothing : Value :=
  scalar none .nothing

def emptyTable : Value :=
  table none []

def origin : Value → Option Origin
  | scalar origin _ => origin
  | array origin _ => origin
  | table origin _ => origin

/-- The entries of a table.  Other values have none. -/
def entries : Value → List (String × Value)
  | table _ entries => entries
  | _ => []

/-- The items of an array.  Other values have none. -/
def items : Value → List Value
  | array _ items => items
  | _ => []

def get? (v : Value) (name : String) : Option Value :=
  v.entries.lookup name

/-- Sets an entry.  A value that is no table gives way to one. -/
def setEntry (v : Value) (name : String) (value : Value) : Value :=
  table
    (match v with
      | table origin _ => origin
      | _ => none)
    (replaceEntry name value v.entries)

/-- The place in an array of so many items that an index means.  Negative ones count from the
end. -/
def place (size : Nat) (index : Int) : Nat :=
  if index ≥ 0 then index.toNat else size - index.natAbs

/-- Sets an item.  A value that is no array gives way to one, and one that is too short is filled
up. -/
def setItem (v : Value) (index : Int) (value : Value) : Value :=
  let n := place v.items.length index
  let filled := v.items ++ List.replicate (n + 1 - v.items.length) nothing
  array
    (match v with
      | array origin _ => origin
      | _ => none)
    (filled.set n value)

mutual

/-- Sets an entry of a table, or merges a table into the entry. -/
def assign (name : String) : Value → Value → Value
  | table _ entries, root =>
      let key := Text.lowercase name
      root.setEntry key (assignAll entries ((root.get? key).getD emptyTable))
  | value, root => root.setEntry (Text.lowercase name) value

/-- Sets the entries in turn. -/
def assignAll : List (String × Value) → Value → Value
  | [], root => root
  | entry :: rest, root => assignAll rest (assignEntry entry root)

def assignEntry : String × Value → Value → Value
  | (name, value), root => assign name value root

end

end Value
end Config
end GrammarText
