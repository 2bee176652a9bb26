/-
Sets of characters, as they are built from tables.
-/
import GrammarText.Text.CaseFolding

namespace GrammarText
namespace Text

inductive CharSet where
  | runs (table : List CharRun)
  | union (a b : CharSet)
  | inter (a b : CharSet)
  | compl (a : CharSet)
  /-- A set with what differs from its members in case alone, among all characters or in ASCII. -/
  | folded (unicode : Bool) (a : CharSet)
  deriving Repr, DecidableEq

namespace CharSet

/-- A character and the other case of it in ASCII. -/
def asciiVariants (c : Char) : List Char :=
  [c, c.toLower, c.toUpper]

def has : CharSet → Char → Bool
  | runs table, c => CharRun.anyHas table c.toNat
  | union a b, c => a.has c || b.has c
  | inter a b, c => a.has c && b.has c
  | compl a, c => !a.has c
  | folded unicode a, c => (if unicode then caseVariants c else asciiVariants c).any a.has

def empty : CharSet :=
  runs []

def one (c : Char) : CharSet :=
  runs [.one c.toNat]

/-- The characters from one up to another. -/
def range (first last : Char) : CharSet :=
  runs [.run first.toNat last.toNat]

/-- The set that a packed table tells. -/
def packed (text : String) : CharSet :=
  runs (CharRun.unpack text)

def unions (sets : List CharSet) : CharSet :=
  sets.foldr union empty

def without (a b : CharSet) : CharSet :=
  inter a (compl b)

def complIf (negated : Bool) (a : CharSet) : CharSet :=
  if negated then compl a else a

/-- The characters that are in one of two sets and not in both. -/
def symmDiff (a b : CharSet) : CharSet :=
  union (a.without b) (b.without a)

/-- The set of a name in a table of sets.  The names of a set stand with blanks between them. -/
def named? (table : List (String × CharSet)) (name : String) : Option CharSet :=
  (table.find? fun (names, _) => (names.splitOn " ").contains name).map Prod.snd

end CharSet
end Text
end GrammarText
