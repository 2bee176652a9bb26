/-
What a pattern matches, as a tree.
-/
import GrammarText.Text.CharSet

namespace GrammarText
namespace Regex

open Text (CharSet)

/-- What a place has to be between a character before it and one behind it, either of which may
belong to a word. -/
inductive Boundary where
  | edge
  | noEdge
  | start
  | stop
  /-- Behind what belongs to no word. -/
  | startHalf
  /-- Before what belongs to no word. -/
  | stopHalf
  deriving Repr, DecidableEq

/-- What is asked of a place.  Lines end at line feeds, and with `crlf` at carriage returns too. -/
inductive Look where
  | textStart
  | textEnd
  | lineStart (crlf : Bool)
  | lineEnd (crlf : Bool)
  | word (boundary : Boundary) (unicode : Bool)
  deriving Repr, DecidableEq

inductive Tree where
  | empty
  | one (set : CharSet)
  | look (look : Look)
  | seq (a b : Tree)
  | alt (a b : Tree)
  /-- A part so many times, and without a greatest number any more times. -/
  | repeated (a : Tree) (least : Nat) (greatest : Option Nat)
  deriving Repr, DecidableEq

end Regex
end GrammarText
