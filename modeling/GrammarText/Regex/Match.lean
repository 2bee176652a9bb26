/-
Matching: whether what a tree matches occurs in a text.  A tree leads from places in the text to
places further on, and only the places count that can be reached.
-/
import GrammarText.Regex.Modes

namespace GrammarText
namespace Regex

open Text (CharSet)

namespace Boundary

/-- Whether a place is what it has to be, given what is before it and behind it. -/
def holds (wordBefore wordBehind : Bool) : Boundary → Bool
  | edge => wordBefore != wordBehind
  | noEdge => wordBefore == wordBehind
  | start => !wordBefore && wordBehind
  | stop => wordBefore && !wordBehind
  | startHalf => !wordBefore
  | stopHalf => !wordBehind

end Boundary

namespace Look

/-- Whether a line starts between two characters.  No line starts between a carriage return and a
line feed. -/
def startsLine (crlf : Bool) (before behind : Option Char) : Bool :=
  before == none || before == some '\n'
    || (crlf && before == some '\r' && behind != some '\n')

def endsLine (crlf : Bool) (before behind : Option Char) : Bool :=
  behind == none || (crlf && behind == some '\r')
    || (behind == some '\n' && !(crlf && before == some '\r'))

/-- Whether the place between two characters, which lack at the ends, is what is asked for. -/
def holds (before behind : Option Char) : Look → Bool
  | textStart => before == none
  | textEnd => behind == none
  | lineStart crlf => startsLine crlf before behind
  | lineEnd crlf => endsLine crlf before behind
  | word b unicode =>
      b.holds (before.any (wordChars unicode).has) (behind.any (wordChars unicode).has)

end Look

/-- The character before a place. -/
def before? (text : Array Char) : Nat → Option Char
  | 0 => none
  | place + 1 => text[place]?

/-- Goes on from places for so many times. -/
def times (step : List Nat → List Nat) : Nat → List Nat → List Nat
  | 0, places => places
  | n + 1, places => times step n (step places)

/-- Goes on from places that are new for at most so many times, and keeps all that are reached. -/
def upTo (step : List Nat → List Nat) : Nat → (new reached : List Nat) → List Nat
  | 0, _, reached => reached
  | n + 1, new, reached =>
      match (step new).filter fun place => !reached.contains place with
      | [] => reached
      | more => upTo step n more (more ++ reached)

namespace Tree

/--
The places behind what a tree matches from some place.  A repetition that moves on does so at most
as often as the text has characters, and where it stays it may as well stay more often, so no
number above that makes a difference.
-/
def ends (text : Array Char) : Tree → List Nat → List Nat
  | empty, places => places
  | one set, places =>
      places.filterMap fun place => if text[place]?.any set.has then some (place + 1) else none
  | look l, places => places.filter fun place => l.holds (before? text place) text[place]?
  | seq a b, places => b.ends text (a.ends text places)
  | alt a b, places =>
      let first := a.ends text places
      first ++ (b.ends text places).filter fun place => !first.contains place
  | repeated a least greatest, places =>
      let limit := text.size + 1
      let start := times (a.ends text) (min least limit) places
      let more := (greatest.map fun n => n - least).getD limit
      upTo (a.ends text) (min more limit) start start

/-- Whether some part of a text matches. -/
def occursIn (t : Tree) (text : String) : Bool :=
  let chars := text.toList.toArray
  !(t.ends chars (List.range (chars.size + 1))).isEmpty

end Tree
end Regex
end GrammarText
