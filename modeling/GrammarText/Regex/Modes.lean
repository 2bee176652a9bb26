/-
The modes in which a pattern is read, and the sets of characters that depend on them.
-/
import GrammarText.Regex.Error
import GrammarText.Regex.Tree
import GrammarText.Unicode.Flag

namespace GrammarText
namespace Regex

open Text (CharSet)
open Unicode

structure Modes where
  ignoresCase : Bool
  /-- Whether the signs for the ends of the text stand for the ends of lines. -/
  multiline : Bool
  dotAll : Bool
  /-- Whether characters are matched, and not bytes. -/
  unicode : Bool
  crlf : Bool
  ignoresBlanks : Bool
  deriving Repr, DecidableEq

/-- A change of modes: the letters in it, each with its place, and hyphens. -/
abbrev Flags : Type := List (Char × Extent)

/-- The mode that flags give to a letter. -/
def Flags.mode? (letter : Char) (flags : Flags) : Option Bool :=
  if flags.any (·.1 == letter) then
    some (!((flags.takeWhile (·.1 != letter)).any (·.1 == '-')))
  else
    none

namespace Modes

def default : Modes :=
  ⟨false, false, false, true, false, false⟩

/-- The modes after a change. -/
def changed (m : Modes) (flags : Flags) : Modes where
  ignoresCase := (flags.mode? 'i').getD m.ignoresCase
  multiline := (flags.mode? 'm').getD m.multiline
  dotAll := (flags.mode? 's').getD m.dotAll
  unicode := (flags.mode? 'u').getD m.unicode
  crlf := (flags.mode? 'R').getD m.crlf
  ignoresBlanks := (flags.mode? 'x').getD m.ignoresBlanks

/-- A set with all that counts as the same. -/
def fold (m : Modes) (set : CharSet) : CharSet :=
  if m.ignoresCase then .folded m.unicode set else set

/-- What a point matches. -/
def dot (m : Modes) : CharSet :=
  if m.dotAll then .compl .empty
  else if m.crlf then .compl (.union (.one '\n') (.one '\r'))
  else .compl (.one '\n')

def lineStart (m : Modes) : Look :=
  if m.multiline then .lineStart m.crlf else .textStart

def lineEnd (m : Modes) : Look :=
  if m.multiline then .lineEnd m.crlf else .textEnd

end Modes

/- Classes of characters. -/

def digits (unicode : Bool) : CharSet :=
  if unicode then Category.decimalNumber else .range '0' '9'

def blanks (unicode : Bool) : CharSet :=
  if unicode then Flag.whiteSpace else .union (.range '\t' '\r') (.one ' ')

/-- The ASCII letters. -/
def plainLetters : CharSet :=
  .union (.range 'A' 'Z') (.range 'a' 'z')

def plainWord : CharSet :=
  .unions [.range '0' '9', plainLetters, .one '_']

/-- The characters that belong to words. -/
def wordChars (unicode : Bool) : CharSet :=
  if unicode then
    .unions [Flag.alphabetic, Category.mark, Category.decimalNumber,
      Category.connectorPunctuation, Flag.joinControl]
  else plainWord

/-- The classes in ASCII that have names. -/
def namedClasses : List (String × CharSet) := [
  ("alnum", .union (.range '0' '9') plainLetters),
  ("alpha", plainLetters),
  ("ascii", .range '\x00' '\x7f'),
  ("blank", .union (.one '\t') (.one ' ')),
  ("cntrl", .union (.range '\x00' '\x1f') (.one '\x7f')),
  ("digit", .range '0' '9'),
  ("graph", .range '!' '~'),
  ("lower", .range 'a' 'z'),
  ("print", .range ' ' '~'),
  ("punct", .unions [.range '!' '/', .range ':' '@', .range '[' '\x60', .range '\x7b' '~']),
  ("space", blanks false),
  ("upper", .range 'A' 'Z'),
  ("word", plainWord),
  ("xdigit", .unions [.range '0' '9', .range 'A' 'F', .range 'a' 'f'])]

end Regex
end GrammarText
