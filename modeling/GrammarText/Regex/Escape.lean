/-
Reading what can stand alone in a pattern or in a bracketed class.
-/
import GrammarText.Regex.Cursor
import GrammarText.Regex.Property

namespace GrammarText
namespace Regex

open Text (CharSet)

/-- Something that can stand alone. -/
inductive Item where
  /-- A character, and whether it is written as a byte in two hexadecimal digits. -/
  | literal (c : Char) (asByte : Bool)
  /-- A class by one of the letters for digits, blanks and characters of words. -/
  | letterClass (letter : Char) (negated : Bool)
  | property (query : Property.Query) (negated : Bool)
  | dot
  | look (look : Look)
  deriving Repr, DecidableEq

/-- An item with its extent. -/
abbrev Placed : Type := Item × Extent

namespace Reader

def isHexDigit (c : Char) : Bool :=
  c.isDigit || ('a' ≤ c && c ≤ 'f') || ('A' ≤ c && c ≤ 'F')

def hexValue (digits : List Char) : Nat :=
  digits.foldl (fun n c =>
    16 * n +
      (if c.isDigit then c.toNat - '0'.toNat else c.toLower.toNat - 'a'.toNat + 10)) 0

/-- The character with a code, if it is one. -/
def scalar? (code : Nat) : Option Char :=
  if code < 0xd800 || (0xdfff < code && code < 0x110000) then some (Char.ofNat code) else none

/-- Reads so many hexadecimal digits, of which the first stands at the cursor. -/
def hexDigits (first : Bool) : Nat → Reader (List Char)
  | 0 => return []
  | count + 1 => do
      if !first then
        if !(← bumpAndSkip) then
          failHere .escapeUnexpectedEnd
      match ← current? with
      | some c =>
          if isHexDigit c then
            return c :: (← hexDigits false count)
          else
            fail .hexInvalidDigit (← currentExtent)
      | none => fail .hexInvalidDigit (← currentExtent)

/-- Reads a code in hexadecimal digits, so many of them. -/
def fixedHex (count : Nat) : Reader Item := do
  let start ← here
  let digits ← hexDigits true count
  discard bumpAndSkip
  match scalar? (hexValue digits) with
  | some c => return .literal c (count == 2)
  | none => failSince .hexInvalid start

/-- Reads hexadecimal digits up to a closing brace, starting at the character before them. -/
def hexUpToBrace : Nat → Reader (List Char)
  | 0 => return []
  | limit + 1 => do
      if ← bumpAndSkip then
        match ← current? with
        | some '}' => return []
        | some c =>
            if isHexDigit c then
              return c :: (← hexUpToBrace limit)
            else
              fail .hexInvalidDigit (← currentExtent)
        | none => return []
      else
        return []

/-- Reads a code in braces, of which the first stands at the cursor. -/
def bracedHex : Reader Item := do
  let brace ← here
  let start := (← currentExtent).stop
  let digits ← hexUpToBrace (← left)
  if ← atEnd then
    failSince .escapeUnexpectedEnd brace
  let stop ← here
  discard bumpAndSkip
  if digits.isEmpty then
    failSince .hexEmpty brace
  match scalar? (hexValue digits) with
  | some c => return .literal c false
  | none => fail .hexInvalid ⟨start, stop⟩

/-- Reads a code behind the letter that announces it, which stands at the cursor. -/
def hex (count : Nat) : Reader Item := do
  if !(← bumpAndSkip) then
    failHere .escapeUnexpectedEnd
  if (← current?) == some '{' then bracedHex else fixedHex count

/-- Reads what stands in braces, starting at the opening one. -/
def upToBrace : Nat → Reader (List Char)
  | 0 => return []
  | limit + 1 => do
      if ← bumpAndSkip then
        match ← current? with
        | some '}' => return []
        | some c => return c :: (← upToBrace limit)
        | none => return []
      else
        return []

/-- Reads a property behind the letter that announces it, which stands at the cursor. -/
def property (negated : Bool) : Reader Item := do
  if !(← bumpAndSkip) then
    failHere .escapeUnexpectedEnd
  match ← current? with
  | some '{' =>
      let name ← upToBrace (← left)
      if ← atEnd then
        failHere .escapeUnexpectedEnd
      discard bump
      return .property (.ofBraces name) negated
  | some '\\' => fail .propertyInvalid (← currentExtent)
  | some c =>
      discard bumpAndSkip
      return .property (.named [c]) negated
  | none => failHere .escapeUnexpectedEnd

/-- The characters with a meaning of their own. -/
def isMeta (c : Char) : Bool :=
  "\\.+*?()|[]\x7b\x7d^$#&-~".toList.contains c

/-- The characters that stand for themselves behind a backslash. -/
def isEscapable (c : Char) : Bool :=
  isMeta c || (c.toNat < 128 && !c.isAlphanum && c != '<' && c != '>')

def isBoundaryLetter (c : Char) : Bool :=
  c.isAlpha || c == '-'

def boundaries : List (String × Boundary) := [
  ("start", .start), ("end", .stop), ("start-half", .startHalf), ("end-half", .stopHalf)]

/--
Reads the name of a kind of word boundary in braces, if the brace at the cursor opens one.  Else
the cursor stays, and the brace opens a repetition.
-/
def boundaryName (escape : Place) : Reader Boundary := do
  let saved ← get
  if !(← bumpAndSkip) then
    failSince .wordBoundaryUnexpectedEnd escape
  let start ← here
  match ← current? with
  | some c =>
      if isBoundaryLetter c then
        let name ← takeSkipping isBoundaryLetter (← left)
        if (← current?) != some '}' then
          failSince .wordBoundaryUnclosed saved.place
        let stop ← here
        discard bump
        match boundaries.lookup (String.ofList name) with
        | some boundary => return boundary
        | none => fail .wordBoundaryUnrecognized ⟨start, stop⟩
      else
        set saved
        return .edge
  | none =>
      set saved
      return .edge

/-- Reads an escape, of which the backslash stands at the cursor. -/
def escape : Reader Placed := do
  let start ← here
  let unicode := (← modes).unicode
  if !(← bump) then
    failSince .escapeUnexpectedEnd start
  match ← current? with
  | none => failSince .escapeUnexpectedEnd start
  | some c =>
      if c.isDigit then
        fail .backreference ⟨start, (← currentExtent).stop⟩
      else if c == 'x' then
        return (← hex 2, ← since start)
      else if c == 'u' then
        return (← hex 4, ← since start)
      else if c == 'U' then
        return (← hex 8, ← since start)
      else if c == 'p' || c == 'P' then
        return (← property c.isUpper, ← since start)
      else if ['d', 's', 'w', 'D', 'S', 'W'].contains c then
        discard bump
        return (.letterClass c.toLower c.isUpper, ← since start)
      else
        discard bump
        let extent ← since start
        if isEscapable c then
          return (.literal c false, extent)
        match c with
        | 'a' => return (.literal '\x07' false, extent)
        | 'f' => return (.literal '\x0c' false, extent)
        | 't' => return (.literal '\t' false, extent)
        | 'n' => return (.literal '\n' false, extent)
        | 'r' => return (.literal '\r' false, extent)
        | 'v' => return (.literal '\x0b' false, extent)
        | 'A' => return (.look .textStart, extent)
        | 'z' => return (.look .textEnd, extent)
        | 'B' => return (.look (.word .noEdge unicode), extent)
        | '<' => return (.look (.word .start unicode), extent)
        | '>' => return (.look (.word .stop unicode), extent)
        | 'b' =>
            let boundary ←
              if (← current?) == some '{' then boundaryName start else pure .edge
            return (.look (.word boundary unicode), ← since start)
        | _ => fail .escapeUnrecognized extent

/-- Reads the item at the cursor outside brackets. -/
def primitive (c : Char) : Reader Placed := do
  if c == '\\' then
    escape
  else
    let extent ← currentExtent
    discard bump
    match c with
    | '.' => return (.dot, extent)
    | '^' => return (.look (← modes).lineStart, extent)
    | '$' => return (.look (← modes).lineEnd, extent)
    | _ => return (.literal c false, extent)

/-- Reads the item at the cursor inside brackets. -/
def member (c : Char) : Reader Placed := do
  if c == '\\' then
    escape
  else
    let extent ← currentExtent
    discard bump
    return (.literal c false, extent)

/- The sets of items.  Where bytes are matched every match has to be a text all the same. -/

/-- Doubts what would match bytes that are no text. -/
def doubtBytes (fault : Fault) (isDoubtful : Bool) (extent : Extent) : Reader Unit := do
  if isDoubtful && !(← modes).unicode then
    doubt fault extent

def classByLetter (letter : Char) (unicode : Bool) : CharSet :=
  match letter with
  | 'd' => digits unicode
  | 's' => blanks unicode
  | _ => wordChars unicode

/-- The set of a class by a letter. -/
def letterSet (letter : Char) (negated : Bool) (extent : Extent) : Reader CharSet := do
  doubtBytes .invalidUtf8 negated extent
  return (classByLetter letter (← modes).unicode).complIf negated

/-- The set of a property. -/
def propertySet (query : Property.Query) (negated : Bool) (extent : Extent) :
    Reader CharSet := do
  let m ← modes
  if m.unicode then
    match query.set with
    | .ok set => return (m.fold set).complIf negated
    | .error fault =>
        doubt fault extent
        return .empty
  else
    doubt .unicodeNotAllowed extent
    return .empty

/-- The part that an item outside brackets is. -/
def part : Placed → Reader Tree
  | (.literal c asByte, extent) => do
      doubtBytes .invalidUtf8 (asByte && c.toNat > 127) extent
      return .one ((← modes).fold (.one c))
  | (.letterClass letter negated, extent) => do
      return .one (← letterSet letter negated extent)
  | (.property query negated, extent) => do return .one (← propertySet query negated extent)
  | (.dot, extent) => do
      doubtBytes .invalidUtf8 true extent
      return .one (← modes).dot
  | (.look l, _) => return .look l

/-- The set of a character in brackets. -/
def literalSet (c : Char) (asByte : Bool) (extent : Extent) : Reader CharSet := do
  doubtBytes (if asByte then .invalidUtf8 else .unicodeNotAllowed) (c.toNat > 127) extent
  return .one c

/-- The set that an item in brackets is. -/
def memberSet : Placed → Reader CharSet
  | (.literal c asByte, extent) => literalSet c asByte extent
  | (.letterClass letter negated, extent) => letterSet letter negated extent
  | (.property query negated, extent) => propertySet query negated extent
  | (.dot, extent) => fail .classEscapeInvalid extent
  | (.look _, extent) => fail .classEscapeInvalid extent

end Reader
end Regex
end GrammarText
