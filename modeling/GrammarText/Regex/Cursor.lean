/-
Reading a pattern: what is left of it and what has been found, and the smallest steps over it.
-/
import GrammarText.Regex.Modes
import GrammarText.Text.Word

namespace GrammarText
namespace Regex

/-- What a group or a whole pattern matches, as far as it has been read. -/
structure Draft where
  /-- The alternatives before the current one, last first. -/
  earlier : List Tree
  /-- The parts of the current alternative, last first. -/
  parts : List Tree
  deriving Repr

namespace Draft

def empty : Draft :=
  ⟨[], []⟩

def add (d : Draft) (part : Tree) : Draft :=
  { d with parts := part :: d.parts }

/-- Puts the last part under a repetition. -/
def repeatLast (d : Draft) (least : Nat) (greatest : Option Nat) : Draft :=
  match d.parts with
  | [] => d
  | part :: before => { d with parts := .repeated part least greatest :: before }

def sequence (d : Draft) : Tree :=
  d.parts.foldl (fun rest part => .seq part rest) .empty

def nextAlternative (d : Draft) : Draft :=
  ⟨d.sequence :: d.earlier, []⟩

def tree (d : Draft) : Tree :=
  d.earlier.foldl (fun rest alternative => .alt alternative rest) d.sequence

end Draft

/-- A group that has been opened: its parenthesis, and the modes and the draft around it. -/
structure OpenGroup where
  extent : Extent
  modes : Modes
  draft : Draft
  deriving Repr

structure Cursor where
  rest : List Char
  place : Place
  modes : Modes
  /-- Whether something stands before the cursor that can be repeated. -/
  repeatable : Bool
  groups : List OpenGroup
  names : List (List Char × Extent)
  draft : Draft
  /-- The first part that has a form but no meaning.  It counts if the form of all is right. -/
  doubt : Option Error
  deriving Repr

/-- The start of a pattern. -/
def Cursor.start (pattern : String) : Cursor :=
  ⟨pattern.toList, ⟨1, 1⟩, .default, false, [], [], .empty, none⟩

abbrev Reader : Type → Type :=
  StateT Cursor (Except Error)

namespace Reader

variable {α : Type}

/-- The place behind a character. -/
def next (p : Place) (c : Char) : Place :=
  if c == '\n' then ⟨p.line + 1, 1⟩ else ⟨p.line, p.column + 1⟩

def here : Reader Place := do
  return (← get).place

def current? : Reader (Option Char) := do
  return (← get).rest.head?

def atEnd : Reader Bool := do
  return (← get).rest.isEmpty

/-- The extent of the character at the cursor, empty at the end. -/
def currentExtent : Reader Extent := do
  let cursor ← get
  match cursor.rest with
  | [] => return ⟨cursor.place, cursor.place⟩
  | c :: _ => return ⟨cursor.place, next cursor.place c⟩

def since (start : Place) : Reader Extent := do
  return ⟨start, ← here⟩

def fail (fault : Fault) (extent : Extent) : Reader α :=
  throw (.of fault extent)

/-- Fails at the cursor, at no character. -/
def failHere (fault : Fault) : Reader α := do
  fail fault (← since (← here))

def failSince (fault : Fault) (start : Place) : Reader α := do
  fail fault (← since start)

/-- Doubts that a part has a meaning. -/
def doubt (fault : Fault) (extent : Extent) : Reader Unit :=
  modify fun cursor => { cursor with doubt := cursor.doubt <|> some (.of fault extent) }

def modes : Reader Modes := do
  return (← get).modes

/-- Adds a part that can be repeated. -/
def add (part : Tree) : Reader Unit :=
  modify fun cursor => { cursor with draft := cursor.draft.add part, repeatable := true }

/-- Moves over a character, and says whether another follows. -/
def bump : Reader Bool := do
  let cursor ← get
  match cursor.rest with
  | [] => return false
  | c :: rest =>
      set { cursor with rest := rest, place := next cursor.place c }
      return !rest.isEmpty

/-- Moves over a text if it stands at the cursor. -/
def bumpIf (text : List Char) : Reader Bool := do
  let cursor ← get
  if text.isPrefixOf cursor.rest then
    set { cursor with
      rest := cursor.rest.drop text.length
      place := text.foldl next cursor.place }
    return true
  else
    return false

/-- The text behind blanks and comments, and its place. -/
def pastBlanks (inComment : Bool) : List Char → Place → List Char × Place
  | [], p => ([], p)
  | c :: rest, p =>
      if inComment then pastBlanks (c != '\n') rest (next p c)
      else if Text.isSpace c then pastBlanks false rest (next p c)
      else if c == '#' then pastBlanks true rest (next p c)
      else (c :: rest, p)

/-- Moves over blanks and comments where they are ignored. -/
def skipBlanks : Reader Unit := do
  let cursor ← get
  if cursor.modes.ignoresBlanks then
    let (rest, place) := pastBlanks false cursor.rest cursor.place
    set { cursor with rest := rest, place := place }

/-- Moves over a character and the blanks behind it, and says whether another follows. -/
def bumpAndSkip : Reader Bool := do
  if ← bump then
    skipBlanks
    return !(← atEnd)
  else
    return false

/-- The character behind the one at the cursor. -/
def peek? : Reader (Option Char) := do
  return (← get).rest.tail.head?

/--
The first character behind the cursor that is not ignored.  Behind a number sign all that is no
blank counts, and where nothing counts the character right behind the cursor is taken.
-/
def peekPastBlanks? : Reader (Option Char) := do
  let cursor ← get
  let behind := cursor.rest.tail
  if cursor.modes.ignoresBlanks then
    match behind.dropWhile Text.isSpace with
    | [] => return behind.head?
    | '#' :: comment =>
        match comment.dropWhile fun c => Text.isSpace c with
        | [] => return behind.head?
        | c :: _ => return some c
    | c :: _ => return some c
  else
    return behind.head?

/-- Reads characters of a kind, with blanks between them, up to the first other one. -/
def takeSkipping (isWanted : Char → Bool) : Nat → Reader (List Char)
  | 0 => return []
  | limit + 1 => do
      match ← current? with
      | some c =>
          if isWanted c then
            discard bumpAndSkip
            return c :: (← takeSkipping isWanted limit)
          else
            return []
      | none => return []

/-- The number of characters left, which bounds every loop over them. -/
def left : Reader Nat := do
  return (← get).rest.length

end Reader
end Regex
end GrammarText
