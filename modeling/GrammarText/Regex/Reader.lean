/-
Reading a pattern.  The form of all of it is checked first, and then what its parts mean.  The
limits of an engine, on how deep groups nest and on how large a compiled pattern grows, are not
known here, so that a pattern beyond them is read.
-/
import GrammarText.Regex.Bracket
import GrammarText.Text.Alphanumeric

namespace GrammarText
namespace Regex
namespace Reader

/-- Reads flags up to a colon or a closing parenthesis, given those read before. -/
def flagsFrom : Nat → Flags → Reader Flags
  | 0, flags => return flags
  | limit + 1, flags => do
      match ← current? with
      | none => return flags
      | some c =>
          if c == ':' || c == ')' then
            match flags.getLast? with
            | some ('-', extent) => fail .flagDanglingNegation extent
            | _ => return flags
          else
            let extent ← currentExtent
            unless ['-', 'i', 'm', 's', 'U', 'u', 'R', 'x'].contains c do
              fail .flagUnrecognized extent
            match flags.find? (·.1 == c) with
            | some (_, earlier) =>
                throw ⟨if c == '-' then .flagRepeatedNegation else .flagDuplicate, extent,
                  some earlier⟩
            | none =>
                if !(← bump) then
                  failHere .flagUnexpectedEnd
                flagsFrom limit (flags ++ [(c, extent)])

def isNameChar (isFirst : Bool) (c : Char) : Bool :=
  if isFirst then c == '_' || Text.isAlphabetic c
  else c == '_' || c == '.' || c == '[' || c == ']' || Text.isAlphanumeric c

/-- Reads a group's name up to the angle that closes it. -/
def nameFrom (isFirst : Bool) : Nat → Reader (List Char)
  | 0 => return []
  | limit + 1 => do
      match ← current? with
      | none => return []
      | some '>' => return []
      | some c =>
          if isNameChar isFirst c then
            discard bump
            return c :: (← nameFrom false limit)
          else
            fail .groupNameInvalid (← currentExtent)

/-- Reads a group's name and the angle behind it. -/
def groupName : Reader Unit := do
  if ← atEnd then
    failHere .groupNameUnexpectedEnd
  let start ← here
  let name ← nameFrom true (← left)
  if ← atEnd then
    failHere .groupNameUnexpectedEnd
  let extent ← since start
  discard bump
  if name.isEmpty then
    fail .groupNameEmpty ⟨start, start⟩
  match (← get).names.find? (·.1 == name) with
  | some (_, earlier) => throw ⟨.groupNameDuplicate, extent, some earlier⟩
  | none => modify fun cursor => { cursor with names := cursor.names ++ [(name, extent)] }

/-- Opens a group with flags of its own. -/
def enter (extent : Extent) (flags : Flags) : Reader Unit :=
  modify fun cursor =>
    { cursor with
      groups := ⟨extent, cursor.modes, cursor.draft⟩ :: cursor.groups
      modes := cursor.modes.changed flags
      draft := .empty
      repeatable := false }

/-- Moves over what announces the name of a group, if it stands at the cursor. -/
def bumpNamed : Reader Bool := do
  if ← bumpIf ['?', 'P', '<'] then return true
  bumpIf ['?', '<']

/-- Reads the start of a group, or flags in parentheses. -/
def openGroup : Reader Unit := do
  let paren ← currentExtent
  discard bump
  skipBlanks
  let inner ← here
  for look in [['?', '='], ['?', '!'], ['?', '<', '='], ['?', '<', '!']] do
    if ← bumpIf look then
      failSince .lookAround paren.start
  if ← bumpNamed then
    groupName
    enter paren []
  else if ← bumpIf ['?'] then
    if ← atEnd then
      fail .groupUnclosed paren
    let flags ← flagsFrom (← left) []
    let closing ← current?
    discard bump
    if closing == some ')' then
      if flags.isEmpty then
        fail .repetitionMissing ⟨inner, inner⟩
      modify fun cursor =>
        { cursor with modes := cursor.modes.changed flags, repeatable := false }
    else
      enter paren flags
  else
    enter paren []

def closeGroup : Reader Unit := do
  let cursor ← get
  match cursor.groups with
  | [] => fail .groupUnopened (← currentExtent)
  | group :: outer =>
      set { cursor with
        groups := outer
        modes := group.modes
        draft := group.draft.add cursor.draft.tree
        repeatable := true }
      discard bump

/-- Ends an alternative. -/
def nextAlternative : Reader Unit := do
  discard bump
  modify fun cursor =>
    { cursor with draft := cursor.draft.nextAlternative, repeatable := false }

/-- Puts the part before the cursor under a repetition. -/
def repeatLast (least : Nat) (greatest : Option Nat) : Reader Unit :=
  modify fun cursor => { cursor with draft := cursor.draft.repeatLast least greatest }

/-- Reads a sign of repetition, and the question mark that makes it lazy. -/
def repetition (least : Nat) (greatest : Option Nat) : Reader Unit := do
  if !(← get).repeatable then
    failHere .repetitionMissing
  if ← bump then
    if (← current?) == some '?' then
      discard bump
  repeatLast least greatest

/-- Reads a decimal number between blanks.  What is wrong with it is kept for later. -/
def decimal : Reader (Except Error Nat) := do
  modify fun cursor =>
    let blanks := cursor.rest.takeWhile Text.isSpace
    { cursor with
      rest := cursor.rest.drop blanks.length, place := blanks.foldl next cursor.place }
  let start ← here
  let digits ← takeSkipping Char.isDigit (← left)
  let extent ← since start
  discard (takeSkipping Text.isSpace (← left))
  let value := digits.foldl (fun n c => 10 * n + (c.toNat - '0'.toNat)) 0
  if digits.isEmpty then return .error (.of .countEmpty extent)
  else if value < UInt32.size then return .ok value
  else return .error (.of .decimalInvalid extent)

/-- A number that has to be there. -/
def needed : Except Error Nat → Reader Nat
  | .ok n => return n
  | .error e => throw e

/-- Reads a repetition by counts in braces. -/
def counted : Reader Unit := do
  let start ← here
  if !(← get).repeatable then
    failHere .repetitionMissing
  if !(← bumpAndSkip) then
    failSince .countUnclosed start
  let low ← decimal
  if ← atEnd then
    failSince .countUnclosed start
  let (least, greatest) : Nat × Option Nat ←
    if (← current?) == some ',' then
      if !(← bumpAndSkip) then
        failSince .countUnclosed start
      if (← current?) == some '}' then
        pure (← needed low, none)
      else
        let least ← needed low
        pure (least, some (← needed (← decimal)))
    else
      let n ← needed low
      pure (n, some n)
  if (← current?) != some '}' then
    failSince .countUnclosed start
  if ← bumpAndSkip then
    if (← current?) == some '?' then
      discard bump
  if greatest.any (· < least) then
    failSince .countInvalid start
  repeatLast least greatest

/-- Reads a pattern up to its end. -/
def pattern : Nat → Reader Unit
  | 0 => return ()
  | limit + 1 => do
      skipBlanks
      match ← current? with
      | none =>
          match (← get).groups with
          | [] => return ()
          | group :: _ => fail .groupUnclosed group.extent
      | some c =>
          match c with
          | '(' => openGroup
          | ')' => closeGroup
          | '|' => nextAlternative
          | '[' => add (.one (← bracketed))
          | '?' => repetition 0 (some 1)
          | '*' => repetition 0 none
          | '+' => repetition 1 none
          | '{' => counted
          | _ => add (← part (← primitive c))
          pattern limit

end Reader

/-- Reads a pattern, or says what is wrong with it. -/
def read (pattern : String) : Except Error Tree := do
  let ((), cursor) ← (Reader.pattern (pattern.length + 1)).run (.start pattern)
  match cursor.doubt with
  | some e => throw e
  | none => return cursor.draft.tree

/-- The text about what is wrong with a pattern, if anything is.  The program checks regexes in this
way, while what is proved of tables holds for any check. -/
def complaint? (pattern : String) : Option String :=
  match read pattern with
  | .ok _ => none
  | .error e => some (e.text pattern)

end Regex
end GrammarText
