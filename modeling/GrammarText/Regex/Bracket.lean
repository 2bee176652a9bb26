/-
Reading a class of characters in brackets.  Members stand side by side, and between two runs of
members an operation on their sets may stand.
-/
import GrammarText.Regex.Escape

namespace GrammarText
namespace Regex

open Text (CharSet)

inductive SetOperation where
  | intersection
  | difference
  | symmetricDifference
  deriving Repr, DecidableEq

namespace SetOperation

/-- The operation whose sign is written twice. -/
def ofSign? : Char → Option SetOperation
  | '&' => some intersection
  | '-' => some difference
  | '~' => some symmetricDifference
  | _ => none

def apply (a b : CharSet) : SetOperation → CharSet
  | intersection => .inter a b
  | difference => a.without b
  | symmetricDifference => a.symmDiff b

end SetOperation

/-- A bracketed class that has been opened: its start up to its first member, whether it is
negated, what stands before the last operation, and the members since. -/
structure OpenClass where
  extent : Extent
  negated : Bool
  left : Option (CharSet × SetOperation)
  members : CharSet
  deriving Repr

namespace OpenClass

def add (o : OpenClass) (set : CharSet) : OpenClass :=
  { o with members := o.members.union set }

/-- All so far.  Operations are done from left to right. -/
def combined (o : OpenClass) (m : Modes) : CharSet :=
  match o.left with
  | none => o.members
  | some (left, operation) => operation.apply (m.fold left) (m.fold o.members)

/-- Goes on behind an operation. -/
def operate (o : OpenClass) (m : Modes) (operation : SetOperation) : OpenClass :=
  { o with left := some (o.combined m, operation), members := .empty }

def set (o : OpenClass) (m : Modes) : CharSet :=
  (m.fold (o.combined m)).complIf o.negated

end OpenClass

namespace Reader

variable {α : Type}

/-- Reads hyphens at the start of a class, which stand for themselves. -/
def leadingHyphens (start : Place) : Nat → Reader Bool
  | 0 => return false
  | limit + 1 => do
      if (← current?) == some '-' then
        if !(← bumpAndSkip) then
          fail .classUnclosed ⟨start, start⟩
        discard (leadingHyphens start limit)
        return true
      else
        return false

/-- Opens the class whose bracket stands at the cursor. -/
def openClass : Reader OpenClass := do
  let start ← here
  if !(← bumpAndSkip) then
    failSince .classUnclosed start
  let negated := (← current?) == some '^'
  if negated then
    if !(← bumpAndSkip) then
      failSince .classUnclosed start
  let hyphens ← leadingHyphens start (← left)
  let bracket := !hyphens && (← current?) == some ']'
  if bracket then
    if !(← bumpAndSkip) then
      failSince .classUnclosed start
  let first : CharSet := if hyphens then .one '-' else if bracket then .one ']' else .empty
  return ⟨← since start, negated, none, first⟩

/-- Reads a class by its name in brackets and colons.  If there is none the cursor stays. -/
def namedClass : Reader (Option CharSet) := do
  let saved ← get
  let start := saved.place
  let (colon, rest) :=
    match saved.rest with
    | '[' :: ':' :: rest => (true, rest)
    | _ => (false, [])
  let negated := rest.head? == some '^'
  let text := if negated then rest.tail else rest
  let name := text.takeWhile (· != ':')
  match namedClasses.lookup (String.ofList name) with
  | none => return none
  | some set =>
      if colon && [':', ']'].isPrefixOf (text.drop name.length) then
        let whole := ['[', ':'] ++ (if negated then ['^'] else []) ++ name ++ [':', ']']
        discard (bumpIf whole)
        doubtBytes .invalidUtf8 negated (← since start)
        return some (((← modes).fold set).complIf negated)
      else
        return none

/-- The literal that may bound a range of characters. -/
def bound : Placed → Reader Char
  | (.literal c _, _) => return c
  | (_, extent) => fail .classRangeLiteral extent

/-- The innermost open class is the one to close. -/
def failUnclosed (inner : OpenClass) : Reader α :=
  fail .classUnclosed inner.extent

/-- Reads a member of a class or a range of members. -/
def members (inner : OpenClass) (c : Char) : Reader CharSet := do
  let first ← member c
  skipBlanks
  if ← atEnd then
    failUnclosed inner
  let behind ← peekPastBlanks?
  if (← current?) != some '-' || behind == some ']' || behind == some '-' then
    memberSet first
  else
    if !(← bumpAndSkip) then
      failUnclosed inner
    match ← current? with
    | none => failUnclosed inner
    | some d =>
        let second ← member d
        let low ← bound first
        let high ← bound second
        if high < low then
          fail .classRangeInvalid ⟨first.2.start, second.2.stop⟩
        discard (memberSet first)
        discard (memberSet second)
        return .range low high

/-- Reads on in the innermost of some open classes until the outermost is closed. -/
def classBody : Nat → OpenClass → List OpenClass → Reader CharSet
  | 0, inner, _ => failUnclosed inner
  | limit + 1, inner, outer => do
      skipBlanks
      match ← current? with
      | none => failUnclosed inner
      | some '[' =>
          match ← namedClass with
          | some set => classBody limit (inner.add set) outer
          | none => classBody limit (← openClass) (inner :: outer)
      | some ']' =>
          discard bump
          doubtBytes .invalidUtf8 inner.negated (← since inner.extent.start)
          let set := inner.set (← modes)
          match outer with
          | [] => return set
          | next :: others => classBody limit (next.add set) others
      | some c =>
          match SetOperation.ofSign? c, (← peek?) == some c with
          | some operation, true =>
              discard (bumpIf [c, c])
              classBody limit (inner.operate (← modes) operation) outer
          | _, _ => classBody limit (inner.add (← members inner c)) outer

/-- Reads the bracketed class at the cursor. -/
def bracketed : Reader CharSet := do
  let outermost ← openClass
  classBody ((← left) + 1) outermost []

end Reader
end Regex
end GrammarText
