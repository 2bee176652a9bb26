namespace GrammarText

/-- How often something repeats: at least `min` times, and at most `max` times if there is one. -/
structure Quantifier where
  min : UInt32
  max : Option UInt32
  min_le_max : ∀ m, max = some m → min ≤ m
  deriving DecidableEq

namespace Quantifier

def exactly (count : UInt32) : Quantifier :=
  ⟨count, some count, fun m h => by cases h; exact UInt32.le_refl count⟩

def atLeast (min : UInt32) : Quantifier :=
  ⟨min, none, fun _ h => nomatch h⟩

/-- There is none when `max` is below `min`. -/
def between? (min max : UInt32) : Option Quantifier :=
  if h : min ≤ max then some ⟨min, some max, fun m hm => by cases hm; exact h⟩ else none

/-- The quantifier with the given bounds, if they are in order. -/
def ofBounds? (min : UInt32) : Option UInt32 → Option Quantifier
  | none => some (atLeast min)
  | some max => between? min max

def optional : Quantifier :=
  ⟨0, some 1, fun m h => by cases h; decide⟩

def zeroOrMore : Quantifier :=
  atLeast 0

def oneOrMore : Quantifier :=
  atLeast 1

def isOptional (q : Quantifier) : Bool :=
  q == optional

def isUnbounded (q : Quantifier) : Bool :=
  q.max.isNone

/-- The shortest spelling of the bounds. -/
def text (q : Quantifier) : String :=
  match q.max with
  | none =>
      if q.min == 0 then "*"
      else if q.min == 1 then "+"
      else "\x7b" ++ toString q.min.toNat ++ "..\x7d"
  | some max =>
      if q.min == 0 && max == 1 then "?"
      else if q.min == max then "\x7b" ++ toString q.min.toNat ++ "\x7d"
      else "\x7b" ++ toString q.min.toNat ++ ".." ++ toString max.toNat ++ "\x7d"

end Quantifier
end GrammarText
