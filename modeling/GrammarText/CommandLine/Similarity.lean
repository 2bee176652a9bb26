/-
How alike two words are, from zero to one, so that a misspelt one finds the one that was meant.
Characters match if they are the same and not far apart, each at most once, and the matches of both
words are compared in their order.
-/
namespace GrammarText
namespace CommandLine
namespace Similarity

/-- The first place from `start` up to `stop` that holds the character and has not been taken. -/
def place? (c : Char) (start stop : Nat) (taken : List Nat) (word : List Char) : Option Nat :=
  (List.range' start (stop - start)).find? fun j => word[j]? == some c && !taken.contains j

/-- The matches of a word in another within a distance: the characters of the first, and the places
in the second, for the characters of the first from an index on. -/
def matchUp (reach : Nat) (second : List Char) :
    Nat → List Nat → List Char → List Char × List Nat
  | _, taken, [] => ([], taken)
  | i, taken, c :: rest =>
      match place? c (i - reach) (min second.length (i + reach + 1)) taken second with
      | none => matchUp reach second (i + 1) taken rest
      | some j =>
          let (others, taken) := matchUp reach second (i + 1) (j :: taken) rest
          (c :: others, taken)

/-- The characters of a word at some places, in the order of the word. -/
def pick (places : List Nat) (word : List Char) : List Char :=
  (word.zipIdx.filter fun (_, i) => places.contains i).map Prod.fst

/-- The number of places at which two lists of characters differ. -/
def differences (a b : List Char) : Nat :=
  ((a.zip b).filter fun (x, y) => x != y).length

/-- The mean of three shares: of the matches in either word, and of those that are in order among
the matches. -/
def ratio (a b : List Char) : Float :=
  let reach := max a.length b.length / 2 - 1
  let (found, places) := matchUp reach b 0 [] a
  let count := found.length
  let moved := differences found (pick places b) / 2
  if a.isEmpty && b.isEmpty then 1
  else if count == 0 then 0
  else
    let share (part whole : Nat) : Float := part.toFloat / whole.toFloat
    (share count a.length + share count b.length + share (count - moved) count) / 3

/-- The word most like the given one, if it is alike enough, and the last of those that are most
alike. -/
def closest? (word : String) (words : List String) : Option String :=
  let better (best : Option (Float × String)) (other : String) : Option (Float × String) :=
    let r := ratio word.toList other.toList
    if r > 0.7 && best.all (fun (most, _) => r ≥ most) then some (r, other) else best
  (words.foldl better none).map Prod.snd

end Similarity
end CommandLine
end GrammarText
