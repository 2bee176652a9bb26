namespace GrammarText
namespace Text

/-- The number of bytes the characters take in UTF-8. -/
def byteLength : List Char → Nat
  | [] => 0
  | c :: rest => c.utf8Size + byteLength rest

/--
The characters that lie wholly before a byte offset.  An offset inside a character counts as the
offset of its first byte, and an offset past the end as the end.
-/
def takeBytes : List Char → Nat → List Char
  | [], _ => []
  | c :: rest, offset =>
      if c.utf8Size ≤ offset then c :: takeBytes rest (offset - c.utf8Size) else []

/-- The characters that `takeBytes` leaves. -/
def dropBytes : List Char → Nat → List Char
  | [], _ => []
  | c :: rest, offset =>
      if c.utf8Size ≤ offset then dropBytes rest (offset - c.utf8Size) else c :: rest

/-- The characters between two byte offsets. -/
def slice (text : List Char) (start stop : Nat) : List Char :=
  takeBytes (dropBytes text start) (stop - start)

/-- Whether a byte offset lies between two characters, or at either end of the text. -/
def isBoundary : List Char → Nat → Bool
  | _, 0 => true
  | [], _ + 1 => false
  | c :: rest, offset + 1 =>
      c.utf8Size ≤ offset + 1 && isBoundary rest (offset + 1 - c.utf8Size)

/-- The first boundary that is met on the way back from a byte offset. -/
def boundaryBefore (text : List Char) : Nat → Nat
  | 0 => 0
  | offset + 1 =>
      if isBoundary text (offset + 1) then offset + 1 else boundaryBefore text offset

/-- The last boundary that lies neither behind a byte offset nor behind the end. -/
def clamp (text : List Char) (offset : Nat) : Nat :=
  boundaryBefore text (min offset (byteLength text))

/-- The characters between two byte offsets, if they are in order and both are boundaries. -/
def slice? (text : List Char) (start stop : Nat) : Option (List Char) :=
  if start ≤ stop && isBoundary text start && isBoundary text stop then
    some (slice text start stop)
  else none

theorem byteLength_append (a b : List Char) :
    byteLength (a ++ b) = byteLength a + byteLength b := by
  induction a with
  | nil => simp [byteLength]
  | cons c rest ih => simp [byteLength, ih, Nat.add_assoc]

theorem dropBytes_append (before after : List Char) :
    dropBytes (before ++ after) (byteLength before) = after := by
  induction before with
  | nil =>
    cases after with
    | nil => rfl
    | cons c rest => exact if_neg (Nat.not_le.mpr c.utf8Size_pos)
  | cons c rest ih => simp [dropBytes, byteLength, ih]

theorem takeBytes_append (before after : List Char) :
    takeBytes (before ++ after) (byteLength before) = before := by
  induction before with
  | nil =>
    cases after with
    | nil => rfl
    | cons c rest => exact if_neg (Nat.not_le.mpr c.utf8Size_pos)
  | cons c rest ih => simp [takeBytes, byteLength, ih]

/-- The slice over the bytes of a part is the part. -/
theorem slice_append (before inside after : List Char) :
    slice (before ++ inside ++ after) (byteLength before)
      (byteLength before + byteLength inside) = inside := by
  rw [slice, List.append_assoc, dropBytes_append, Nat.add_sub_cancel_left, takeBytes_append]

end Text
end GrammarText
