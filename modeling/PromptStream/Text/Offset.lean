/-!
# Byte offsets in a text

Streamed text is measured and cut in bytes of its UTF-8 form, but only ever
between characters.  The functions here work on characters and count bytes:
`takeBytes n` is the longest stem of at most `n` bytes, so an offset lies
between two characters exactly when the stem has that many bytes.
-/

namespace PromptStream

/-- The number of bytes of a sequence of characters. -/
def byteLength : List Char → Nat
  | [] => 0
  | c :: cs => c.utf8Size + byteLength cs

/-- The longest stem of at most the given number of bytes. -/
def takeBytes : Nat → List Char → List Char
  | _, [] => []
  | n, c :: cs => if c.utf8Size ≤ n then c :: takeBytes (n - c.utf8Size) cs else []

/-- What follows the longest stem of at most the given number of bytes. -/
def dropBytes : Nat → List Char → List Char
  | _, [] => []
  | n, c :: cs => if c.utf8Size ≤ n then dropBytes (n - c.utf8Size) cs else c :: cs

/-- The largest offset between two characters that is at most `n`. -/
def floorBoundary (cs : List Char) (n : Nat) : Nat := byteLength (takeBytes n cs)

/-- Whether an offset lies between two characters, or at an end. -/
def isBoundary (cs : List Char) (n : Nat) : Bool := floorBoundary cs n == n

/-- The characters between two offsets, if both lie between characters and
they are in order. -/
def sliceBytes? (cs : List Char) (start stop : Nat) : Option (List Char) :=
  if start ≤ stop ∧ isBoundary cs start ∧ isBoundary cs stop then
    some (takeBytes (stop - start) (dropBytes start cs))
  else none

theorem takeBytes_append_dropBytes (n : Nat) (cs : List Char) :
    takeBytes n cs ++ dropBytes n cs = cs := by
  induction cs generalizing n with
  | nil => rfl
  | cons c cs ih =>
      simp only [takeBytes, dropBytes]
      split
      · simp [ih]
      · rfl

theorem byteLength_append (xs ys : List Char) :
    byteLength (xs ++ ys) = byteLength xs + byteLength ys := by
  induction xs with
  | nil => simp [byteLength]
  | cons x xs ih => simp [byteLength, ih, Nat.add_assoc]

theorem floorBoundary_le (cs : List Char) (n : Nat) : floorBoundary cs n ≤ n := by
  unfold floorBoundary
  induction cs generalizing n with
  | nil => simp [takeBytes, byteLength]
  | cons c cs ih =>
      simp only [takeBytes]
      split
      · have := ih (n - c.utf8Size)
        simp only [byteLength]
        omega
      · simp [byteLength]

end PromptStream
