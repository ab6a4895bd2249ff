import PromptStream.Numeric.Reading

/-!
# List positions written as text

A segment of an address that reads as a 64-bit position selects an entry of a
list.  A position is an optional plus sign and decimal digits; leading zeros
are allowed, and a number that does not fit in 64 bits is no position.
-/

namespace PromptStream

/-- One past the largest position. -/
def indexBound : Nat := Nat.pow 2 64

/-- The digits of a position, without its optional plus sign. -/
def indexDigits : List Char → List Char
  | '+' :: cs => cs
  | cs => cs

/-- The position that a segment denotes, if it denotes one. -/
def readIndex? (s : String) : Option Nat :=
  let ds := indexDigits s.toList
  if ds.isEmpty ∨ ¬ ds.all Char.isDigit then none
  else
    let n := digitsValue ds
    if n < indexBound then some n else none

example : readIndex? "+007" = some 7 := by decide

example : readIndex? "+" = none := by decide

end PromptStream
