/-!
# Blank characters

The characters with the Unicode property White_Space.  Trimming, the test for
a blank literal and the collapsing of indentation all use this one class.
-/

namespace PromptStream

/-- Whether a character has the property White_Space. -/
def isBlank (c : Char) : Bool :=
  let n := c.toNat
  (0x09 ≤ n && n ≤ 0x0d) || n == 0x20 || n == 0x85 || n == 0xa0 || n == 0x1680
    || (0x2000 ≤ n && n ≤ 0x200a) || n == 0x2028 || n == 0x2029 || n == 0x202f
    || n == 0x205f || n == 0x3000

/-- Drops blanks at both ends. -/
def trimBlanks (cs : List Char) : List Char :=
  ((cs.dropWhile isBlank).reverse.dropWhile isBlank).reverse

/-- A text without the blanks at its ends. -/
def trimText (s : String) : String := String.ofList (trimBlanks s.toList)

/-- Whether a text is empty or made of blanks alone. -/
def isBlankText (s : String) : Bool := s.toList.all isBlank

end PromptStream
