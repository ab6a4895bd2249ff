import PromptStream.Numeric.Binary

/-!
# Reading decimal numbers

`BinaryFormat.read?` reads a decimal number in free form (optional sign, digits
with an optional point, optional exponent, or a word for infinity and
not-a-number) and rounds it once to the nearest value of the format.  A number
too large for the format becomes an infinity.
-/

namespace PromptStream

/-- The number written by decimal digits, most significant first. -/
def digitsValue (ds : List Char) : Nat :=
  ds.foldl (fun n c => 10 * n + (c.toNat - 48)) 0

namespace BinaryFormat

/-- The value nearest to `coefficient * 10 ^ exponent`.  Exponents far outside
every format are cut short, so that no huge power is computed. -/
def ofDecimal (F : BinaryFormat) (negative : Bool) (coefficient : Nat) (exponent : Int) : Binary :=
  if coefficient = 0 then .finite negative 0 F.minExponent
  else
    let magnitude : Int := exponent + (Nat.toDigits 10 coefficient).length
    if 400 < magnitude then .infinite negative
    else if magnitude < -400 then .finite negative 0 F.minExponent
    else F.round negative (coefficient * Nat.pow 10 exponent.toNat) (Nat.pow 10 (-exponent).toNat)

end BinaryFormat

namespace DecimalText

/-- An optional sign and what follows it. -/
def splitSign : List Char → Bool × List Char
  | '-' :: cs => (true, cs)
  | '+' :: cs => (false, cs)
  | cs => (false, cs)

/-- An exponent part: nothing, or `e` with a signed integer. -/
def exponent? : List Char → Option Int
  | [] => some 0
  | c :: cs =>
      if c = 'e' ∨ c = 'E' then
        let (negative, ds) := splitSign cs
        if ds.isEmpty ∨ ¬ ds.all Char.isDigit then none
        else
          let n : Int := digitsValue ds
          some (if negative then -n else n)
      else none

/-- Lower case of an ASCII letter. -/
def lower (cs : List Char) : List Char := cs.map Char.toLower

/-- Reads an unsigned number: the coefficient and its power of ten. -/
def magnitude? (cs : List Char) : Option (Nat × Int) :=
  let whole := cs.takeWhile Char.isDigit
  let rest := cs.dropWhile Char.isDigit
  let (part, tail) := match rest with
    | '.' :: more => (more.takeWhile Char.isDigit, more.dropWhile Char.isDigit)
    | more => ([], more)
  if whole.isEmpty ∧ part.isEmpty then none
  else (exponent? tail).map fun e => (digitsValue (whole ++ part), e - part.length)

end DecimalText

open DecimalText in
/-- Reads a number of the format. -/
def BinaryFormat.read? (F : BinaryFormat) (s : String) : Option Binary :=
  let (negative, cs) := splitSign s.toList
  let word := String.ofList (lower cs)
  if word = "inf" ∨ word = "infinity" then some (.infinite negative)
  else if word = "nan" then some .nan
  else (magnitude? cs).map fun (c, e) => F.ofDecimal negative c e

end PromptStream
