import PromptStream.Numeric.Shortest

/-!
# Written forms of floating-point values

All printers of this library write the shortest digits that read back.  They
differ in where the exponent form begins, in whether a whole number carries
`.0`, in the sign of the exponent and in the words for what is not finite.
Those choices are the fields of a `Layout`; `Layout.write` is the one printer.
-/

namespace PromptStream

/-- How the digits of a value are laid out as text. -/
structure Layout where
  /-- The format whose values are written. -/
  format : BinaryFormat
  /-- Where an exact tie between two shortest decimals goes. -/
  tie : TieRule
  /-- Decimal exponents `n` with `low ≤ n < high` are written in positional
  notation; with no bounds all are. -/
  positional : Option (Int × Int)
  /-- Whether a whole number in positional notation ends in `.0`. -/
  wholePoint : Bool
  /-- Whether a non-negative exponent carries a plus sign. -/
  plusSign : Bool
  /-- Whether a negative zero carries its sign. -/
  signedZero : Bool
  /-- The word for not-a-number. -/
  nan : String
  /-- The word for positive infinity. -/
  infinity : String
  /-- The word for negative infinity. -/
  negativeInfinity : String

/-! ## Digits -/

/-- The decimal digits of a natural number. -/
def decimalDigits (n : Nat) : List Char := Nat.toDigits 10 n

/-- An integer with a minus sign when negative. -/
def decimalInteger (n : Int) : String :=
  if n < 0 then "-" ++ toString n.natAbs else toString n.natAbs

namespace Layout

/-- Digits `ds`, of which the first stands at `10 ^ n`, without an exponent. -/
def positionalDigits (wholePoint : Bool) (ds : List Char) (n : Int) : List Char :=
  if n < 0 then
    '0' :: '.' :: (List.replicate (-n - 1).toNat '0' ++ ds)
  else
    let before := n.toNat + 1
    if ds.length ≤ before then
      ds ++ List.replicate (before - ds.length) '0' ++ (if wholePoint then ['.', '0'] else [])
    else ds.take before ++ '.' :: ds.drop before

/-- Digits `ds`, of which the first stands at `10 ^ n`, with an exponent. -/
def exponentDigits (plusSign : Bool) (ds : List Char) (n : Int) : List Char :=
  let mantissa := match ds with
    | d :: e :: rest => d :: '.' :: e :: rest
    | ds => ds
  let sign := if plusSign ∧ 0 ≤ n then ['+'] else []
  mantissa ++ 'e' :: (sign ++ (decimalInteger n).toList)

/-- The text of a positive decimal. -/
def writeDecimal (L : Layout) (d : Decimal) : List Char :=
  let ds := decimalDigits d.coefficient
  let n := d.exponent + ds.length - 1
  match L.positional with
  | none => positionalDigits L.wholePoint ds n
  | some (low, high) =>
      if low ≤ n ∧ n < high then positionalDigits L.wholePoint ds n
      else exponentDigits L.plusSign ds n

/-- The text of a value. -/
def write (L : Layout) : Binary → String
  | .nan => L.nan
  | .infinite false => L.infinity
  | .infinite true => L.negativeInfinity
  | .finite s m e =>
      if m = 0 then
        String.ofList
          ((if s ∧ L.signedZero then ['-'] else []) ++ positionalDigits L.wholePoint ['0'] 0)
      else
        String.ofList
          ((if s then ['-'] else []) ++ L.writeDecimal (L.format.shortest L.tie m e))

/-! ## The layouts in use -/

/-- Numbers in a prompt: whole numbers without a point, the exponent form
outside `[1e-6, 1e21)`, one zero. -/
def prompt : Layout where
  format := .double
  tie := .up
  positional := some (-6, 21)
  wholePoint := false
  plusSign := true
  signedZero := false
  nan := "NaN"
  infinity := "Infinity"
  negativeInfinity := "-Infinity"

/-- Numbers in JSON text: always a point or an exponent, and no value that is
not finite. -/
def json : Layout where
  format := .double
  tie := .even
  positional := some (-5, 16)
  wholePoint := true
  plusSign := true
  signedZero := true
  nan := "null"
  infinity := "null"
  negativeInfinity := "null"

/-- Numbers of the 32-bit format in JSON text. -/
def jsonSingle : Layout :=
  { json with format := .single, positional := some (-6, 13) }

/-- Sampling settings of a request: never an exponent. -/
def plainSingle : Layout where
  format := .single
  tie := .up
  positional := none
  wholePoint := false
  plusSign := false
  signedZero := true
  nan := "NaN"
  infinity := "inf"
  negativeInfinity := "-inf"

/-- Numbers in the display of a data structure. -/
def display : Layout where
  format := .double
  tie := .up
  positional := some (-4, 16)
  wholePoint := true
  plusSign := false
  signedZero := true
  nan := "NaN"
  infinity := "inf"
  negativeInfinity := "-inf"

end Layout

/-- The text of a number in a prompt. -/
def formatNumber (x : Binary) : String := Layout.prompt.write x

end PromptStream
