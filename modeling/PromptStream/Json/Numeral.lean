import PromptStream.Json.Value
import PromptStream.Numeric.Reading

/-!
# Numerals of JSON text

A numeral is checked when it is scanned, but its value is computed only where
it is read: a number of any size may stand in a part of a document that nobody
looks at.

An integer that fits in 64 bits is that integer.  Every other numeral is
approximated by floating-point arithmetic from the digits that fit into 64 bits
and a power of ten, with one rounding for each operation; where the result
would be infinite the numeral has no value.
-/

namespace PromptStream

/-- A number as it is written.  Without a point `fraction` is empty. -/
structure Numeral where
  /-- Whether a minus sign stands in front. -/
  negative : Bool
  /-- The digits before the point. -/
  whole : List Char
  /-- The digits after the point. -/
  fraction : List Char
  /-- The sign and the digits of the exponent. -/
  exponent : Option (Bool × List Char)
  deriving DecidableEq, Repr

namespace Numeral

/-! ## Scanning -/

/-- An exponent part, or nothing at all. -/
def exponent? : List Char → Option (Option (Bool × List Char))
  | [] => some none
  | c :: cs =>
      if c = 'e' ∨ c = 'E' then
        let (negative, ds) := DecimalText.splitSign cs
        if ds.isEmpty ∨ ¬ ds.all Char.isDigit then none else some (some (negative, ds))
      else none

/-- The numeral that some characters spell. -/
def ofChars? (cs : List Char) : Option Numeral :=
  let (negative, cs) := match cs with
    | '-' :: rest => (true, rest)
    | cs => (false, cs)
  let whole := cs.takeWhile Char.isDigit
  let rest := cs.dropWhile Char.isDigit
  let leadingZero := match whole with
    | '0' :: _ :: _ => true
    | _ => false
  if whole.isEmpty ∨ leadingZero then none
  else match rest with
    | '.' :: more =>
        let fraction := more.takeWhile Char.isDigit
        if fraction.isEmpty then none
        else (exponent? (more.dropWhile Char.isDigit)).map fun e => ⟨negative, whole, fraction, e⟩
    | rest => (exponent? rest).map fun e => ⟨negative, whole, [], e⟩

/-! ## Values -/

/-- Appends digits to a significand as long as it stays below 2^64; the digits
that are left over start with the first one that does not fit. -/
def accumulate : Nat → List Char → Nat × List Char
  | n, [] => (n, [])
  | n, d :: ds =>
      let next := 10 * n + (d.toNat - 48)
      if next < Nat.pow 2 64 then accumulate next ds else (n, d :: ds)

/-- The power of ten `10 ^ k`, rounded to a floating-point value. -/
def powerOfTen (k : Nat) : Binary := BinaryFormat.double.ofNat (Nat.pow 10 k)

/-- Divides by powers of ten until the exponent is used up.  The first argument
bounds the number of divisions. -/
def divideDown : Nat → Binary → Nat → Binary
  | 0, x, _ => x
  | n + 1, x, k =>
      if k ≤ 308 then BinaryFormat.double.scaleDown x (powerOfTen k)
      else if x.isZero then x
      else divideDown n (BinaryFormat.double.scaleDown x (powerOfTen 308)) (k - 308)

/-- A significand scaled by a power of ten. -/
def scale? (significand : Nat) (exponent : Int) : Option Binary :=
  let x := BinaryFormat.double.ofNat significand
  if 0 ≤ exponent then
    if exponent ≤ 308 then
      let y := BinaryFormat.double.scaleUp x (powerOfTen exponent.toNat)
      if y.isFinite then some y else none
    else if x.isZero then some x
    else none
  else some (divideDown 8 x (-exponent).toNat)

/-- The largest exponent that is computed with. -/
def exponentBound : Nat := Nat.pow 2 31

/-- The value of a significand and of the exponent part that follows it. -/
def withExponent? (significand : Nat) (start : Int) : Option (Bool × List Char) → Option Binary
  | none => scale? significand start
  | some (negative, ds) =>
      let e := digitsValue ds
      if exponentBound ≤ e then
        if significand ≠ 0 ∧ ¬ negative then none else some (BinaryFormat.double.ofNat 0)
      else scale? significand (if negative then start - e else start + e)

/-- The magnitude as a floating-point value. -/
def magnitude? (n : Numeral) : Option Binary :=
  let (whole, left) := accumulate 0 n.whole
  let (significand, unused) := accumulate whole n.fraction
  withExponent? significand (left.length - (n.fraction.length - unused.length : Nat)) n.exponent

/-- Whether the numeral has neither a fraction nor an exponent. -/
def isInteger (n : Numeral) : Bool := n.fraction.isEmpty && n.exponent.isNone

/-- The number that a numeral denotes, if it is in range. -/
def value? (n : Numeral) : Option JsonNumber :=
  let (whole, left) := accumulate 0 n.whole
  if n.isInteger ∧ left.isEmpty then
    if ¬ n.negative then some (.natural whole)
    else if 0 < whole ∧ whole ≤ Nat.pow 2 63 then some (.negative whole)
    else some (.float (BinaryFormat.double.ofNat whole).negate)
  else n.magnitude?.map fun x => .float (if n.negative then x.negate else x)

end Numeral

end PromptStream
