import PromptStream.Numeric.Binary

/-!
# Shortest decimals

The real numbers that round to a finite binary value form an interval around
it.  `shortest` finds a decimal with the fewest significant digits in that
interval and, among those, the one nearest to the value.  An exact tie between
two neighbours goes as the caller says.

For each number of digits there are only two candidates, the value's two
neighbours on that decimal grid: if any point of the grid lies in the interval,
one of them does.  So the search tries one digit, two digits, and so on, in
exact natural-number arithmetic.
-/

namespace PromptStream

/-- Where an exact tie between two decimals goes. -/
inductive TieRule where
  /-- To the larger magnitude. -/
  | up
  /-- To the even last digit. -/
  | even
  deriving DecidableEq, Repr

/-- A positive decimal `coefficient * 10 ^ exponent`. -/
structure Decimal where
  /-- The significant digits, as a number. -/
  coefficient : Nat
  /-- The power of ten. -/
  exponent : Int
  deriving DecidableEq, Repr

namespace Decimal

/-- Moves trailing zeros of the coefficient into the exponent.  The first
argument bounds the number of zeros moved. -/
def trimZeros : Nat → Decimal → Decimal
  | 0, d => d
  | n + 1, d =>
      if d.coefficient ≠ 0 ∧ d.coefficient % 10 = 0 then
        trimZeros n ⟨d.coefficient / 10, d.exponent + 1⟩
      else d

end Decimal

namespace Shortest

/-- Numerator and denominator of `n * 2 ^ p / 10 ^ t`. -/
def onGrid (n : Nat) (p t : Int) : Nat × Nat :=
  (n * Nat.pow 2 p.toNat * Nat.pow 10 (-t).toNat, Nat.pow 2 (-p).toNat * Nat.pow 10 t.toNat)

/-- Decimal exponent of `m * 2 ^ e`: the largest `n` with `10 ^ n` at most the
value. -/
def leadingExponent (m : Nat) (e : Int) : Int :=
  let guess : Int := ((Nat.log2 m : Int) + e) * 30103 / 100000
  let reaches (n : Int) : Bool :=
    let (num, den) := onGrid m e n
    den ≤ num
  if reaches (guess + 1) then guess + 1
  else if reaches guess then guess
  else guess - 1

/-- Whether `c * 10 ^ t` rounds to the value `m * 2 ^ e` of the format.  The
interval reaches half a unit to each side, or a quarter downward where the unit
below is half as large, and contains its ends when the mantissa is even. -/
def rounds (F : BinaryFormat) (m : Nat) (e : Int) (c : Nat) (t : Int) : Bool :=
  let narrow := m == Nat.pow 2 (F.precision - 1) && F.minExponent < e
  let low := if narrow then 4 * m - 1 else 4 * m - 2
  let (lowNum, lowDen) := onGrid low (e - 2) t
  let (highNum, highDen) := onGrid (4 * m + 2) (e - 2) t
  if m % 2 == 0 then lowNum ≤ c * lowDen && c * highDen ≤ highNum
  else lowNum < c * lowDen && c * highDen < highNum

/-- The better of the two neighbours of the value on the grid `10 ^ t`, if one
of them rounds to it. -/
def candidate? (F : BinaryFormat) (tie : TieRule) (m : Nat) (e t : Int) : Option Nat :=
  let (num, den) := onGrid m e t
  let c := num / den
  let r := num % den
  let below := rounds F m e c t && 0 < c
  let above := rounds F m e (c + 1) t
  match below, above with
  | true, true =>
      if 2 * r < den then some c
      else if den < 2 * r then some (c + 1)
      else match tie with
        | .up => some (c + 1)
        | .even => some (if c % 2 == 0 then c else c + 1)
  | true, false => some c
  | false, true => some (c + 1)
  | false, false => none

/-- Tries the grids from `10 ^ t` downward, the given number of them, and falls
back to the neighbour below on the last one. -/
def search (F : BinaryFormat) (tie : TieRule) (m : Nat) (e : Int) : Nat → Int → Decimal
  | 0, t =>
      let (num, den) := onGrid m e t
      ⟨num / den, t⟩
  | n + 1, t =>
      match candidate? F tie m e t with
      | some c => ⟨c, t⟩
      | none => search F tie m e n (t - 1)

end Shortest

/-- The shortest decimal that reads back as the positive value `m * 2 ^ e`. -/
def BinaryFormat.shortest (F : BinaryFormat) (tie : TieRule) (m : Nat) (e : Int) : Decimal :=
  (Shortest.search F tie m e 18 (Shortest.leadingExponent m e)).trimZeros 20

example : BinaryFormat.double.shortest .up 7205759403792794 (-56) = ⟨1, -1⟩ := by decide +kernel

example : BinaryFormat.double.shortest .up 1 (-1074) = ⟨5, -324⟩ := by decide +kernel

end PromptStream
