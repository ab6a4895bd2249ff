/-!
# Binary floating-point values

A number of a binary format is kept as what it means and not as its bits: a
sign, a mantissa and a power of two.  The representation is canonical, so two
values of one format are equal exactly when they are the same number with the
same sign of zero.

`BinaryFormat.round` takes any non-negative fraction to the nearest value of a
format, with ties to the even mantissa.  Everything else that produces a value
(reading a decimal, converting an integer, narrowing to a smaller format, one
multiplication or division) computes an exact fraction and rounds it once.
-/

namespace PromptStream

/-! ## Formats and values -/

/-- A binary floating-point format. -/
structure BinaryFormat where
  /-- Number of mantissa bits, the leading one included. -/
  precision : Nat
  /-- The exponent of the smallest positive value. -/
  minExponent : Int
  /-- The exponent of the largest finite value. -/
  maxExponent : Int

namespace BinaryFormat

/-- The 64-bit format. -/
def double : BinaryFormat := ⟨53, -1074, 971⟩

/-- The 32-bit format. -/
def single : BinaryFormat := ⟨24, -149, 104⟩

end BinaryFormat

/-- A floating-point value.  `finite s m e` is `m * 2 ^ e`, negated when `s`. -/
inductive Binary where
  /-- Not a number. -/
  | nan
  /-- An infinity. -/
  | infinite (negative : Bool)
  /-- A finite value, zero included. -/
  | finite (negative : Bool) (mantissa : Nat) (exponent : Int)
  deriving DecidableEq, Repr, Inhabited

namespace Binary

/-- Whether the value is neither an infinity nor a NaN. -/
def isFinite : Binary → Bool
  | .finite .. => true
  | _ => false

/-- Whether the value is a zero of either sign. -/
def isZero : Binary → Bool
  | .finite _ m _ => m == 0
  | _ => false

/-- The value with its sign flipped. -/
def negate : Binary → Binary
  | .nan => .nan
  | .infinite s => .infinite !s
  | .finite s m e => .finite (!s) m e

/-- The magnitude as an exact fraction, for finite values. -/
def fraction? : Binary → Option (Nat × Nat)
  | .finite _ m e => some (m * Nat.pow 2 e.toNat, Nat.pow 2 (-e).toNat)
  | _ => none

end Binary

/-! ## Rounding -/

/-- Quotient of two naturals rounded to the nearest integer, ties to even. -/
def divNearestEven (num den : Nat) : Nat :=
  let q := num / den
  let r := num % den
  if 2 * r < den then q
  else if den < 2 * r then q + 1
  else if q % 2 == 0 then q else q + 1

namespace BinaryFormat

/-- The exponent at which `num / den` has a mantissa of exactly `precision`
bits, or the smallest exponent of the format if that is larger. -/
def exponentFor (F : BinaryFormat) (num den : Nat) : Int :=
  let guess : Int := (Nat.log2 num : Int) - Nat.log2 den - (F.precision - 1)
  let whole := (num * Nat.pow 2 (-guess).toNat) / (den * Nat.pow 2 guess.toNat)
  let exact := if whole < Nat.pow 2 (F.precision - 1) then guess - 1 else guess
  max exact F.minExponent

/-- The value of the format nearest to `num / den`. -/
def round (F : BinaryFormat) (negative : Bool) (num den : Nat) : Binary :=
  if num = 0 then .finite negative 0 F.minExponent
  else
    let e := F.exponentFor num den
    let m := divNearestEven (num * Nat.pow 2 (-e).toNat) (den * Nat.pow 2 e.toNat)
    let (m, e) := if m = Nat.pow 2 F.precision then (Nat.pow 2 (F.precision - 1), e + 1) else (m, e)
    if F.maxExponent < e then .infinite negative else .finite negative m e

/-- The value nearest to a natural number. -/
def ofNat (F : BinaryFormat) (n : Nat) : Binary := F.round false n 1

/-- The value nearest to an integer. -/
def ofInt (F : BinaryFormat) (n : Int) : Binary := F.round (n < 0) n.natAbs 1

/-- A value of any format, rounded to this one. -/
def ofBinary (F : BinaryFormat) : Binary → Binary
  | .nan => .nan
  | .infinite s => .infinite s
  | .finite s m e => F.round s (m * Nat.pow 2 e.toNat) (Nat.pow 2 (-e).toNat)

/-- Product of two finite magnitudes, rounded once; the sign of the first is
kept. -/
def scaleUp (F : BinaryFormat) (x y : Binary) : Binary :=
  match x, y with
  | .finite s m e, .finite _ m' e' =>
      F.round s (m * m' * Nat.pow 2 (e + e').toNat) (Nat.pow 2 (-(e + e')).toNat)
  | x, _ => x

/-- Quotient of two finite magnitudes, the second not zero, rounded once; the
sign of the first is kept. -/
def scaleDown (F : BinaryFormat) (x y : Binary) : Binary :=
  match x, y with
  | .finite s m e, .finite _ m' e' =>
      F.round s (m * Nat.pow 2 (e - e').toNat) (m' * Nat.pow 2 (-(e - e')).toNat)
  | x, _ => x

end BinaryFormat

example : BinaryFormat.double.ofNat 1 = .finite false (2 ^ 52) (-52) := by decide +kernel

example : BinaryFormat.double.round false 1 10 = .finite false 7205759403792794 (-56) := by
  decide +kernel

end PromptStream
