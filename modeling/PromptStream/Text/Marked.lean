import PromptStream.Text.Utf8

/-!
# Marked text

A body of text may tell its encoding by a byte order mark at its front: UTF-8,
or UTF-16 with either byte first.  Without a mark it is UTF-8.  The mark itself
is not part of the text, and whatever is malformed reads as U+FFFD.
-/

namespace PromptStream

namespace Utf16

/-- The character of two halves of a pair. -/
def pair (high low : Nat) : Char :=
  Char.ofNat (0x10000 + (high - 0xd800) * 0x400 + (low - 0xdc00))

/-- Whether a unit is the first half of a pair. -/
def isHigh (u : Nat) : Bool := 0xd800 ≤ u && u ≤ 0xdbff

/-- Whether a unit is the second half of a pair. -/
def isLow (u : Nat) : Bool := 0xdc00 ≤ u && u ≤ 0xdfff

/-- The characters of some units, given the first half of a pair that is still
open, if any.  A half without its partner is malformed. -/
def decodeUnits : Option Nat → List Nat → List Char
  | none, [] => []
  | some _, [] => ['\ufffd']
  | none, u :: us =>
      if isHigh u then decodeUnits (some u) us
      else if isLow u then '\ufffd' :: decodeUnits none us
      else Char.ofNat u :: decodeUnits none us
  | some h, u :: us =>
      if isLow u then pair h u :: decodeUnits none us
      else if isHigh u then '\ufffd' :: decodeUnits (some u) us
      else '\ufffd' :: Char.ofNat u :: decodeUnits none us

/-- The units of some bytes, and whether one byte is left over. -/
def units (bigEndian : Bool) : List UInt8 → List Nat × Bool
  | [] => ([], false)
  | [_] => ([], true)
  | a :: b :: rest =>
      let (us, odd) := units bigEndian rest
      let u := if bigEndian then a.toNat * 256 + b.toNat else b.toNat * 256 + a.toNat
      (u :: us, odd)

/-- The characters of some bytes.  A byte that is left over is malformed,
together with the half of a pair before it. -/
def decodeLossy (bigEndian : Bool) (bs : List UInt8) : List Char :=
  let (us, odd) := units bigEndian bs
  if odd && !(us.getLast?.any isHigh) then decodeUnits none us ++ ['\ufffd']
  else decodeUnits none us

end Utf16

/-- The characters of a body of text that may carry a mark. -/
def decodeMarked : List UInt8 → List Char
  | 0xfe :: 0xff :: bs => Utf16.decodeLossy true bs
  | 0xff :: 0xfe :: bs => Utf16.decodeLossy false bs
  | bs => Utf8.decodeLossy (Utf8.dropMark bs)

/-- The text of a body that may carry a mark. -/
def textOfMarked (bs : List UInt8) : String := String.ofList (decodeMarked bs)

example : decodeMarked [0xef, 0xbb, 0xbf, 0x61] = ['a'] := by decide

example : decodeMarked [0xff, 0xfe, 0x3d, 0xd8, 0x00, 0xde, 0x61] = ['😀', '\ufffd'] := by decide

end PromptStream
