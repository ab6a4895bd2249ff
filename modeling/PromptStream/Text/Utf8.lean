/-!
# UTF-8

Bytes to characters, one byte at a time.  The decoder is a machine with two
kinds of states: between characters, and within one, where it holds the bits
read so far, the number of bytes still owed and the range the next byte must
lie in.  A byte outside that range ends the unfinished character as malformed
and is then read again as a first byte.  So each malformed stretch that is as
long as possible counts once, which is how the lossy reading replaces it.

* `Utf8.decodeLossy` puts U+FFFD for each malformed stretch.
* `Utf8.decode?` fails if there is one.
-/

namespace PromptStream

namespace Utf8

/-! ## The machine -/

/-- Where the machine stands between two bytes. -/
inductive State where
  /-- Between characters. -/
  | idle
  /-- Within a character: its bits so far, the bytes owed, and the least and
  greatest value of the next byte. -/
  | within (bits owed low high : Nat)
  deriving DecidableEq, Repr

/-- What one byte yields: characters, with none standing for a malformed
stretch. -/
abbrev Yield := List (Option Char)

/-- A first byte, read between characters. -/
def first (b : Nat) : Yield × State :=
  if b ≤ 0x7f then ([some (Char.ofNat b)], .idle)
  else if 0xc2 ≤ b ∧ b ≤ 0xdf then ([], .within (b - 0xc0) 1 0x80 0xbf)
  else if b = 0xe0 then ([], .within 0 2 0xa0 0xbf)
  else if b = 0xed then ([], .within 0xd 2 0x80 0x9f)
  else if 0xe1 ≤ b ∧ b ≤ 0xef then ([], .within (b - 0xe0) 2 0x80 0xbf)
  else if b = 0xf0 then ([], .within 0 3 0x90 0xbf)
  else if 0xf1 ≤ b ∧ b ≤ 0xf3 then ([], .within (b - 0xf0) 3 0x80 0xbf)
  else if b = 0xf4 then ([], .within 4 3 0x80 0x8f)
  else ([none], .idle)

/-- One byte in any state. -/
def step : State → Nat → Yield × State
  | .idle, b => first b
  | .within bits owed low high, b =>
      if low ≤ b ∧ b ≤ high then
        let bits := bits * 64 + (b - 0x80)
        if owed ≤ 1 then ([some (Char.ofNat bits)], .idle)
        else ([], .within bits (owed - 1) 0x80 0xbf)
      else
        let (cs, s) := first b
        (none :: cs, s)

/-- The end of the bytes: an unfinished character is malformed. -/
def finish : State → Yield
  | .idle => []
  | .within .. => [none]

/-- All bytes from a state on. -/
def run : State → List UInt8 → Yield
  | s, [] => finish s
  | s, b :: bs => (step s b.toNat).1 ++ run (step s b.toNat).2 bs

/-! ## Readings -/

/-- The characters of some bytes, U+FFFD for each malformed stretch. -/
def decodeLossy (bs : List UInt8) : List Char :=
  (run .idle bs).map (·.getD '\ufffd')

/-- The characters of some bytes, if none of them is malformed. -/
def decode? (bs : List UInt8) : Option (List Char) :=
  (run .idle bs).mapM id

/-- The bytes of a text. -/
def encode (s : String) : List UInt8 := s.toUTF8.toList

/-- Drops a byte order mark at the front. -/
def dropMark : List UInt8 → List UInt8
  | 0xef :: 0xbb :: 0xbf :: bs => bs
  | bs => bs

end Utf8

/-- The text of some bytes, with U+FFFD for each malformed stretch. -/
def textOfBytes (bs : List UInt8) : String := String.ofList (Utf8.decodeLossy bs)

example : Utf8.decodeLossy [0x61, 0xc3, 0xa9, 0xf0, 0x9f, 0x62] = ['a', 'é', '\ufffd', 'b'] := by
  decide

end PromptStream
