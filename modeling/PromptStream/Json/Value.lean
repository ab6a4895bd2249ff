import PromptStream.Dict
import PromptStream.Numeric.Binary

/-!
# JSON values

A number is a natural number or a negative integer of 64 bits, or a
floating-point value; which of them it is shows when it is written.  The
members of an object are written in the order in which they are held: values
that were read hold them sorted, records hold them in the order of their
fields.
-/

namespace PromptStream

/-- A JSON number. -/
inductive JsonNumber where
  /-- A natural number. -/
  | natural (n : Nat)
  /-- The negative integer `-n`. -/
  | negative (n : Nat)
  /-- A floating-point value. -/
  | float (x : Binary)
  /-- A floating-point value of the 32-bit format. -/
  | single (x : Binary)
  deriving DecidableEq, Repr

/-- A JSON value. -/
inductive Json where
  | null
  | bool (b : Bool)
  | number (n : JsonNumber)
  | text (s : String)
  | array (items : List Json)
  | object (members : List (String × Json))
  deriving Repr, Inhabited

namespace JsonNumber

/-- The number as a floating-point value. -/
def toDouble : JsonNumber → Binary
  | .natural n => BinaryFormat.double.ofNat n
  | .negative n => BinaryFormat.double.ofInt (-n)
  | .float x => x
  | .single x => x

end JsonNumber

namespace Json

/-- The member of an object under a name; other values have none. -/
def get? (name : String) : Json → Option Json
  | .object members => Dict.find? name members
  | _ => none

/-- The string that a value is, if it is one. -/
def text? : Json → Option String
  | .text s => some s
  | _ => none

/-- A natural number as a value. -/
def ofNat (n : Nat) : Json := .number (.natural n)

end Json

end PromptStream
