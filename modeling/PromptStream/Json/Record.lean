import PromptStream.Json.Document

/-!
# Reading records from JSON documents

A record is an object with known names, or an array of its fields in order.  In
an object unknown members are ignored, but their names must be proper strings,
and a known name must not occur twice.  An array may not be longer than the
record.  A field that is missing from an object is `null`; a field that is
missing from an array is an error unless it has a default.
-/

namespace PromptStream

namespace Document

/-! ## Leaves -/

/-- A string. -/
def text? : Document → Option String
  | .text s => s
  | _ => none

/-- A truth value. -/
def bool? : Document → Option Bool
  | .bool b => some b
  | _ => none

/-- A number in range. -/
def number? : Document → Option JsonNumber
  | .number n => n.value?
  | _ => none

/-- A natural number below a bound, written as an integer. -/
def natBelow? (bound : Nat) (d : Document) : Option Nat :=
  match d.number? with
  | some (.natural n) => if n < bound then some n else none
  | _ => none

/-- A number of the 32-bit format.  Integers are rounded once, other numbers
are first rounded to 64 bits. -/
def single? (d : Document) : Option Binary :=
  match d.number? with
  | some (.natural n) => some (BinaryFormat.single.ofNat n)
  | some (.negative n) => some (BinaryFormat.single.ofInt (-n))
  | some (.float x) => some (BinaryFormat.single.ofBinary x)
  | some (.single x) => some x
  | none => none

/-- A value that may be `null`. -/
def optional? {α : Type} (read : Document → Option α) : Document → Option (Option α)
  | .null => some none
  | d => (read d).map some

/-- An array. -/
def list? {α : Type} (read : Document → Option α) : Document → Option (List α)
  | .array items => items.mapM read
  | _ => none

/-- One of some names: the name itself, or an object with that one name and
`null`. -/
def variant? (names : List String) : Document → Option String
  | .text (some s) => if s ∈ names then some s else none
  | .object [(some s, .null)] => if s ∈ names then some s else none
  | _ => none

end Document

/-! ## Records -/

/-- The fields of a record that were found. -/
structure Record where
  /-- The fields by name. -/
  fields : List (String × Document)
  /-- Whether the record was an array. -/
  positional : Bool

namespace Record

/-- Whether no name occurs twice. -/
def namesDistinct : List (String × Document) → Bool
  | [] => true
  | (k, _) :: rest => !(rest.any fun e => e.1 == k) && namesDistinct rest

/-- The members of an object whose name is known. -/
def known? (names : List String) :
    List (Option String × Document) → Option (List (String × Document))
  | [] => some []
  | (none, _) :: _ => none
  | (some k, d) :: rest =>
      (known? names rest).map fun fields => if k ∈ names then (k, d) :: fields else fields

/-- Reads a record with the given field names. -/
def ofDocument? (names : List String) : Document → Option Record
  | .object members =>
      match known? names members with
      | some fields => if namesDistinct fields then some ⟨fields, false⟩ else none
      | none => none
  | .array items =>
      if items.length ≤ names.length then some ⟨names.zip items, true⟩ else none
  | _ => none

/-- A field that must be there. -/
def required? {α : Type} (r : Record) (name : String) (read : Document → Option α) : Option α :=
  (r.fields.lookup name).bind read

/-- A field that may be `null`, and may be missing from an object. -/
def nullable? {α : Type} (r : Record) (name : String) (read : Document → Option α) :
    Option (Option α) :=
  match r.fields.lookup name with
  | some d => d.optional? read
  | none => if r.positional then none else some none

/-- A field with a default. -/
def default? {α : Type} (r : Record) (name : String) (value : α) (read : Document → Option α) :
    Option α :=
  match r.fields.lookup name with
  | some d => read d
  | none => some value

end Record

end PromptStream
