import PromptStream.Json.Record

/-!
# Reading JSON values

`Json.read?` evaluates a whole document: every numeral must be in range, every
string proper, and nesting is limited.  Of members with one name the last one
counts.
-/

namespace PromptStream

namespace Json

/-- How many containers may be nested. -/
def maxDepth : Nat := 127

mutual

/-- The value of a document with at most the given number of nested
containers. -/
def ofDocument? (depth : Nat) : Document → Option Json
  | .null => some .null
  | .bool b => some (.bool b)
  | .number n => n.value?.map .number
  | .text s => s.map .text
  | .array items =>
      match depth with
      | 0 => none
      | depth + 1 => (ofItems? depth items).map .array
  | .object members =>
      match depth with
      | 0 => none
      | depth + 1 => (ofMembers? depth members).map fun ms => .object (Dict.ofList ms)

/-- The values of the items of an array. -/
def ofItems? (depth : Nat) : List Document → Option (List Json)
  | [] => some []
  | d :: rest =>
      match ofDocument? depth d, ofItems? depth rest with
      | some v, some vs => some (v :: vs)
      | _, _ => none

/-- The values of the members of an object. -/
def ofMembers? (depth : Nat) : List (Option String × Document) → Option (List (String × Json))
  | [] => some []
  | (k, d) :: rest =>
      match k, ofDocument? depth d, ofMembers? depth rest with
      | some k, some v, some vs => some ((k, v) :: vs)
      | _, _, _ => none

end

/-- The value that a text spells. -/
def read? (s : String) : Option Json := (Document.read? s).bind (ofDocument? maxDepth)

end Json

end PromptStream
