import PromptStream.Unicode.CategoryTable

/-!
# Binary properties

A property holds of the characters of some general categories, except for a set
of characters where it is the other way round.
-/

namespace PromptStream

namespace Unicode

/-- A binary property of characters. -/
structure Property where
  /-- Its names, in lower case and without separators. -/
  names : List String
  /-- The categories that it follows. -/
  categories : List Category := []
  /-- The runs where it is the other way round. -/
  exceptions : List (Nat × Nat)
  deriving DecidableEq, Repr, Inhabited

namespace Property

/-- Whether a property holds of a character. -/
def holds (p : Property) (c : Char) : Bool :=
  p.categories.contains (Category.ofChar c) != inRuns c.toNat p.exceptions

end Property

end Unicode

end PromptStream
