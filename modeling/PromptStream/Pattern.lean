import PromptStream.Pattern.Syntax

/-!
# Patterns

A pattern is a regular expression together with the text that spells it.  What
is asked of it is where its first match in a text begins.

`Pattern.escape` spells the pattern that matches a given text and nothing else.
-/

namespace PromptStream

/-- A regular expression with its source. -/
structure Pattern where
  /-- The text that spells it. -/
  source : String
  /-- The expression. -/
  node : Pattern.Node

namespace Pattern

/-- The pattern of a source, if it is one. -/
def compile? (source : String) : Option Pattern :=
  (read? source.toList).map fun node => ⟨source, node⟩

/-- The offset in bytes at which the first match in a text begins. -/
def findStart? (p : Pattern) (s : String) : Option Nat := p.node.findStart? s.toList

/-- A character as it is spelled in a pattern. -/
def escapeChar (c : Char) : List Char := if metaChars.contains c then ['\\', c] else [c]

/-- The pattern of a text. -/
def escape (s : String) : String := String.ofList (s.toList.flatMap escapeChar)

end Pattern

end PromptStream
