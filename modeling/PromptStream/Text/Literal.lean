import PromptStream.Text.Blank

/-!
# Literals of a template

Template literals are written indented along with the code around them, and a
source file may end its lines in either way.  Two small rewritings undo both:

* `normalizeLiteral`, applied once when a template is built, drops the blanks
  that follow a newline;
* `unixLines`, applied when a literal is emitted, turns each carriage return
  and newline into a newline.
-/

namespace PromptStream

/-- Drops every blank that stands in an unbroken run of blanks after a newline;
the first argument says whether such a run is open. -/
def collapseIndent : Bool → List Char → List Char
  | _, [] => []
  | true, c :: cs => if isBlank c then collapseIndent true cs else c :: collapseIndent false cs
  | false, c :: cs => c :: collapseIndent (c == '\n') cs

/-- A literal without the blanks that follow a newline. -/
def normalizeLiteral (s : String) : String := String.ofList (collapseIndent false s.toList)

/-- Replaces each carriage return that precedes a newline, together with it, by
a newline. -/
def dropReturns : List Char → List Char
  | '\r' :: '\n' :: cs => '\n' :: dropReturns cs
  | c :: cs => c :: dropReturns cs
  | [] => []

/-- A text whose lines end in a newline alone. -/
def unixLines (s : String) : String := String.ofList (dropReturns s.toList)

example : collapseIndent false ['a', '\n', '\n', ' ', 'b', ' '] = ['a', '\n', 'b', ' '] := by
  decide

end PromptStream
