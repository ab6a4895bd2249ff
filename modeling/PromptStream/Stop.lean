import PromptStream.Pattern
import PromptStream.Text.Blank
import PromptStream.Fault

/-!
# Stop patterns

A generation may be cut where a pattern first matches its text.  All that a
generation needs of a pattern is where its leftmost match starts, so a `Stop` is
that function together with the source of the pattern: the source is shown in
requests, and its length is how much text is held back while more may come.

The text that follows a slot of a template can act as a stop as well.  It is
then matched literally, beside the pattern if there is one.
-/

namespace PromptStream

/-- A stop pattern. -/
structure Stop where
  /-- The pattern as it was written. -/
  source : String
  /-- The byte offset at which the leftmost match in a text starts. -/
  find? : String → Option Nat

namespace Stop

/-- The stop of a regular expression. -/
def ofPattern (p : Pattern) : Stop := ⟨p.source, p.findStart?⟩

/-- The stop that a source describes, if it is a regular expression. -/
def compile? (source : String) : Option Stop := (Pattern.compile? source).map ofPattern

/-- The stop that a source describes, or why there is none. -/
def read (source : String) : Except Fault Stop :=
  match compile? source with
  | some stop => .ok stop
  | none => .error (.config (.invalidStop source))

/-- The source that matches either a pattern or a text. -/
def alternative (source : String) (text : String) : String :=
  "(?:" ++ source ++ ")|" ++ Pattern.escape text

/-- The stop in force, given the pattern of a generation and the text that is to
stop it, if any.  A pattern that cannot be combined with the text stays as it
is. -/
def withText? (stop : Option Stop) : Option String → Option Stop
  | none => stop
  | some text =>
      match stop with
      | some s => some ((compile? (alternative s.source text)).getD s)
      | none => compile? (Pattern.escape text)

end Stop

end PromptStream
