import PromptStream.Element
import PromptStream.Text.Literal

/-!
# Prompts

A prompt is the sequence of elements consumed so far, in order.  A model sees
it in one of two forms.  As plain text it is the concatenation of the contents;
as a chat it is one message for each *role group*, a longest run of neighbours
with one role.
-/

namespace PromptStream

/-- The elements consumed so far. -/
abbrev Prompt := List Element

/-- A chat message: who speaks and what. -/
structure ChatMessage where
  /-- Who speaks. -/
  role : Role
  /-- The text. -/
  content : String
  deriving DecidableEq, Repr

/-- An element as it leaves the store of literals: its lines end in a newline
alone. -/
def Element.stored (e : Element) : Element := { e with content := unixLines e.content }

namespace Prompt

/-- The contents of some elements, one after another. -/
def text (p : Prompt) : String := String.join (p.map (·.content))

/-- The longest runs of neighbours that share a role. -/
def roleGroups : Prompt → List (List Element)
  | [] => []
  | e :: rest =>
      match roleGroups rest with
      | (f :: run) :: groups =>
          if e.role = f.role then (e :: f :: run) :: groups else [e] :: (f :: run) :: groups
      | groups => [e] :: groups

/-- The message of a role group. -/
def messageOfGroup? : List Element → Option ChatMessage
  | [] => none
  | e :: run => some ⟨e.role, text (e :: run)⟩

/-- One message for each role group. -/
def messages (p : Prompt) : List ChatMessage := (roleGroups p).filterMap messageOfGroup?

/-- The text of the last role group of a role. -/
def lastContent? (p : Prompt) (role : Role) : Option String :=
  ((roleGroups p).filter fun g => g.head?.any (·.role == role)).getLast?.map text

/-- A prompt as JSON. -/
def toJson (p : Prompt) : Json := .object [("elements", .array (p.map Element.toJson))]

end Prompt

namespace ChatMessage

/-- A message as JSON. -/
def toJson (m : ChatMessage) : Json :=
  .object [("role", .text m.role.name), ("content", .text m.content)]

end ChatMessage

end PromptStream
