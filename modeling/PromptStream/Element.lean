import PromptStream.Json.Record

/-!
# Prompt elements

An element is the unit that every part of a prompt produces: a piece of text,
who speaks it, and where it came from.
-/

namespace PromptStream

/-! ## Roles and sources -/

/-- Who speaks an element. -/
inductive Role where
  | system
  | user
  | assistant
  deriving DecidableEq, Repr, Inhabited

/-- Where the text of an element came from. -/
inductive Source where
  /-- A value placed in a template slot. -/
  | constant
  /-- A value computed by a function. -/
  | parameter
  /-- Literal text of a template. -/
  | prompt
  /-- Text generated by a model. -/
  | llm
  deriving DecidableEq, Repr, Inhabited

namespace Role

/-- The name of a role in transcripts and documents. -/
def name : Role → String
  | .system => "system"
  | .user => "user"
  | .assistant => "assistant"

/-- The role of a name. -/
def ofName? (s : String) : Option Role :=
  [Role.system, Role.user, Role.assistant].find? fun r => r.name == s

/-- The role that a document names. -/
def ofDocument? (d : Document) : Option Role :=
  (d.variant? ["system", "user", "assistant"]).bind ofName?

end Role

namespace Source

/-- The name of a source in documents. -/
def name : Source → String
  | .constant => "constant"
  | .parameter => "parameter"
  | .prompt => "prompt"
  | .llm => "llm"

/-- The source of a name. -/
def ofName? (s : String) : Option Source :=
  [Source.constant, Source.parameter, Source.prompt, Source.llm].find? fun x => x.name == s

/-- The source that a document names. -/
def ofDocument? (d : Document) : Option Source :=
  (d.variant? ["constant", "parameter", "prompt", "llm"]).bind ofName?

end Source

/-! ## Elements -/

/-- A piece of a prompt. -/
structure Element where
  /-- The text. -/
  content : String
  /-- Where the text came from. -/
  source : Source
  /-- Who speaks it. -/
  role : Role
  deriving DecidableEq, Repr, Inhabited

namespace Element

/-- An element as JSON. -/
def toJson (e : Element) : Json :=
  .object
    [("content", .text e.content), ("source", .text e.source.name), ("role", .text e.role.name)]

/-- The element that a document describes. -/
def ofDocument? (d : Document) : Option Element := do
  let r ← Record.ofDocument? ["content", "source", "role"] d
  let content ← r.required? "content" Document.text?
  let source ← r.required? "source" Source.ofDocument?
  let role ← r.required? "role" Role.ofDocument?
  return ⟨content, source, role⟩

end Element

end PromptStream
