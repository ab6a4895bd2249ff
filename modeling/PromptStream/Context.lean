import PromptStream.Element

/-!
# Contexts

A context is what a node of a prompt knows about its place: the role it speaks
in, the loop around it, where its results are recorded, its position, and the
model connector in use.  It never changes.  A child gets a context of its own,
by `fork`, which lays a patch over it, or by `descend`, which extends the
position.

A patch replaces what it sets.  Only the connector settings merge field by
field, so a patch may swap the connector and keep the chat flag.
-/

namespace PromptStream

/-- A connector of a run: its place among them and the name it goes by. -/
structure ConnectorRef where
  /-- The place among the connectors of the run. -/
  index : Nat
  /-- The name in logs. -/
  name : String
  deriving DecidableEq, Repr, Inhabited

/-- The connector of a subtree. -/
structure LlmContext where
  /-- The connector. -/
  completion : ConnectorRef
  /-- Whether prompts go out as chat messages. -/
  isChat : Bool
  deriving DecidableEq, Repr, Inhabited

/-- What a node knows about its place. -/
structure Context where
  /-- The role of elements. -/
  role : Role
  /-- The innermost loop. -/
  loopId : Option String
  /-- The address under which results are recorded. -/
  outputAddress : List String
  /-- The path of positions through lists and loop iterations. -/
  leafId : List Nat
  /-- The connector. -/
  llm : LlmContext
  /-- Whether completions are streamed, if that is decided. -/
  stream : Option Bool
  deriving DecidableEq, Repr, Inhabited

/-- Settings to lay over the connector of a context. -/
structure LlmPatch where
  /-- Another connector. -/
  completion : Option ConnectorRef
  /-- Another chat flag. -/
  isChat : Option Bool
  deriving DecidableEq, Repr, Inhabited

/-- Settings to lay over a context. -/
structure Patch where
  /-- Another role. -/
  role : Option Role := none
  /-- Another loop. -/
  loopId : Option String := none
  /-- Another address. -/
  outputAddress : Option (List String) := none
  /-- Another position. -/
  leafId : Option (List Nat) := none
  /-- Other connector settings. -/
  llm : Option LlmPatch := none
  /-- Another streaming flag. -/
  stream : Option Bool := none
  deriving DecidableEq, Repr, Inhabited

namespace LlmContext

/-- The settings with a patch laid over them. -/
def fork (c : LlmContext) : Option LlmPatch → LlmContext
  | none => c
  | some p => ⟨p.completion.getD c.completion, p.isChat.getD c.isChat⟩

end LlmContext

namespace Context

/-- The context at the root of a run. -/
def root (llm : LlmContext) (role : Role) (stream : Option Bool) : Context where
  role := role
  loopId := none
  outputAddress := []
  leafId := []
  llm := llm
  stream := stream

/-- The context with a patch laid over it. -/
def fork (c : Context) (p : Patch) : Context where
  role := p.role.getD c.role
  loopId := p.loopId.or c.loopId
  outputAddress := p.outputAddress.getD c.outputAddress
  leafId := p.leafId.getD c.leafId
  llm := c.llm.fork p.llm
  stream := p.stream.or c.stream

/-- The context one level deeper, at a position. -/
def descend (c : Context) (index : Nat) : Context := { c with leafId := c.leafId ++ [index] }

/-- The address of the context, extended. -/
def addressWith (c : Context) (segments : List String) : List String :=
  c.outputAddress ++ segments

end Context

namespace Patch

/-- The patch that sets the role. -/
def ofRole (role : Role) : Patch := { role := some role }

/-- The patch of iteration `i` of a loop, laid over the context around the
loop. -/
def iteration (c : Context) (id : String) (i : Nat) : Patch :=
  { loopId := some id, outputAddress := some (c.addressWith [id, toString i]) }

end Patch

end PromptStream
