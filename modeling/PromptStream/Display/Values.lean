import PromptStream.Display.Shape
import PromptStream.Engine.Run
import PromptStream.Provider.Client

/-!
# The shapes of values

How inputs, contexts, states, results and clients are shown.  Connectors are
shown by their names, and author code and streams by what they are.
-/

namespace PromptStream

variable {φ : Type}

/-! ## JSON -/

mutual

/-- A JSON value. -/
def Json.shape : Json → Shape
  | .null => .word "Null"
  | .bool b => .call "Bool" [.bool b]
  | .number n => .call "Number" [.word (String.ofList (Json.writeNumber n))]
  | .text s => .call "String" [.quoted s]
  | .array items => .titled "Array" (.list (Json.shapes items))
  | .object members => .titled "Object" (.table (Json.memberShapes members))

/-- JSON values in order. -/
def Json.shapes : List Json → List Shape
  | [] => []
  | v :: rest => v.shape :: Json.shapes rest

/-- JSON values by their names. -/
def Json.memberShapes : List (String × Json) → List (String × Shape)
  | [] => []
  | (k, v) :: rest => (k, v.shape) :: Json.memberShapes rest

end

/-! ## Inputs -/

mutual

/-- An input. -/
def Input.shape : Input φ → Shape
  | .number x => .call "Number" [.word (Layout.display.write x)]
  | .text s => .call "Text" [.quoted s]
  | .list items => .call "List" [.list (Input.shapes items)]
  | .null => .word "null"
  | .stream _ => .word "stream"
  | .function _ => .word "function"
  | .deferred _ => .word "deferred"
  | .action _ => .word "action"

/-- Inputs in order. -/
def Input.shapes : List (Input φ) → List Shape
  | [] => []
  | i :: rest => i.shape :: Input.shapes rest

end

/-- A slot of a template. -/
def Slot.shape (s : Slot φ) : Shape := .call "Slot" [.option Input.shape s]

/-- How every action is shown. -/
def Action.shape : Action φ → Shape := fun _ => .word "Action"

/-- How every scope is shown. -/
def Scope.shape : Scope → Shape := fun _ => .word "TemplateFactory"

/-- When a loop ends. -/
def LoopOptions.shape (o : LoopOptions φ) : Shape :=
  .record "LoopOptions"
    [("max_iterations", .option .nat o.maxIterations), ("until", .bool o.until?.isSome)] false

/-! ## Contexts -/

/-- A role. -/
def Role.shape : Role → Shape
  | .system => .word "System"
  | .user => .word "User"
  | .assistant => .word "Assistant"

/-- A connector. -/
def ConnectorRef.shape (c : ConnectorRef) : Shape := .quoted c.name

/-- A position. -/
def leafShape (leafId : List Nat) : Shape := .list (leafId.map .nat)

/-- The connector of a subtree. -/
def LlmContext.shape (c : LlmContext) : Shape :=
  .record "LlmContext" [("completion", c.completion.shape), ("is_chat", .bool c.isChat)] false

/-- A context. -/
def Context.shape (c : Context) : Shape :=
  .record "Context"
    [("role", c.role.shape),
     ("current_loop_id", .option .quoted c.loopId),
     ("output_address", .quotedList c.outputAddress),
     ("leaf_id", leafShape c.leafId),
     ("llm", c.llm.shape),
     ("stream", .option .bool c.stream)] false

/-- Settings to lay over a connector. -/
def LlmPatch.shape (p : LlmPatch) : Shape :=
  .record "LlmPatch"
    [("completion", .option ConnectorRef.shape p.completion),
     ("is_chat", .option .bool p.isChat)] false

/-- Settings to lay over a context. -/
def Patch.shape (p : Patch) : Shape :=
  .record "ContextPatch"
    [("role", .option Role.shape p.role),
     ("current_loop_id", .option .quoted p.loopId),
     ("output_address", .option .quotedList p.outputAddress),
     ("leaf_id", .option leafShape p.leafId),
     ("llm", .option LlmPatch.shape p.llm),
     ("stream", .option .bool p.stream)] false

/-- Props. -/
def Props.shape (p : Props) : Shape :=
  .record "ActionProps"
    [("context", p.context.shape),
     ("params", p.params.shape),
     ("next_string", .option .quoted p.nextLiteral)] true

/-- Root settings. -/
def Llm.shape (l : Llm) : Shape :=
  .record "Llm"
    [("completion", l.completion.shape),
     ("is_chat", .bool l.isChat),
     ("stream", .option .bool l.stream),
     ("role", l.role.shape)] true

/-! ## State and results -/

/-- The status of a loop. -/
def LoopStatus.shape : LoopStatus → Shape
  | .notRunning => .word "NotRunning"
  | .iteration i => .call "Iteration" [.nat i]

/-- The state of a run. -/
def RunState.shape (s : RunState) : Shape :=
  .call "SharedState"
    [.record "State"
      [("loops", .table (s.loops.map fun (id, x) => (id, x.shape))),
       ("queue", .table (s.queue.map fun (key, xs) => (key, .list (Json.shapes xs))))] false]

mutual

/-- A result, or a level of the tree of results. -/
def OutputValue.shape : OutputValue → Shape
  | .text s => .call "Text" [.quoted s]
  | .textList items => .call "TextList" [.quotedList items]
  | .nested entries => .call "Nested" [.call "Outputs" [.table (OutputValue.entryShapes entries)]]
  | .nestedList items => .call "NestedList" [.list (OutputValue.treeShapes items)]

/-- The entries of a tree of results. -/
def OutputValue.entryShapes : List (String × OutputValue) → List (String × Shape)
  | [] => []
  | (k, v) :: rest => (k, v.shape) :: OutputValue.entryShapes rest

/-- Trees of results in order. -/
def OutputValue.treeShapes : List (List (String × OutputValue)) → List Shape
  | [] => []
  | o :: rest =>
      .call "Outputs" [.table (OutputValue.entryShapes o)] :: OutputValue.treeShapes rest

end

/-- The results of a run. -/
def Outputs.shape (o : Outputs) : Shape :=
  .call "SharedOutputs" [.call "Outputs" [.table (OutputValue.entryShapes o)]]

/-! ## Clients -/

/-- A client of the service, without its key. -/
def Provider.Client.shape (c : Provider.Client) : Shape :=
  .record "OpenRouterClient" [("referer", .quoted c.referer), ("title", .quoted c.title)] true

end PromptStream
