import PromptStream.Completion
import PromptStream.Provider.Settings

/-!
# Request bodies

A request goes to one of two endpoints.  In a chat the prompt becomes one
message for each role group, otherwise it is one text.  What the request leaves
open is taken from the settings, and what both leave open is left out.  The stop
pattern is not sent: the engine cuts the answer itself.
-/

namespace PromptStream

namespace Provider

/-- The body of a request. -/
structure Body where
  /-- The model. -/
  model : String
  /-- The prompt of a chat. -/
  messages : Option (List ChatMessage)
  /-- The prompt as one text. -/
  prompt : Option String
  /-- The most tokens to generate. -/
  maxTokens : Option Nat
  /-- The sampling temperature. -/
  temperature : Option Binary
  /-- The sampling threshold. -/
  topP : Option Binary
  /-- Whether the answer is to be streamed. -/
  stream : Bool
  deriving DecidableEq, Repr

namespace Body

/-- The body of a request. -/
def ofRequest (s : Settings) (r : Request) : Body where
  model := r.model.getD s.model
  messages := if r.isChat then some (Prompt.messages r.prompt) else none
  prompt := if r.isChat then none else some (Prompt.text r.prompt)
  maxTokens := r.maxTokens.or s.maxTokens
  temperature := s.temperature
  topP := r.topP.or s.topP
  stream := r.stream

/-- A member that is left out when it has no value. -/
def member {α : Type} (name : String) (value : Option α) (json : α → Json) :
    List (String × Json) :=
  (value.map fun v => (name, json v)).toList

/-- A body as JSON. -/
def toJson (b : Body) : Json :=
  .object <|
    ("model", .text b.model)
      :: (member "messages" b.messages (fun ms => .array (ms.map ChatMessage.toJson))
        ++ member "prompt" b.prompt .text
        ++ member "max_tokens" b.maxTokens .ofNat
        ++ member "temperature" b.temperature (fun x => .number (.single x))
        ++ member "top_p" b.topP (fun x => .number (.single x))
        ++ (if b.stream then [("stream", .bool true)] else []))

end Body

end Provider

end PromptStream
