import PromptStream.Fault
import PromptStream.Numeric.Binary
import PromptStream.Prompt
import PromptStream.Stop

/-!
# Completions

A connector answers a request with a feed of deltas, pieces of text for one of
several choices.  The engine asks a connector for a feed and takes signals from
it one by one: a delta, a failure, or the notice that nothing has arrived yet.

Three connectors need no model.  A scripted one replays replies and fails when
there are none left, an echo repeats the last user message word by word, and an
answering one computes its feed from the request.
-/

namespace PromptStream

/-! ## Feeds -/

/-- What one poll of an outside source brings. -/
inductive Signal (α : Type) where
  /-- An item. -/
  | item (a : α)
  /-- A failure. -/
  | failed (fault : Fault)
  /-- Nothing yet. -/
  | pending
  deriving DecidableEq, Repr

/-- The signals that an outside source will bring. -/
abbrev Feed (α : Type) := List (Signal α)

/-- A piece of text for one choice. -/
structure Delta where
  /-- The choice. -/
  choice : Nat
  /-- The text. -/
  text : String
  deriving DecidableEq, Repr

/-- One past the largest number of a choice, which is a machine word. -/
def choiceBound : Nat := Nat.pow 2 64

/-! ## Requests -/

/-- What a connector needs to produce a completion. -/
structure Request where
  /-- The prompt as consumed so far. -/
  prompt : Prompt
  /-- The most tokens to generate. -/
  maxTokens : Option Nat
  /-- The sampling threshold. -/
  topP : Option Binary
  /-- The pattern at which the first choice is cut. -/
  stop : Option Stop
  /-- Whether the answer is to be streamed. -/
  stream : Bool
  /-- Whether the prompt goes out as chat messages. -/
  isChat : Bool
  /-- The model, if not the one of the connector. -/
  model : Option String

/-! ## Connectors -/

/-- How a connector answers. -/
inductive Script where
  /-- With the next of some replies. -/
  | replies (left : List (List Delta))
  /-- With the last user message. -/
  | echo
  /-- With a feed that depends on the number of earlier requests and on the
  request. -/
  | answers (answer : Nat → Request → Feed Delta)

/-- A model connector, with the requests it has received, oldest first. -/
structure Connector where
  /-- The name in logs. -/
  name : String
  /-- How it answers. -/
  script : Script
  /-- The requests received. -/
  requests : List Request := []

/-- Cuts after every space, the last piece being what follows the last one. -/
def splitAfterSpaces : List Char → List (List Char)
  | [] => []
  | c :: cs =>
      if c = ' ' then [c] :: splitAfterSpaces cs
      else match splitAfterSpaces cs with
        | [] => [[c]]
        | piece :: pieces => (c :: piece) :: pieces

/-- The deltas of an echo: the last user message, word by word. -/
def echoDeltas (p : Prompt) : List Delta :=
  (splitAfterSpaces ((Prompt.lastContent? p .user).getD "").toList).map fun w =>
    ⟨0, String.ofList w⟩

namespace Connector

/-- The name of scripted and echoing connectors. -/
def scriptedName : String := "scripted"

/-- The name of connectors given as a function. -/
def functionName : String := "completion"

/-- A connector that replays replies. -/
def scripted (replies : List (List Delta)) : Connector := ⟨scriptedName, .replies replies, []⟩

/-- A connector that repeats the last user message. -/
def echo : Connector := ⟨scriptedName, .echo, []⟩

/-- A connector given as a function. -/
def answering (answer : Nat → Request → Feed Delta) : Connector :=
  ⟨functionName, .answers answer, []⟩

/-- The number of scripted replies that are left. -/
def remaining (c : Connector) : Nat :=
  match c.script with
  | .replies left => left.length
  | _ => 0

/-- The feed that answers a request, and the connector afterwards. -/
def complete (c : Connector) (request : Request) : Feed Delta × Connector :=
  let c' := { c with requests := c.requests ++ [request] }
  match c.script with
  | .replies [] => ([.failed (.completion .noReplyLeft)], c')
  | .replies (reply :: left) => (reply.map .item, { c' with script := .replies left })
  | .echo => ((echoDeltas request.prompt).map .item, c')
  | .answers answer => (answer c.requests.length request, c')

end Connector

end PromptStream
