import PromptStream.Element

/-!
# Events

The helpers of a run report what they do as events.  Handlers observe them and
cannot change a run, so a handler is a function from an event to the notes it
takes, and handlers combine by taking their notes one after the other.
-/

namespace PromptStream

/-- Something that a helper reports. -/
inductive Event where
  /-- A generation is about to ask for a completion. -/
  | generationStarted (name : String) (address : List String) (role : Role)
  /-- A generation emitted some text. -/
  | generationDelta (name : String) (delta : String)
  /-- A generation has recorded its result. -/
  | generationFinished (name : String) (text : String) (choices : Nat)
  /-- A loop starts an iteration. -/
  | loopIteration (id : String) (iteration : Nat)
  /-- A loop has ended after a number of iterations. -/
  | loopFinished (id : String) (iterations : Nat)
  /-- A queue item is waited for. -/
  | waiting (key : String) (index : Nat)
  /-- A queue item was emitted. -/
  | itemConsumed (key : String) (index : Nat)
  deriving DecidableEq, Repr

/-- An observer of events that takes notes. -/
abbrev EventHandler (ν : Type) := Event → List ν

namespace EventHandler

variable {ν : Type}

/-- The handler that takes no notes. -/
def none : EventHandler ν := fun _ => []

/-- The handlers of a list, one after another. -/
def composite (handlers : List (EventHandler ν)) : EventHandler ν :=
  fun e => handlers.flatMap (· e)

end EventHandler

end PromptStream
