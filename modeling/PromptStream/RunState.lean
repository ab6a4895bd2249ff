import PromptStream.Json.Writer

/-!
# Run state

Besides outputs, the nodes of a run share two things: the status of every loop,
and queues of items pushed from outside.  Queues only ever grow, so the item at
a position never changes once it is there.

A *waiter* waits for the item at a position of a queue.  It is told of pushes
by a signal that reaches exactly the waiters listening at that moment.  As
every push adds one item and none is removed, the number of items tells how
many signals there have been, and a waiter that started to listen at one count
has been told exactly when the count has changed.
-/

namespace PromptStream

/-- The status of a loop. -/
inductive LoopStatus where
  /-- The loop has ended. -/
  | notRunning
  /-- The iteration being produced. -/
  | iteration (i : Nat)
  deriving DecidableEq, Repr, Inhabited

/-- Loop statuses and queues. -/
structure RunState where
  /-- The status of each loop that was ever entered. -/
  loops : Dict LoopStatus := []
  /-- The items pushed under each key, oldest first. -/
  queue : Dict (List Json) := []
  deriving Inhabited

namespace RunState

/-- Sets the status of a loop. -/
def setLoop (s : RunState) (id : String) (status : LoopStatus) : RunState :=
  { s with loops := s.loops.insert id status }

/-- The status of a loop. -/
def loopStatus? (s : RunState) (id : String) : Option LoopStatus := s.loops.find? id

/-- The iteration of a loop that is running; zero otherwise. -/
def currentIteration (s : RunState) (id : Option String) : Nat :=
  match id.bind s.loopStatus? with
  | some (.iteration i) => i
  | _ => 0

/-- The items pushed under a key. -/
def items (s : RunState) (key : String) : List Json := (s.queue.find? key).getD []

/-- Adds an item at the end of a queue. -/
def push (s : RunState) (key : String) (item : Json) : RunState :=
  { s with queue := s.queue.insert key (s.items key ++ [item]) }

/-- The item at a position of a queue. -/
def item? (s : RunState) (key : String) (index : Nat) : Option Json := (s.items key)[index]?

/-- The number of pushes so far. -/
def pushCount (s : RunState) : Nat := s.queue.foldl (fun n e => n + e.2.length) 0

/-! ## JSON -/

/-- A loop status as JSON: `false` or the iteration. -/
def statusJson : LoopStatus → Json
  | .notRunning => .bool false
  | .iteration i => .ofNat i

/-- The loop statuses as JSON. -/
def loopsJson (s : RunState) : Json := .object (s.loops.map fun (id, x) => (id, statusJson x))

/-- The queues as JSON. -/
def queueJson (s : RunState) : Json := .object (s.queue.map fun (key, xs) => (key, .array xs))

/-- The state as JSON. -/
def toJson (s : RunState) : Json := .object [("loops", s.loopsJson), ("queue", s.queueJson)]

end RunState

/-- The text of a queue item: a string itself, any other value as JSON. -/
def itemText : Json → String
  | .text s => s
  | v => v.compact

/-! ## Waiters -/

/-- Someone who waits for an item. -/
structure Waiter where
  /-- The queue. -/
  key : String
  /-- The position in the queue. -/
  index : Nat
  /-- The number of pushes when it last started to listen. -/
  listeningSince : Option Nat := none
  deriving Repr, Inhabited

namespace Waiter

/-- Whether a push has been signalled since the waiter started to listen. -/
def notified (w : Waiter) (s : RunState) : Bool :=
  match w.listeningSince with
  | none => false
  | some n => n != s.pushCount

/-- Polls a waiter: it looks for its item the first time and after every
signal, and otherwise stays as it is. -/
def poll (w : Waiter) (s : RunState) : Option Json × Waiter :=
  if w.listeningSince.isNone ∨ w.notified s then
    let w := { w with listeningSince := some s.pushCount }
    (s.item? w.key w.index, w)
  else (none, w)

end Waiter

end PromptStream
