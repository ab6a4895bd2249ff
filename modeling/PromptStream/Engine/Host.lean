import PromptStream.Engine.Input
import PromptStream.Event
import PromptStream.RunState

/-!
# Hosts and worlds

A host gives meaning to the codes of author code.  Author code sees the *scene*,
everything that the nodes of a run share, and answers with a value and with the
*writes* it asks for.  It can set loops, push queue items and record outputs, as
the helpers of the library do, and it can leave remarks; it cannot take back
what others did.

The prompt, the events and the connectors are not for author code to write.  A
function that pushed elements of its own would break what the prompt is kept for,
which is to record what the consumer received.  Events tell what the library's own
helpers did, and only a generation asks a connector.

The *journal* of a run lists its events and remarks in the order in which they
happened.

The *world* of a run is its scene together with what author code cannot touch:
the connectors, the streams that were not taken yet, and the shared futures.
-/

namespace PromptStream

/-! ## Scenes -/

/-- An entry of the journal of a run. -/
inductive Note (ν : Type) where
  /-- An event of a helper. -/
  | event (e : Event)
  /-- A remark of author code. -/
  | remark (n : ν)
  deriving DecidableEq, Repr

/-- What the nodes of a run share. -/
structure Scene (ν : Type) where
  /-- Loop statuses and queues. -/
  state : RunState := {}
  /-- The results recorded so far. -/
  outputs : Outputs := []
  /-- The elements consumed so far. -/
  prompt : Prompt := []
  /-- Events and remarks, oldest first. -/
  journal : Array (Note ν) := #[]

/-- Something that author code asks for.  None of these pushes an element to the
prompt, reports an event or asks a connector: the prompt records what the consumer
received, and only handing an element out adds to it. -/
inductive Write (ν : Type) where
  /-- To set the status of a loop. -/
  | setLoop (id : String) (status : LoopStatus)
  /-- To push a queue item. -/
  | push (key : String) (item : Json)
  /-- To record a result. -/
  | record (address : List String) (key : String) (value : OutputValue)
  /-- To leave a remark. -/
  | remark (n : ν)

namespace Scene

variable {ν : Type}

/-- The scene after an event. -/
def emit (s : Scene ν) (e : Event) : Scene ν := { s with journal := s.journal.push (.event e) }

/-- The scene after a write. -/
def write (s : Scene ν) : Write ν → Scene ν
  | .setLoop id status => { s with state := s.state.setLoop id status }
  | .push key item => { s with state := s.state.push key item }
  | .record address key value => { s with outputs := s.outputs.insertAt address key value }
  | .remark n => { s with journal := s.journal.push (.remark n) }

/-- The scene after some writes, in order. -/
def writeAll (s : Scene ν) (ws : List (Write ν)) : Scene ν := ws.foldl write s

/-- The notes of the journal from a position on. -/
def notesSince (s : Scene ν) (start : Nat) : Array (Note ν) :=
  s.journal.extract start s.journal.size

/-- The events of the journal, in order. -/
def events (s : Scene ν) : List Event :=
  s.journal.toList.filterMap fun
    | .event e => some e
    | .remark _ => none

end Scene

/-! ## Hosts -/

/-- What an author's action does. -/
inductive Work (φ : Type) where
  /-- It resolves an input with some props. -/
  | resolve (input : Input φ) (props : Props)
  /-- It binds literals and slots with some props. -/
  | bind (literals : List String) (slots : List (Slot φ)) (props : Props)
  /-- It emits elements of its own. -/
  | emit (signals : Feed Element)

/-- The meaning of author code. -/
structure Host (φ ν : Type) where
  /-- The input that a function of the props produces. -/
  call : φ → Props → Scene ν → Input φ × List (Write ν)
  /-- What a future brings when it is polled, given how often it was polled
  before. -/
  poll : φ → Nat → Scene ν → Option (Except Fault (Input φ)) × List (Write ν)
  /-- Whether a loop is done, given its props and the iteration that just
  finished. -/
  until? : φ → Props → Nat → Scene ν → Bool × List (Write ν)
  /-- The body of an iteration of a map. -/
  item : φ → Nat → Scene ν → Input φ × List (Write ν)
  /-- What an action does. -/
  perform : φ → Props → Scene ν → Work φ × List (Write ν)

/-! ## Worlds -/

/-- The state of a shared future. -/
inductive FutureCell (φ : Type) where
  /-- It was polled so often and is not there yet. -/
  | unresolved (future : φ) (polls : Nat)
  /-- It has brought a value or a failure. -/
  | resolved (result : Except Fault (Input φ))

/-- Everything that a run can change. -/
structure World (φ ν : Type) where
  /-- What the nodes of the run share. -/
  scene : Scene ν := {}
  /-- The connectors. -/
  connectors : List Connector := []
  /-- The streams, none once taken. -/
  streams : List (Option (Feed Element)) := []
  /-- The shared futures. -/
  futures : List (FutureCell φ) := []

namespace World

variable {φ ν : Type}

/-- The world after an event. -/
def emit (w : World φ ν) (e : Event) : World φ ν := { w with scene := w.scene.emit e }

/-- The world after some writes of author code. -/
def writeAll (w : World φ ν) (ws : List (Write ν)) : World φ ν :=
  { w with scene := w.scene.writeAll ws }

/-- The world after a result was recorded. -/
def record (w : World φ ν) (address : List String) (key : String) (value : OutputValue) :
    World φ ν :=
  { w with scene := w.scene.write (.record address key value) }

/-- The world after the status of a loop was set. -/
def setLoop (w : World φ ν) (id : String) (status : LoopStatus) : World φ ν :=
  { w with scene := w.scene.write (.setLoop id status) }

/-- The world after the consumer received an element. -/
def consume (w : World φ ν) (e : Element) : World φ ν :=
  { w with scene := { w.scene with prompt := w.scene.prompt ++ [e] } }

/-- Takes a stream out of its cell; there is none when it was taken before. -/
def takeStream? (w : World φ ν) (cell : Nat) : Option (Feed Element × World φ ν) :=
  match w.streams[cell]? with
  | some (some feed) => some (feed, { w with streams := w.streams.set cell none })
  | _ => none

/-- Makes a request to a connector. -/
def complete (w : World φ ν) (ref : ConnectorRef) (request : Request) :
    Feed Delta × World φ ν :=
  match w.connectors[ref.index]? with
  | some c =>
      let (feed, c) := c.complete request
      (feed, { w with connectors := w.connectors.set ref.index c })
  | none => ([], w)

end World

end PromptStream
