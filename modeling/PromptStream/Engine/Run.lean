import PromptStream.Engine.Machine

/-!
# Runs

A run resolves one input from the root context of an `Llm`.  Its consumer polls
it, and each poll does steps until there is an answer: an element, a failure, the
notice that something is still pending, or the end.

Every element is added to the prompt at the moment at which the consumer
receives it.  So a generation, which takes the prompt when it starts, sees
exactly what was consumed before it.

A poll takes an amount of fuel, the most steps it may do.  A loop without a bound
whose body emits nothing never answers, and that is the only use of the answer
`unanswered`.
-/

namespace PromptStream

variable {φ ν : Type}

/-! ## Root settings -/

/-- A connector with the defaults of its runs. -/
structure Llm where
  /-- The connector. -/
  completion : ConnectorRef
  /-- Whether prompts go out as chat messages. -/
  isChat : Bool
  /-- Whether completions are streamed, if that is decided. -/
  stream : Option Bool := none
  /-- The role outside every role scope. -/
  role : Role := .user
  deriving DecidableEq, Repr, Inhabited

/-- The context at the root of every run. -/
def Llm.context (l : Llm) : Context := Context.root ⟨l.completion, l.isChat⟩ l.role l.stream

/-! ## Polling -/

/-- The answer to a poll. -/
inductive Poll where
  /-- An element. -/
  | element (e : Element)
  /-- A failure. -/
  | failed (f : Fault)
  /-- Nothing yet. -/
  | pending
  /-- The end. -/
  | ended
  /-- The fuel ran out. -/
  | unanswered
  deriving DecidableEq, Repr

/-- A run: the work that is left and the world. -/
abbrev Run (φ ν : Type) := Machine φ ν

/-- Polls a feed: its next item, its next failure, or the end. -/
def Feed.poll : Feed Element → Poll × Feed Element
  | [] => (.ended, [])
  | .item e :: rest => (.element e, rest)
  | .failed f :: rest => (.failed f, rest)
  | .pending :: rest => (.pending, rest)

namespace Run

/-- A run that has not done anything yet. -/
def start (llm : Llm) (input : Input φ) (params : Json) (world : World φ ν) : Run φ ν :=
  ⟨Frame.guarded input ⟨llm.context, params, none⟩, world⟩

/-- A run after something was written to its scene from outside. -/
def write (m : Run φ ν) (w : Write ν) : Run φ ν :=
  ⟨m.stack, { m.world with scene := m.world.scene.write w }⟩

/-- What the consumer receives, and the run once it is recorded. -/
def receive (m : Run φ ν) : Except Fault Element → Poll × Run φ ν
  | .ok e => (.element e, ⟨m.stack, m.world.consume e⟩)
  | .error f => (.failed f, m)

/-- Polls a run with at most so many steps. -/
def poll (host : Host φ ν) : Nat → Run φ ν → Poll × Run φ ν
  | 0, m => (.unanswered, m)
  | fuel + 1, m =>
      match Machine.step host m with
      | .more m => poll host fuel m
      | .item result m => receive m result
      | .pending m => (.pending, m)
      | .ended m => (.ended, m)

/-- Polls a run, at most so many times, until it gives something else than an
element. -/
def drain (host : Host φ ν) (fuel : Nat) : Nat → Run φ ν → Poll × Run φ ν
  | 0, m => (.unanswered, m)
  | rounds + 1, m =>
      match poll host fuel m with
      | (.element _, m) => drain host fuel rounds m
      | answer => answer

/-- The elements of a run until it gives something else, with what that is. -/
def collect (host : Host φ ν) (fuel : Nat) : Nat → Run φ ν → List Element × Poll × Run φ ν
  | 0, m => ([], .unanswered, m)
  | rounds + 1, m =>
      match poll host fuel m with
      | (.element e, m) =>
          let (es, last, m) := collect host fuel rounds m
          (e :: es, last, m)
      | (last, m) => ([], last, m)

end Run

end PromptStream
