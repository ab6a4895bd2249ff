import PromptStream.Engine.Host

/-!
# The resolving machine

Resolving an input produces elements one by one, and nothing happens before the
consumer asks for the next one.  So the work that is still to do is kept as a
stack of frames, the innermost on top, and `step` does the smallest piece of it.
A step goes on, hands an element or a failure to the consumer, finds that an
outside source has nothing yet, or finds that no work is left.

*Order.*  A frame that stands for several children pushes the next child and
stays below it.  Children are therefore resolved strictly one after another,
each from the world that its predecessors left, and none is started before it
is reached.

*Failures.*  A sequence ends right after its first failure.  Lists, templates,
loops and streams put a guard below their frames, and an input that is resolved
on its own has one too.  A failure marks every guard on the stack, since it
passes through all of those sequences.  An item that reaches a marked guard ends
the guarded sequence instead: the guard and what is above it are dropped, and
the work below goes on.
-/

namespace PromptStream

variable {φ ν : Type}

/-! ## Frames -/

/-- A piece of work that is still to do. -/
inductive Frame (φ : Type) where
  /-- The end of a guarded sequence; marked once it has failed. -/
  | guard (failed : Bool)
  /-- An input to resolve, and whether a function returned it. -/
  | input (i : Input φ) (props : Props) (fromFunction : Bool)
  /-- The items of a list from a position on. -/
  | items (props : Props) (index : Nat) (rest : List (Input φ))
  /-- The literals and slots of a template that are left. -/
  | binder (props : Props) (literals : List String) (slots : List (Slot φ))
  /-- A loop before an iteration. -/
  | loop (props : Props) (id : String) (body : Input φ) (options : LoopOptions φ) (next : Nat)
  /-- A map before an iteration. -/
  | map (props : Props) (id : String) (count : Nat) (item : φ) (next : Nat)
  /-- Signals of an outside stream. -/
  | feed (signals : Feed Element)
  /-- A shared future that is awaited. -/
  | awaitShared (cell : Nat) (props : Props)
  /-- A future of its own that is awaited, and how often it was polled. -/
  | awaitFresh (future : φ) (polls : Nat) (props : Props)
  /-- A wait for a queue item; the position is fixed when it is first polled. -/
  | waiting (key : String) (props : Props) (index : Option Nat)
  /-- A generation and the rest of its completion. -/
  | generation (g : Generation) (props : Props) (rest : Feed Delta)

/-- The work that is still to do, and the world. -/
structure Machine (φ ν : Type) where
  /-- The frames, innermost first. -/
  stack : List (Frame φ)
  /-- The world. -/
  world : World φ ν

/-- What a step comes to. -/
inductive Step (φ ν : Type) where
  /-- There is more to do before anything can be said. -/
  | more (m : Machine φ ν)
  /-- An element or a failure for the consumer. -/
  | item (result : Except Fault Element) (m : Machine φ ν)
  /-- An outside source has nothing yet. -/
  | pending (m : Machine φ ν)
  /-- No work is left. -/
  | ended (m : Machine φ ν)

/-! ## Handing out items -/

namespace Frame

/-- The work below the innermost marked guard, if there is one. -/
def belowFailed : List (Frame φ) → Option (List (Frame φ))
  | [] => none
  | .guard true :: rest => some rest
  | _ :: rest => belowFailed rest

/-- Marks a guard. -/
def mark : Frame φ → Frame φ
  | .guard _ => .guard true
  | f => f

/-- The frames that resolve an input as a sequence of its own. -/
def guarded (i : Input φ) (props : Props) : List (Frame φ) :=
  [.input i props false, .guard false]

end Frame

/-- Hands out an element or a failure with the work that is left.  It ends the
innermost sequence that has already failed, if there is one; otherwise the
consumer receives it. -/
def deliver (result : Except Fault Element) (stack : List (Frame φ)) (w : World φ ν) :
    Step φ ν :=
  match Frame.belowFailed stack with
  | some below => .more ⟨below, w⟩
  | none =>
      match result with
      | .ok e => .item (.ok e) ⟨stack, w⟩
      | .error f => .item (.error f) ⟨stack.map Frame.mark, w⟩

/-! ## Resolving inputs -/

/-- The source of a plain value. -/
def scalarSource (fromFunction : Bool) : Source := if fromFunction then .parameter else .constant

/-- The element of a plain value. -/
def scalar (content : String) (props : Props) (fromFunction : Bool) : Element :=
  ⟨content, scalarSource fromFunction, props.context.role⟩

/-- The frames of a template with the given props. -/
def binderFrames (props : Props) (literals : List String) (slots : List (Slot φ)) :
    List (Frame φ) :=
  [.binder props literals slots, .guard false]

/-- The request of a generation. -/
def generationRequest (options : GenerationOptions) (stop : Option Stop) (props : Props)
    (prompt : Prompt) : Request where
  prompt := prompt
  maxTokens := options.maxTokens
  topP := options.topP
  stop := stop
  stream := (options.stream.or props.context.stream).getD false
  isChat := props.context.llm.isChat
  model := options.model

/-- Starts a generation: the request holds the prompt as consumed so far. -/
def startGeneration (name : String) (options : GenerationOptions) (props : Props)
    (w : World φ ν) : Frame φ × World φ ν :=
  let stop := options.effectiveStop props.nextLiteral
  let request := generationRequest options stop props w.scene.prompt
  let w := w.emit (.generationStarted name props.context.outputAddress props.context.role)
  let (feed, w) := w.complete props.context.llm.completion request
  (.generation ⟨name, stop, [], 0, false⟩ props feed, w)

/-- The frames of an author's action. -/
def workFrames : Work φ → List (Frame φ)
  | .resolve i props => Frame.guarded i props
  | .bind literals slots props => binderFrames props literals slots
  | .emit signals => [.feed signals]

/-- Starts an action. -/
def startAction (host : Host φ ν) (a : Action φ) (props : Props) (w : World φ ν) :
    List (Frame φ) × World φ ν :=
  match a with
  | .template scope literals slots =>
      (binderFrames (props.fork (scope props.context)) literals slots, w)
  | .generate name options =>
      let (frame, w) := startGeneration name options props w
      ([frame], w)
  | .loop id body options => ([.loop props id body options 0, .guard false], w)
  | .map id count item => ([.map props id count item 0, .guard false], w)
  | .wait key => ([.waiting key props none], w)
  | .custom f =>
      let (work, ws) := host.perform f props w.scene
      (workFrames work, w.writeAll ws)

/-- Resolves an input with the work below it. -/
def stepInput (host : Host φ ν) (i : Input φ) (props : Props) (fromFunction : Bool)
    (rest : List (Frame φ)) (w : World φ ν) : Step φ ν :=
  match i with
  | .null => .more ⟨rest, w⟩
  | .number x => deliver (.ok (scalar (formatNumber x) props fromFunction)) rest w
  | .text s => deliver (.ok (scalar s props fromFunction)) rest w
  | .list items => .more ⟨.items props 0 items :: .guard false :: rest, w⟩
  | .function f =>
      let (produced, ws) := host.call f props w.scene
      .more ⟨.input produced props true :: rest, w.writeAll ws⟩
  | .deferred (.shared cell) => .more ⟨.awaitShared cell props :: rest, w⟩
  | .deferred (.fresh future) => .more ⟨.awaitFresh future 0 props :: rest, w⟩
  | .action a =>
      let (frames, w) := startAction host a props w
      .more ⟨frames ++ rest, w⟩
  | .stream cell =>
      match w.takeStream? cell with
      | some (feed, w) => .more ⟨.feed feed :: .guard false :: rest, w⟩
      | none => .more ⟨rest, w⟩

/-- Goes on with the result of a future. -/
def stepResolved (result : Except Fault (Input φ)) (props : Props) (rest : List (Frame φ))
    (w : World φ ν) : Step φ ν :=
  match result with
  | .ok i => .more ⟨.input i props false :: rest, w⟩
  | .error f => deliver (.error f) rest w

/-- Polls a shared future. -/
def stepShared (host : Host φ ν) (cell : Nat) (props : Props) (rest : List (Frame φ))
    (w : World φ ν) : Step φ ν :=
  match w.futures[cell]? with
  | none => .more ⟨rest, w⟩
  | some (.resolved result) => stepResolved result props rest w
  | some (.unresolved future polls) =>
      let (outcome, ws) := host.poll future polls w.scene
      let w := w.writeAll ws
      match outcome with
      | none =>
          let futures := w.futures.set cell (.unresolved future (polls + 1))
          .pending ⟨.awaitShared cell props :: rest, { w with futures := futures }⟩
      | some result =>
          let futures := w.futures.set cell (.resolved result)
          stepResolved result props rest { w with futures := futures }

/-! ## Templates and loops -/

/-- Goes on with a template.  The next literal is emitted as it leaves the
store, and the next slot is put on the stack to be resolved as a sequence of its
own. -/
def stepBinder (props : Props) (literals : List String) (slots : List (Slot φ))
    (rest : List (Frame φ)) (w : World φ ν) : Step φ ν :=
  match literals, slots with
  | [], [] => .more ⟨rest, w⟩
  | literals, slots =>
      let below := .binder props literals.tail slots.tail :: rest
      let stack := match slots.head? with
        | some (some i) =>
            Frame.guarded i (props.withNextLiteral literals.tail.head?) ++ below
        | _ => below
      match literals.head? with
      | some literal =>
          if literal.isEmpty then .more ⟨stack, w⟩
          else deliver (.ok (Element.stored ⟨literal, .prompt, props.context.role⟩)) stack w
      | none => .more ⟨stack, w⟩

/-- The props of an iteration. -/
def iterationProps (props : Props) (id : String) (i : Nat) : Props :=
  (props.fork (Patch.iteration props.context id i)).descend i

/-- The world once an iteration is announced. -/
def enterIteration (w : World φ ν) (id : String) (i : Nat) : World φ ν :=
  (w.setLoop id (.iteration i)).emit (.loopIteration id i)

/-- The world once a loop has ended. -/
def leaveLoop (w : World φ ν) (id : String) (iterations : Nat) : World φ ν :=
  (w.setLoop id .notRunning).emit (.loopFinished id iterations)

/-- Whether a loop ends before an iteration.  The predicate is asked only after
an iteration, and only if the bound has not ended the loop. -/
def loopEnds (host : Host φ ν) (props : Props) (options : LoopOptions φ) (i : Nat)
    (w : World φ ν) : Bool × World φ ν :=
  if options.maxIterations.any fun most => most ≤ i then (true, w)
  else match options.until?, i with
    | some f, finished + 1 =>
        let (done, ws) := host.until? f props finished w.scene
        (done, w.writeAll ws)
    | _, _ => (false, w)

/-- Goes on with a loop before iteration `i`. -/
def stepLoop (host : Host φ ν) (props : Props) (id : String) (body : Input φ)
    (options : LoopOptions φ) (i : Nat) (rest : List (Frame φ)) (w : World φ ν) : Step φ ν :=
  match loopEnds host props options i w with
  | (true, w) => .more ⟨rest, leaveLoop w id i⟩
  | (false, w) =>
      .more ⟨Frame.guarded body (iterationProps props id i)
        ++ .loop props id body options (i + 1) :: rest, enterIteration w id i⟩

/-- Goes on with a map before iteration `i`. -/
def stepMap (host : Host φ ν) (props : Props) (id : String) (count : Nat) (item : φ) (i : Nat)
    (rest : List (Frame φ)) (w : World φ ν) : Step φ ν :=
  if count ≤ i then .more ⟨rest, leaveLoop w id i⟩
  else
    let w := enterIteration w id i
    let (body, ws) := host.item item i w.scene
    .more ⟨Frame.guarded body (iterationProps props id i)
      ++ .map props id count item (i + 1) :: rest, w.writeAll ws⟩

/-! ## Outside sources -/

/-- Takes the next signal of a stream. -/
def stepFeed (signals : Feed Element) (rest : List (Frame φ)) (w : World φ ν) : Step φ ν :=
  match signals with
  | [] => .more ⟨rest, w⟩
  | .item e :: more => deliver (.ok e) (.feed more :: rest) w
  | .failed f :: more => deliver (.error f) (.feed more :: rest) w
  | .pending :: more => .pending ⟨.feed more :: rest, w⟩

/-- Emits the item that a wait was for and records it. -/
def consumeItem (key : String) (index : Nat) (item : Json) (props : Props)
    (rest : List (Frame φ)) (w : World φ ν) : Step φ ν :=
  let content := itemText item
  let w := w.record props.context.outputAddress key (.text content)
  let w := w.emit (.itemConsumed key index)
  deliver (.ok ⟨content, .parameter, props.context.role⟩) rest w

/-- Polls a wait. -/
def stepWaiting (key : String) (props : Props) (index : Option Nat) (rest : List (Frame φ))
    (w : World φ ν) : Step φ ν :=
  match index with
  | some i =>
      match w.scene.state.item? key i with
      | some item => consumeItem key i item props rest w
      | none => .pending ⟨.waiting key props (some i) :: rest, w⟩
  | none =>
      let i := w.scene.state.currentIteration props.context.loopId
      match w.scene.state.item? key i with
      | some item => consumeItem key i item props rest w
      | none => .pending ⟨.waiting key props (some i) :: rest, w.emit (.waiting key i)⟩

/-! ## Generations -/

/-- The world once a generation has emitted some text. -/
def emitDelta (w : World φ ν) (name : String) : Option String → World φ ν
  | none => w
  | some fresh => w.emit (.generationDelta name fresh)

/-- The world once a generation is over: its result is recorded and then
reported. -/
def recordGeneration (w : World φ ν) (g : Generation) (props : Props) : World φ ν :=
  (w.record props.context.outputAddress g.name g.value).emit
    (.generationFinished g.name g.lead g.choices)

/-- Hands out what a generation newly emits, if anything. -/
def deliverFresh (fresh : Option String) (g : Generation) (props : Props) (feed : Feed Delta)
    (rest : List (Frame φ)) (w : World φ ν) : Step φ ν :=
  let stack := .generation g props feed :: rest
  match fresh with
  | some s => deliver (.ok ⟨s, .llm, props.context.role⟩) stack w
  | none => .more ⟨stack, w⟩

/-- Takes the next signal of a completion, unless the generation is over. -/
def stepGeneration (g : Generation) (props : Props) (feed : Feed Delta)
    (rest : List (Frame φ)) (w : World φ ν) : Step φ ν :=
  if g.done then .more ⟨rest, w⟩
  else match feed with
    | [] =>
        let (fresh, g) := g.close
        let w := recordGeneration (emitDelta w g.name fresh) g props
        deliverFresh fresh g props [] rest w
    | .item d :: more =>
        let (fresh, g) := g.absorb d
        let w := emitDelta w g.name fresh
        let w := if g.done then recordGeneration w g props else w
        deliverFresh fresh g props more rest w
    | .failed f :: more =>
        deliver (.error f) (.generation { g with done := true } props more :: rest) w
    | .pending :: more => .pending ⟨.generation g props more :: rest, w⟩

/-! ## Steps -/

/-- Does the smallest piece of work. -/
def Machine.step (host : Host φ ν) (m : Machine φ ν) : Step φ ν :=
  let w := m.world
  match m.stack with
  | [] => .ended m
  | .guard _ :: rest => .more ⟨rest, w⟩
  | .input i props fromFunction :: rest => stepInput host i props fromFunction rest w
  | .items _ _ [] :: rest => .more ⟨rest, w⟩
  | .items props index (i :: more) :: rest =>
      .more ⟨.input i (props.descend index) false :: .items props (index + 1) more :: rest, w⟩
  | .binder props literals slots :: rest => stepBinder props literals slots rest w
  | .loop props id body options i :: rest => stepLoop host props id body options i rest w
  | .map props id count item i :: rest => stepMap host props id count item i rest w
  | .feed signals :: rest => stepFeed signals rest w
  | .awaitShared cell props :: rest => stepShared host cell props rest w
  | .awaitFresh future polls props :: rest =>
      let (outcome, ws) := host.poll future polls w.scene
      let w := w.writeAll ws
      match outcome with
      | none => .pending ⟨.awaitFresh future (polls + 1) props :: rest, w⟩
      | some result => stepResolved result props rest w
  | .waiting key props index :: rest => stepWaiting key props index rest w
  | .generation g props feed :: rest => stepGeneration g props feed rest w

end PromptStream
