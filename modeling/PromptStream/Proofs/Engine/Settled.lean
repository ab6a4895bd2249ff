import PromptStream.Proofs.Engine.Drain
import PromptStream.Proofs.State.Queue

/-!
# Settled worlds

A world is *settled* with some queues when these are its queues from the start: what was
waited for is forgotten, in the journal and on the stack.  If author code does not look at
the queues (`Host.Blind`), a step of a machine is a step of the settled machine, for the host
whose pushes are left out because they are in the queues already (`step_settled`).

The one exception is a wait for an item that is not there yet.  It only fixes its position
and says so, and a settled machine takes no notice (`step_settled_of_missing`).
-/

namespace PromptStream

variable {φ ν : Type}

/-! ## Settling -/

/-- Whether an event says that something is waited for. -/
def Event.waits : Event → Bool
  | .waiting _ _ => true
  | _ => false

/-- Whether a note says that something is waited for. -/
def Note.waits : Note ν → Bool
  | .event e => e.waits
  | .remark _ => false

/-- Whether a write is a push. -/
def Write.pushes : Write ν → Bool
  | .push _ _ => true
  | _ => false

/-- The scene with some queues, without the notes of what was waited for. -/
def Scene.settled (q : Dict (List Json)) (s : Scene ν) : Scene ν :=
  { s with
    state := { s.state with queue := q }
    journal := s.journal.filter fun n => !n.waits }

/-- The world with some queues, without the notes of what was waited for. -/
def World.settled (q : Dict (List Json)) (w : World φ ν) : World φ ν :=
  { w with scene := w.scene.settled q }

/-- A wait that has not asked yet. -/
def Frame.unasked : Frame φ → Frame φ
  | .waiting key props _ => .waiting key props none
  | f => f

/-- The machine with some queues, without any trace of what was waited for. -/
def Machine.settled (q : Dict (List Json)) (m : Machine φ ν) : Machine φ ν :=
  ⟨m.stack.map Frame.unasked, m.world.settled q⟩

/-- What a step comes to, settled. -/
def Step.settled (q : Dict (List Json)) : Step φ ν → Step φ ν
  | .more m => .more (m.settled q)
  | .item result m => .item result (m.settled q)
  | .pending m => .pending (m.settled q)
  | .ended m => .ended (m.settled q)

/-- Author code that looks neither at the queues nor at what is waited for. -/
structure Host.Blind (host : Host φ ν) : Prop where
  call : ∀ q f props s, host.call f props (s.settled q) = host.call f props s
  poll : ∀ q f polls s, host.poll f polls (s.settled q) = host.poll f polls s
  until? : ∀ q f props finished s,
    host.until? f props finished (s.settled q) = host.until? f props finished s
  item : ∀ q f i s, host.item f i (s.settled q) = host.item f i s
  perform : ∀ q f props s, host.perform f props (s.settled q) = host.perform f props s

theorem Host.none_blind : (Host.none : Host Empty ν).Blind := ⟨nofun, nofun, nofun, nofun, nofun⟩

/-- What author code answers, without its pushes. -/
def withoutPushes {α : Type} (answer : α × List (Write ν)) : α × List (Write ν) :=
  (answer.1, answer.2.filter fun x => !x.pushes)

theorem withoutPushes_fst {α : Type} (answer : α × List (Write ν)) :
    (withoutPushes answer).1 = answer.1 := rfl

/-- The host whose author code does the same but for its pushes. -/
def Host.withoutPushes (host : Host φ ν) : Host φ ν where
  call f props s := PromptStream.withoutPushes (host.call f props s)
  poll f polls s := PromptStream.withoutPushes (host.poll f polls s)
  until? f props finished s := PromptStream.withoutPushes (host.until? f props finished s)
  item f i s := PromptStream.withoutPushes (host.item f i s)
  perform f props s := PromptStream.withoutPushes (host.perform f props s)

/-! ## Settled worlds -/

section World

variable (q : Dict (List Json)) (s : Scene ν) (w : World φ ν)

theorem Scene.settled_write (x : Write ν) :
    (s.write x).settled q = if x.pushes then s.settled q else (s.settled q).write x := by
  cases x with
  | remark n => simp [Scene.write, Scene.settled, Write.pushes, Note.waits]
  | _ => rfl

theorem Scene.settled_writeAll (ws : List (Write ν)) :
    (s.writeAll ws).settled q = (s.settled q).writeAll (ws.filter fun x => !x.pushes) := by
  induction ws generalizing s with
  | nil => rfl
  | cons x ws ih =>
      refine (ih (s.write x)).trans ?_
      rw [settled_write]
      cases pushed : x.pushes with
      | true => rw [List.filter_cons_of_neg (by simp [pushed]), if_pos rfl]
      | false =>
          rw [List.filter_cons_of_pos (by simp [pushed]), if_neg Bool.false_ne_true]
          rfl

theorem Scene.settled_emit (e : Event) :
    (s.emit e).settled q = if e.waits then s.settled q else (s.settled q).emit e := by
  cases waits : e.waits <;> simp [Scene.emit, Scene.settled, Note.waits, waits]

theorem Scene.events_settled : (s.settled q).events = s.events.filter fun e => !e.waits := by
  simp only [Scene.events, Scene.settled, Array.toList_filter, List.filterMap_filter,
    List.filter_filterMap]
  congr 1
  funext n
  cases n with
  | event e => cases waits : e.waits <;> simp [Note.waits, waits, Option.filter]
  | remark n => rfl

namespace World

theorem settled_emit {e : Event} (spoken : e.waits = false) :
    (w.emit e).settled q = (w.settled q).emit e := by
  refine congrArg (fun s => { w with scene := s }) ((Scene.settled_emit q w.scene e).trans ?_)
  rw [if_neg (ne_true_of_eq_false spoken)]
  rfl

theorem settled_emit_waiting (key : String) (i : Nat) :
    (w.emit (.waiting key i)).settled q = w.settled q :=
  congrArg (fun s => { w with scene := s }) (Scene.settled_emit q w.scene (.waiting key i))

/-- What author code writes, settled. -/
theorem settled_writeAll {α : Type} (answer : α × List (Write ν)) :
    (w.settled q).writeAll (withoutPushes answer).2 = (w.writeAll answer.2).settled q :=
  congrArg (fun s => { w with scene := s }) (Scene.settled_writeAll q w.scene answer.2).symm

theorem settled_complete (ref : ConnectorRef) (request : Request) :
    (w.settled q).complete ref request
      = ((w.complete ref request).1, (w.complete ref request).2.settled q) := by
  have here : (w.settled q).connectors[ref.index]? = w.connectors[ref.index]? := rfl
  unfold complete
  rw [here]
  cases w.connectors[ref.index]? <;> rfl

theorem settled_takeStream (cell : Nat) :
    (w.settled q).takeStream? cell
      = (w.takeStream? cell).map fun taken => (taken.1, taken.2.settled q) := by
  have here : (w.settled q).streams[cell]? = w.streams[cell]? := rfl
  unfold takeStream?
  rw [here]
  rcases w.streams[cell]? with _ | _ | feed <;> rfl

end World

end World

/-! ## Settled steps -/

section Steps

variable (q : Dict (List Json)) {host : Host φ ν} (rest : List (Frame φ)) (w : World φ ν)

theorem belowFailed_unasked (stack : List (Frame φ)) :
    Frame.belowFailed (stack.map Frame.unasked)
      = (Frame.belowFailed stack).map (List.map Frame.unasked) := by
  induction stack with
  | nil => rfl
  | cons f rest ih =>
      cases f with
      | guard failed => cases failed <;> first | rfl | exact ih
      | _ => exact ih

theorem mark_unasked (f : Frame φ) : f.unasked.mark = f.mark.unasked := by cases f <;> rfl

theorem deliver_settled (result : Except Fault Element) (stack : List (Frame φ)) :
    deliver result (stack.map Frame.unasked) (w.settled q)
      = (deliver result stack w).settled q := by
  unfold deliver
  rw [belowFailed_unasked]
  cases Frame.belowFailed stack with
  | some below => rfl
  | none =>
      cases result with
      | ok e => rfl
      | error f =>
          simp only [Option.map_none, Step.settled, Machine.settled, List.map_map]
          congr 3
          funext f
          exact mark_unasked f

section Blind

variable (blind : host.Blind)

include blind

section Input

variable (props : Props) (fromFunction : Bool)

theorem startAction_settled (a : Action φ) :
    startAction host.withoutPushes a props (w.settled q)
      = ((startAction host a props w).1.map Frame.unasked,
        (startAction host a props w).2.settled q) := by
  cases a with
  | generate name options =>
      simp only [startAction, startGeneration]
      rw [← World.settled_emit q w rfl, World.settled_complete]
      rfl
  | custom f =>
      have answers : host.withoutPushes.perform f props (w.settled q).scene
          = withoutPushes (host.perform f props w.scene) :=
        congrArg withoutPushes (blind.perform q f props w.scene)
      have kept : ∀ work : Work φ, workFrames work = (workFrames work).map Frame.unasked := by
        intro work
        cases work <;> rfl
      simp only [startAction, answers, World.settled_writeAll]
      exact Prod.ext (kept _) rfl
  | _ => rfl

theorem stepInput_settled (i : Input φ) :
    stepInput host.withoutPushes i props fromFunction (rest.map Frame.unasked) (w.settled q)
      = (stepInput host i props fromFunction rest w).settled q := by
  cases i with
  | number x =>
      simp only [stepInput]
      exact deliver_settled q w _ rest
  | text s =>
      simp only [stepInput]
      exact deliver_settled q w _ rest
  | function f =>
      have answers : host.withoutPushes.call f props (w.settled q).scene
          = withoutPushes (host.call f props w.scene) :=
        congrArg withoutPushes (blind.call q f props w.scene)
      simp only [stepInput, answers, World.settled_writeAll]
      rfl
  | deferred d => cases d <;> rfl
  | action a =>
      simp only [stepInput, startAction_settled q w blind props a, Step.settled, Machine.settled,
        List.map_append]
  | stream cell =>
      simp only [stepInput, World.settled_takeStream]
      cases w.takeStream? cell <;> rfl
  | _ => rfl

end Input

omit blind in
theorem stepResolved_settled (result : Except Fault (Input φ)) (props : Props) :
    stepResolved result props (rest.map Frame.unasked) (w.settled q)
      = (stepResolved result props rest w).settled q := by
  cases result with
  | ok i => rfl
  | error f =>
      simp only [stepResolved]
      exact deliver_settled q w _ rest

theorem poll_settled (future : φ) (polls : Nat) :
    host.withoutPushes.poll future polls (w.settled q).scene
      = withoutPushes (host.poll future polls w.scene) :=
  congrArg withoutPushes (blind.poll q future polls w.scene)

theorem stepShared_settled (cell : Nat) (props : Props) :
    stepShared host.withoutPushes cell props (rest.map Frame.unasked) (w.settled q)
      = (stepShared host cell props rest w).settled q := by
  have here : (w.settled q).futures[cell]? = w.futures[cell]? := rfl
  unfold stepShared
  rw [here]
  rcases w.futures[cell]? with _ | ⟨future, polls⟩ | result
  · rfl
  · simp only [poll_settled q w blind, World.settled_writeAll, withoutPushes_fst]
    cases (host.poll future polls w.scene).1 with
    | none => rfl
    | some result =>
        exact stepResolved_settled q rest
          { w.writeAll (host.poll future polls w.scene).2 with
            futures := w.futures.set cell (.resolved result) } result props
  · exact stepResolved_settled q rest w result props

theorem stepFresh_settled (future : φ) (polls : Nat) (props : Props) :
    Machine.step host.withoutPushes
        ⟨.awaitFresh future polls props :: rest.map Frame.unasked, w.settled q⟩
      = (Machine.step host ⟨.awaitFresh future polls props :: rest, w⟩).settled q := by
  simp only [Machine.step, poll_settled q w blind, World.settled_writeAll, withoutPushes_fst]
  cases (host.poll future polls w.scene).1 with
  | none => rfl
  | some result => exact stepResolved_settled q rest _ result props

omit blind in
theorem templateRest_settled (props : Props) (literals : List String) (slots : List (Slot φ)) :
    templateRest props literals slots (rest.map Frame.unasked)
      = (templateRest props literals slots rest).map Frame.unasked := by
  unfold templateRest
  match slots.head? with
  | none => rfl
  | some none => rfl
  | some (some i) => rfl

omit blind in
theorem stepBinder_settled (props : Props) (literals : List String) (slots : List (Slot φ)) :
    stepBinder props literals slots (rest.map Frame.unasked) (w.settled q)
      = (stepBinder props literals slots rest w).settled q := by
  by_cases exhausted : literals = [] ∧ slots = []
  · obtain ⟨rfl, rfl⟩ := exhausted
    rfl
  · rw [stepBinder_of_left props _ _ exhausted, stepBinder_of_left props _ _ exhausted,
      templateRest_settled]
    cases literals.head? with
    | none => rfl
    | some literal =>
        dsimp only
        split
        next => rfl
        next => exact deliver_settled q w _ _

theorem loopEnds_settled (props : Props) (options : LoopOptions φ) (i : Nat) :
    loopEnds host.withoutPushes props options i (w.settled q)
      = ((loopEnds host props options i w).1, (loopEnds host props options i w).2.settled q) := by
  unfold loopEnds
  split
  next => rfl
  next =>
    match options.until?, i with
    | some f, finished + 1 =>
        have answers : host.withoutPushes.until? f props finished (w.settled q).scene
            = withoutPushes (host.until? f props finished w.scene) :=
          congrArg withoutPushes (blind.until? q f props finished w.scene)
        simp only [answers, World.settled_writeAll]
        rfl
    | some f, 0 => rfl
    | none, i => rfl

omit blind in
theorem enterIteration_settled (id : String) (i : Nat) :
    (enterIteration w id i).settled q = enterIteration (w.settled q) id i :=
  World.settled_emit q _ rfl

omit blind in
theorem leaveLoop_settled (id : String) (iterations : Nat) :
    (leaveLoop w id iterations).settled q = leaveLoop (w.settled q) id iterations :=
  World.settled_emit q _ rfl

theorem stepLoop_settled (props : Props) (id : String) (body : Input φ)
    (options : LoopOptions φ) (i : Nat) :
    stepLoop host.withoutPushes props id body options i (rest.map Frame.unasked) (w.settled q)
      = (stepLoop host props id body options i rest w).settled q := by
  unfold stepLoop
  rw [loopEnds_settled q w blind]
  match loopEnds host props options i w with
  | (true, w') =>
      dsimp only
      rw [← leaveLoop_settled]
      rfl
  | (false, w') =>
      dsimp only
      rw [← enterIteration_settled]
      rfl

theorem stepMap_settled (props : Props) (id : String) (count : Nat) (item : φ) (i : Nat) :
    stepMap host.withoutPushes props id count item i (rest.map Frame.unasked) (w.settled q)
      = (stepMap host props id count item i rest w).settled q := by
  unfold stepMap
  split
  next =>
    rw [← leaveLoop_settled]
    rfl
  next =>
    rw [← enterIteration_settled]
    have answers : host.withoutPushes.item item i ((enterIteration w id i).settled q).scene
        = withoutPushes (host.item item i (enterIteration w id i).scene) :=
      congrArg withoutPushes (blind.item q item i (enterIteration w id i).scene)
    simp only [answers, World.settled_writeAll]
    rfl

end Blind

theorem stepFeed_settled (signals : Feed Element) :
    stepFeed signals (rest.map Frame.unasked) (w.settled q)
      = (stepFeed signals rest w).settled q := by
  match signals with
  | [] => rfl
  | .item e :: more => exact deliver_settled q w (.ok e) (.feed more :: rest)
  | .failed f :: more => exact deliver_settled q w (.error f) (.feed more :: rest)
  | .pending :: more => rfl

theorem deliverFresh_settled (fresh : Option String) (g : Generation) (props : Props)
    (feed : Feed Delta) :
    deliverFresh fresh g props feed (rest.map Frame.unasked) (w.settled q)
      = (deliverFresh fresh g props feed rest w).settled q := by
  cases fresh with
  | none => rfl
  | some s =>
      rw [deliverFresh, deliverFresh]
      exact deliver_settled q w _ (.generation g props feed :: rest)

theorem heardDelta_settled (fresh : Option String) (g : Generation) (props : Props) :
    (heardDelta fresh g props w).settled q = heardDelta fresh g props (w.settled q) := by
  have said : (emitDelta w g.name fresh).settled q = emitDelta (w.settled q) g.name fresh := by
    cases fresh with
    | none => rfl
    | some s => exact World.settled_emit q w rfl
  unfold heardDelta
  split
  next =>
    rw [← said]
    exact World.settled_emit q _ rfl
  next => exact said

theorem stepGeneration_settled (g : Generation) (props : Props) (feed : Feed Delta) :
    stepGeneration g props feed (rest.map Frame.unasked) (w.settled q)
      = (stepGeneration g props feed rest w).settled q := by
  cases isDone : g.done with
  | true =>
      rw [stepGeneration_of_done props feed _ _ isDone,
        stepGeneration_of_done props feed _ _ isDone]
      rfl
  | false =>
      match feed with
      | [] =>
          rw [stepGeneration_nil props _ _ isDone, stepGeneration_nil props _ _ isDone,
            recordGeneration_close, recordGeneration_close, ← heardDelta_settled]
          exact deliverFresh_settled q rest _ _ _ props []
      | .item d :: more =>
          rw [stepGeneration_item props more _ _ d isDone,
            stepGeneration_item props more _ _ d isDone, ← heardDelta_settled]
          exact deliverFresh_settled q rest _ _ _ props more
      | .failed f :: more =>
          rw [stepGeneration_failed props more _ _ f isDone,
            stepGeneration_failed props more _ _ f isDone]
          exact deliver_settled q w (.error f)
            (.generation { g with done := true } props more :: rest)
      | .pending :: more =>
          rw [stepGeneration_pending props more _ _ isDone,
            stepGeneration_pending props more _ _ isDone]
          rfl

/-! ## Waits -/

/-- All that the queues hold now is at its place in `q`. -/
def World.Within (q : Dict (List Json)) (w : World φ ν) : Prop :=
  ∀ key, w.scene.state.items key <+: (q.find? key).getD []

variable {q} {w} in
/-- An item that is there is the one at its place in the settled world. -/
theorem World.Within.item (within : w.Within q) {key : String} {i : Nat} {item : Json}
    (there : w.scene.state.item? key i = some item) :
    (w.settled q).scene.state.item? key i = some item :=
  RunState.item?_of_prefix (within key) there

/-- The position that a wait has, or would have if it asked anew. -/
theorem waitIndex_settled {key : String} {props : Props} {index : Option Nat}
    (fixes : FixesTop w.scene.state (.waiting key props index :: rest)) :
    waitIndex (w.settled q) props none = waitIndex w props index := by
  cases index with
  | none => rfl
  | some i => exact (fixes.top _ rfl props i rfl).symm

theorem stepWaiting_settled {key : String} {props : Props} {index : Option Nat}
    (fixes : FixesTop w.scene.state (.waiting key props index :: rest)) (within : w.Within q)
    {item : Json} (there : w.scene.state.item? key (waitIndex w props index) = some item) :
    stepWaiting key props none (rest.map Frame.unasked) (w.settled q)
      = (stepWaiting key props index rest w).settled q := by
  have settled := within.item there
  rw [← waitIndex_settled q rest w fixes] at settled
  rw [stepWaiting_of_item _ _ there, stepWaiting_of_item _ _ settled,
    waitIndex_settled q rest w fixes, consumeItem, consumeItem]
  refine Eq.trans ?_ (deliver_settled q _ _ rest)
  rw [World.settled_emit q _ rfl]
  rfl

/-- A wait for an item that is not there only fixes its position. -/
theorem stepWaiting_settled_of_missing {key : String} {props : Props} {index : Option Nat}
    (missing : w.scene.state.item? key (waitIndex w props index) = none) :
    ∃ m', stepWaiting key props index rest w = .pending m' ∧
      m'.settled q = Machine.settled q ⟨.waiting key props index :: rest, w⟩ := by
  refine ⟨_, stepWaiting_of_none rest w missing, ?_⟩
  have forgotten : (w.awaiting key props index).settled q = w.settled q := by
    unfold World.awaiting
    split
    next => exact World.settled_emit_waiting q w key _
    next => rfl
  rw [Machine.settled, forgotten]
  rfl

end Steps

/-! ## Runs -/

/-- The wait on top of a stack is for an item that is not there. -/
def Machine.Starves (m : Machine φ ν) : Prop :=
  ∃ key props index rest, m.stack = .waiting key props index :: rest ∧
    m.world.scene.state.item? key (waitIndex m.world props index) = none

section Runs

variable {q : Dict (List Json)} {host : Host φ ν} {m : Machine φ ν}

/-- A step is a step of the settled machine, unless it finds that an item is missing. -/
theorem step_settled (blind : host.Blind) (fixes : FixesTop m.world.scene.state m.stack)
    (within : m.world.Within q) (fed : ¬ m.Starves) :
    Machine.step host.withoutPushes (m.settled q) = (Machine.step host m).settled q := by
  obtain ⟨stack, w⟩ := m
  cases stack with
  | nil => rfl
  | cons f rest =>
      cases f with
      | guard failed => rfl
      | input i props fromFunction => exact stepInput_settled q rest w blind props fromFunction i
      | items props index more => cases more <;> rfl
      | binder props literals slots => exact stepBinder_settled q rest w props literals slots
      | loop props id body options i =>
          exact stepLoop_settled q rest w blind props id body options i
      | map props id count item i => exact stepMap_settled q rest w blind props id count item i
      | feed signals => exact stepFeed_settled q rest w signals
      | awaitShared cell props => exact stepShared_settled q rest w blind cell props
      | awaitFresh future polls props => exact stepFresh_settled q rest w blind future polls props
      | waiting key props index =>
          cases there : w.scene.state.item? key (waitIndex w props index) with
          | none => exact absurd ⟨key, props, index, rest, rfl, there⟩ fed
          | some item => exact stepWaiting_settled q rest w fixes within there
      | generation g props feed => exact stepGeneration_settled q rest w g props feed

theorem step_settled_of_starves (host : Host φ ν) (q : Dict (List Json)) (starves : m.Starves) :
    ∃ m', Machine.step host m = .pending m' ∧ m'.settled q = m.settled q := by
  obtain ⟨stack, w⟩ := m
  obtain ⟨key, props, index, rest, rfl, missing⟩ := starves
  exact stepWaiting_settled_of_missing q rest w missing

/-- The consumer receives the same from a settled step. -/
theorem Consumer.take_settled (s : Step φ ν) :
    recorder.take (s.settled q) = ((recorder.take s).1, (recorder.take s).2.settled q) := by
  cases s with
  | item result m => cases result <;> rfl
  | _ => rfl

end Runs

end PromptStream
