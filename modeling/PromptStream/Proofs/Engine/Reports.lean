import PromptStream.Proofs.Engine.Play
import PromptStream.Proofs.Engine.GenerationRun

/-!
# What a step reports

The events of a run are reported by the frame on top of its stack.  `Frame.reports`
says which events the next step of a frame adds to the journal, and `events_step`
that it adds these and no others; author code leaves remarks, which are no events.
-/

namespace PromptStream

variable {φ ν : Type}

/-- What a generation reports once it has said a text, or nothing: the text, and the
result if it is over. -/
def Generation.reports (g : Generation) (fresh : Option String) : List Event :=
  (fresh.map (.generationDelta g.name)).toList
    ++ if g.done then [.generationFinished g.name g.lead g.choices] else []

/-- The events that the next signal of a completion leads to. -/
def Generation.nextReports (g : Generation) : Feed Delta → List Event
  | [] => g.close.2.reports g.close.1
  | .item d :: _ => (g.absorb d).2.reports (g.absorb d).1
  | _ => []

/-- The position of the queue item that a wait is for. -/
def waitIndex (w : World φ ν) (props : Props) (index : Option Nat) : Nat :=
  index.getD (w.scene.state.currentIteration props.context.loopId)

/-- The events that the next step of a frame reports. -/
def Frame.reports (host : Host φ ν) (w : World φ ν) : Frame φ → List Event
  | .input (.action (.generate name _)) props _ =>
      [.generationStarted name props.context.outputAddress props.context.role]
  | .loop props id _ options i =>
      if (loopEnds host props options i w).1 then [.loopFinished id i] else [.loopIteration id i]
  | .map _ id count _ i => if count ≤ i then [.loopFinished id i] else [.loopIteration id i]
  | .waiting key props index =>
      match w.scene.state.item? key (waitIndex w props index) with
      | some _ => [.itemConsumed key (waitIndex w props index)]
      | none => if index.isNone then [.waiting key (waitIndex w props index)] else []
  | .generation g _ signals => if g.done then [] else g.nextReports signals
  | _ => []

/-! ## Events of the parts of a step -/

/-- The world that a step leads to. -/
def Step.world : Step φ ν → World φ ν
  | .more m => m.world
  | .item _ m => m.world
  | .pending m => m.world
  | .ended m => m.world

@[simp] theorem deliver_world (result : Except Fault Element) (stack : List (Frame φ))
    (w : World φ ν) : (deliver result stack w).world = w := by
  unfold deliver
  split
  · rfl
  · cases result <;> rfl

@[simp] theorem deliverFresh_world (fresh : Option String) (g : Generation) (props : Props)
    (feed : Feed Delta) (rest : List (Frame φ)) (w : World φ ν) :
    (deliverFresh fresh g props feed rest w).world = w := by
  cases fresh with
  | none => rfl
  | some s =>
      rw [deliverFresh]
      exact deliver_world _ _ w

@[simp] theorem stepResolved_world (result : Except Fault (Input φ)) (props : Props)
    (rest : List (Frame φ)) (w : World φ ν) : (stepResolved result props rest w).world = w := by
  cases result with
  | ok i => rfl
  | error f =>
      rw [stepResolved]
      exact deliver_world _ _ w

namespace World

variable (w : World φ ν)

@[simp] theorem events_emit (e : Event) : (w.emit e).scene.events = w.scene.events ++ [e] :=
  Scene.events_emit w.scene e

@[simp] theorem events_setLoop (id : String) (status : LoopStatus) :
    (w.setLoop id status).scene.events = w.scene.events := rfl

@[simp] theorem events_record (address : List String) (key : String) (value : OutputValue) :
    (w.record address key value).scene.events = w.scene.events := rfl

@[simp] theorem events_writeAll (ws : List (Write ν)) :
    (w.writeAll ws).scene.events = w.scene.events := by
  have kept : ∀ (ws : List (Write ν)) (s : Scene ν), (s.writeAll ws).events = s.events := by
    intro ws
    induction ws with
    | nil => intro s; rfl
    | cons x ws ih =>
        intro s
        refine (ih (s.write x)).trans ?_
        cases x with
        | remark n => simp [Scene.write, Scene.events]
        | _ => rfl
  exact kept ws w.scene

@[simp] theorem events_complete (ref : ConnectorRef) (request : Request) :
    (w.complete ref request).2.scene.events = w.scene.events := by
  rw [complete_scene]

theorem events_takeStream {w w' : World φ ν} {cell : Nat} {feed : Feed Element}
    (taken : w.takeStream? cell = some (feed, w')) : w'.scene.events = w.scene.events := by
  unfold takeStream? at taken
  split at taken
  · cases taken
    rfl
  · cases taken

end World

section Events

variable (host : Host φ ν) (rest : List (Frame φ)) (w : World φ ν)

theorem events_loopEnds (props : Props) (options : LoopOptions φ) (i : Nat) :
    (loopEnds host props options i w).2.scene.events = w.scene.events := by
  unfold loopEnds
  split
  · rfl
  · split
    · exact World.events_writeAll w _
    · rfl

theorem events_startAction (a : Action φ) (props : Props) (fromFunction : Bool) :
    (startAction host a props w).2.scene.events
      = w.scene.events ++ (Frame.input (.action a) props fromFunction).reports host w := by
  cases a with
  | generate name options =>
      refine (World.events_complete _ _ _).trans ?_
      exact World.events_emit w _
  | custom f => exact (World.events_writeAll w _).trans (List.append_nil _).symm
  | _ => exact (List.append_nil _).symm

theorem events_stepInput (i : Input φ) (props : Props) (fromFunction : Bool) :
    (stepInput host i props fromFunction rest w).world.scene.events
      = w.scene.events ++ (Frame.input i props fromFunction).reports host w := by
  cases i with
  | number x => simp [stepInput, Frame.reports]
  | text s => simp [stepInput, Frame.reports]
  | function f => exact (World.events_writeAll w _).trans (List.append_nil _).symm
  | deferred d => cases d <;> exact (List.append_nil _).symm
  | action a => exact events_startAction host w a props fromFunction
  | stream cell =>
      rw [stepInput, Frame.reports, List.append_nil]
      · split
        next feed w' taken => exact World.events_takeStream taken
        next => rfl
      all_goals simp
  | null => exact (List.append_nil _).symm
  | list items => exact (List.append_nil _).symm

theorem events_stepShared (cell : Nat) (props : Props) :
    (stepShared host cell props rest w).world.scene.events = w.scene.events := by
  unfold stepShared
  split
  next => rfl
  next result _ => rw [stepResolved_world]
  next future polls _ =>
    dsimp only
    split
    next => exact World.events_writeAll w _
    next =>
      rw [stepResolved_world]
      exact World.events_writeAll w _

theorem events_stepBinder (props : Props) (literals : List String) (slots : List (Slot φ)) :
    (stepBinder props literals slots rest w).world.scene.events = w.scene.events := by
  by_cases exhausted : literals = [] ∧ slots = []
  · obtain ⟨rfl, rfl⟩ := exhausted
    rfl
  · rw [stepBinder_of_left props rest w exhausted]
    split
    next =>
      split
      next => rfl
      next => rw [deliver_world]
    next => rfl

theorem events_stepFeed (signals : Feed Element) :
    (stepFeed signals rest w).world.scene.events = w.scene.events := by
  cases signals with
  | nil => rfl
  | cons signal more =>
      cases signal with
      | item e => simp [stepFeed]
      | failed f => simp [stepFeed]
      | pending => rfl

theorem events_stepLoop (props : Props) (id : String) (body : Input φ) (options : LoopOptions φ)
    (i : Nat) :
    (stepLoop host props id body options i rest w).world.scene.events
      = w.scene.events ++ (Frame.loop props id body options i).reports host w := by
  have asked := events_loopEnds host w props options i
  rw [stepLoop, Frame.reports]
  cases ends : loopEnds host props options i w with
  | mk ended w' =>
      rw [ends] at asked
      cases ended with
      | true =>
          refine (World.events_emit _ _).trans ?_
          rw [World.events_setLoop, asked]
          rfl
      | false =>
          refine (World.events_emit _ _).trans ?_
          rw [World.events_setLoop, asked]
          rfl

theorem events_stepMap (props : Props) (id : String) (count : Nat) (item : φ) (i : Nat) :
    (stepMap host props id count item i rest w).world.scene.events
      = w.scene.events ++ (Frame.map props id count item i).reports host w := by
  rw [stepMap, Frame.reports]
  split
  next => exact World.events_emit _ _
  next => exact (World.events_writeAll _ _).trans (World.events_emit _ _)

/-- A wait whose item is there emits it. -/
theorem stepWaiting_of_item {key : String} {props : Props} {index : Option Nat} {item : Json}
    (there : w.scene.state.item? key (waitIndex w props index) = some item) :
    stepWaiting key props index rest w
      = consumeItem key (waitIndex w props index) item props rest w := by
  cases index with
  | some i =>
      have found : w.scene.state.item? key i = some item := there
      simp only [stepWaiting, found]
      rfl
  | none =>
      have found : w.scene.state.item? key
          (w.scene.state.currentIteration props.context.loopId) = some item := there
      simp only [stepWaiting, found]
      rfl

/-- The world once a wait has found nothing: the first time it says so. -/
def World.awaiting (key : String) (props : Props) (index : Option Nat) : World φ ν :=
  if index.isNone then w.emit (.waiting key (waitIndex w props index)) else w

/-- Otherwise it stays, with its position fixed. -/
theorem stepWaiting_of_none {key : String} {props : Props} {index : Option Nat}
    (missing : w.scene.state.item? key (waitIndex w props index) = none) :
    stepWaiting key props index rest w
      = .pending ⟨.waiting key props (some (waitIndex w props index)) :: rest,
          w.awaiting key props index⟩ := by
  cases index with
  | some i =>
      have found : w.scene.state.item? key i = none := missing
      simp only [stepWaiting, found]
      rfl
  | none =>
      have found : w.scene.state.item? key
          (w.scene.state.currentIteration props.context.loopId) = none := missing
      simp only [stepWaiting, found]
      rfl

theorem events_stepWaiting (key : String) (props : Props) (index : Option Nat) :
    (stepWaiting key props index rest w).world.scene.events
      = w.scene.events ++ (Frame.waiting key props index).reports host w := by
  rw [Frame.reports]
  cases looked : w.scene.state.item? key (waitIndex w props index) with
  | some item =>
      rw [stepWaiting_of_item rest w looked, consumeItem, deliver_world]
      exact World.events_emit _ _
  | none =>
      rw [stepWaiting_of_none rest w looked]
      cases index with
      | some i => exact (List.append_nil _).symm
      | none => exact World.events_emit w _

theorem events_emitDelta (name : String) (fresh : Option String) :
    (emitDelta w name fresh).scene.events
      = w.scene.events ++ (fresh.map (.generationDelta name)).toList := by
  cases fresh with
  | none => exact (List.append_nil _).symm
  | some s => exact World.events_emit w _

theorem events_heardDelta (fresh : Option String) (g : Generation) (props : Props) :
    (heardDelta fresh g props w).scene.events = w.scene.events ++ g.reports fresh := by
  unfold heardDelta Generation.reports
  split
  next =>
    rw [recordGeneration, World.events_emit, World.events_record, events_emitDelta,
      List.append_assoc]
  next => rw [events_emitDelta, List.append_nil]

theorem close_done (g : Generation) : g.close.2.done = true := by
  rw [Generation.close]
  exact Generation.finish_done _

/-- Taking in the end of a completion is one way of hearing that it is over. -/
theorem recordGeneration_close (g : Generation) (props : Props) :
    recordGeneration (emitDelta w g.close.2.name g.close.1) g.close.2 props
      = heardDelta g.close.1 g.close.2 props w := by
  rw [heardDelta, if_pos (close_done g)]

theorem events_stepGeneration (g : Generation) (props : Props) (feed : Feed Delta) :
    (stepGeneration g props feed rest w).world.scene.events
      = w.scene.events ++ (Frame.generation g props feed).reports host w := by
  cases isDone : g.done with
  | true =>
      rw [stepGeneration_of_done props feed rest w isDone, Frame.reports, if_pos isDone]
      exact (List.append_nil _).symm
  | false =>
      rw [Frame.reports, if_neg (ne_true_of_eq_false isDone)]
      cases feed with
      | nil =>
          rw [stepGeneration_nil props rest w isDone, deliverFresh_world, recordGeneration_close]
          exact events_heardDelta w _ _ props
      | cons signal more =>
          cases signal with
          | item d =>
              rw [stepGeneration_item props more rest w d isDone, deliverFresh_world]
              exact events_heardDelta w _ _ props
          | failed f =>
              rw [stepGeneration_failed props more rest w f isDone, deliver_world]
              exact (List.append_nil _).symm
          | pending =>
              rw [stepGeneration_pending props more rest w isDone]
              exact (List.append_nil _).symm

/-- A step adds to the journal the events of the frame on top, and no others. -/
theorem events_step (f : Frame φ) :
    (Machine.step host ⟨f :: rest, w⟩).world.scene.events
      = w.scene.events ++ f.reports host w := by
  cases f with
  | input i props fromFunction => exact events_stepInput host rest w i props fromFunction
  | loop props id body options i => exact events_stepLoop host rest w props id body options i
  | map props id count item i => exact events_stepMap host rest w props id count item i
  | waiting key props index => exact events_stepWaiting host rest w key props index
  | generation g props feed => exact events_stepGeneration host rest w g props feed
  | guard failed => exact (List.append_nil _).symm
  | items props index items => cases items <;> exact (List.append_nil _).symm
  | binder props literals slots =>
      exact (events_stepBinder rest w props literals slots).trans (List.append_nil _).symm
  | feed signals => exact (events_stepFeed rest w signals).trans (List.append_nil _).symm
  | awaitShared cell props =>
      exact (events_stepShared host rest w cell props).trans (List.append_nil _).symm
  | awaitFresh future polls props =>
      refine Eq.trans ?_ (List.append_nil _).symm
      simp only [Machine.step]
      split
      next => exact World.events_writeAll w _
      next =>
        rw [stepResolved_world]
        exact World.events_writeAll w _

end Events

end PromptStream
