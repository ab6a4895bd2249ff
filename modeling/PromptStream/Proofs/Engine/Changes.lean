import Mathlib.Logic.Relation
import PromptStream.Proofs.Engine.PathContext

/-!
# What a step changes

A step is done by the frame on top of the stack.  It puts some frames in place of that
frame (`Frame.Pushes`) and makes some changes to the world (`World.Changes`), one after
another; then it goes on, hands out an item or finds that an outside source is pending
(`Frame.Does`).  `step_does` is the inversion of a step along these lines.  What holds
of a world is therefore shown change by change, and what holds of a stack from the few
shapes of what is pushed: only the iteration that has just been announced lies below
something new, and only a wait that has found nothing keeps a fixed position.
-/

namespace PromptStream

variable {φ ν : Type}

/-! ## Changes to the world -/

/-- What author code may ask for at some time. -/
inductive Host.Asks (host : Host φ ν) : Write ν → Prop where
  | call {x : Write ν} (f : φ) (props : Props) (s : Scene ν) :
      x ∈ (host.call f props s).2 → Asks host x
  | poll {x : Write ν} (f : φ) (polls : Nat) (s : Scene ν) :
      x ∈ (host.poll f polls s).2 → Asks host x
  | until? {x : Write ν} (f : φ) (props : Props) (finished : Nat) (s : Scene ν) :
      x ∈ (host.until? f props finished s).2 → Asks host x
  | item {x : Write ν} (f : φ) (i : Nat) (s : Scene ν) :
      x ∈ (host.item f i s).2 → Asks host x
  | perform {x : Write ν} (f : φ) (props : Props) (s : Scene ν) :
      x ∈ (host.perform f props s).2 → Asks host x

/-- Where there is no author code, nothing is asked for. -/
theorem Host.none_asks (x : Write ν) : ¬ (Host.none : Host Empty ν).Asks x := by
  intro asks
  cases asks with
  | call f => exact nomatch f
  | poll f => exact nomatch f
  | until? f => exact nomatch f
  | item f => exact nomatch f
  | perform f => exact nomatch f

/-- The status of a loop that an event reports, if it is about that loop. -/
def Event.status? (id : String) : Event → Option LoopStatus
  | .loopIteration other i => if other = id then some (.iteration i) else none
  | .loopFinished other _ => if other = id then some .notRunning else none
  | _ => none

namespace World

/-- A change that a step may make to the world. -/
inductive Change (host : Host φ ν) (w : World φ ν) : World φ ν → Prop where
  | write {x : Write ν} : host.Asks x → Change host w { w with scene := w.scene.write x }
  | report {e : Event} : (∀ id, e.status? id = none) → Change host w (w.emit e)
  | enter (id : String) (i : Nat) : Change host w (enterIteration w id i)
  | leave (id : String) (iterations : Nat) : Change host w (leaveLoop w id iterations)
  | record (address : List String) (key : String) (value : OutputValue) :
      Change host w (w.record address key value)
  | complete (ref : ConnectorRef) (request : Request) :
      Change host w (w.complete ref request).2
  | take {cell : Nat} {feed : Feed Element} {w' : World φ ν} :
      w.takeStream? cell = some (feed, w') → Change host w w'
  | share (futures : List (FutureCell φ)) : Change host w { w with futures := futures }

/-- Some changes, one after another. -/
abbrev Changes (host : Host φ ν) : World φ ν → World φ ν → Prop :=
  Relation.ReflTransGen (Change host)

namespace Changes

variable {host : Host φ ν} (w : World φ ν)

theorem writeAll {ws : List (Write ν)} (asks : ∀ x ∈ ws, host.Asks x) :
    Changes host w (w.writeAll ws) := by
  induction ws generalizing w with
  | nil => exact .refl
  | cons x ws ih =>
      have later := ih { w with scene := w.scene.write x }
        fun y mem => asks y (List.mem_cons_of_mem _ mem)
      exact .head (.write (asks x List.mem_cons_self)) later

theorem loopEnds (props : Props) (options : LoopOptions φ) (i : Nat) :
    Changes host w (loopEnds host props options i w).2 := by
  unfold PromptStream.loopEnds
  split
  next => exact .refl
  next =>
    split
    next => exact writeAll w fun x => .until? _ props _ w.scene
    next => exact .refl

theorem heardDelta (fresh : Option String) (g : Generation) (props : Props) :
    Changes host w (heardDelta fresh g props w) := by
  have said : Changes host w (emitDelta w g.name fresh) := by
    cases fresh with
    | none => exact .refl
    | some s => exact .single (.report fun _ => rfl)
  unfold PromptStream.heardDelta
  split
  next => exact (said.tail (.record _ _ _)).tail (.report fun _ => rfl)
  next => exact said

theorem awaiting (key : String) (props : Props) (index : Option Nat) :
    Changes host w (w.awaiting key props index) := by
  unfold World.awaiting
  split
  next => exact .single (.report fun _ => rfl)
  next => exact .refl

end Changes

end World

/-! ## Frames in place of a frame -/

namespace Frame

/-- The iteration that a frame has started last. -/
def iteration? : Frame φ → Option (String × Nat)
  | .loop _ id _ _ next => some (id, next - 1)
  | .map _ id _ _ next => some (id, next - 1)
  | _ => none

/-- The position that a wait is fixed to, with the props of the wait. -/
def fixed? : Frame φ → Option (Props × Nat)
  | .waiting _ props (some i) => some (props, i)
  | _ => none

@[simp] theorem iteration?_mark (f : Frame φ) : f.mark.iteration? = f.iteration? := by
  cases f <;> rfl

@[simp] theorem fixed?_mark (f : Frame φ) : f.mark.fixed? = f.fixed? := by
  cases f <;> rfl

/-- Frames that only see to it that what is above them is resolved in order. -/
def Plain (f : Frame φ) : Prop := f.iteration? = none ∧ f.fixed? = none

theorem plain_of_mem_guarded {i : Input φ} {props : Props} {f : Frame φ}
    (mem : f ∈ guarded i props) : f.Plain := by
  simp only [guarded, List.mem_cons, List.not_mem_nil, or_false] at mem
  rcases mem with rfl | rfl <;> exact ⟨rfl, rfl⟩

/-- The frames that a step may put in place of a frame, but for those of a wait that has
found nothing. -/
inductive Pushes (host : Host φ ν) (w : World φ ν) (f : Frame φ) : List (Frame φ) → Prop where
  | nothing : Pushes host w f []
  | work {g : Frame φ} {below : List (Frame φ)} :
      g.fixed? = none → (∀ h ∈ below, h.Plain) → Pushes host w f (g :: below)
  | iteration {body : Input φ} {props : Props} {g : Frame φ} {id : String} {i : Nat} :
      f.reports host w = [.loopIteration id i] → g.iteration? = some (id, i) → g.fixed? = none →
      Pushes host w f (guarded body props ++ [g])

/-- What a frame does when it is on top of some other work. -/
inductive Does (host : Host φ ν) (rest : List (Frame φ)) (w : World φ ν) :
    Frame φ → Step φ ν → Prop where
  | more {f : Frame φ} {p : List (Frame φ)} {w' : World φ ν} :
      f.Pushes host w p → w.Changes host w' → Does host rest w f (.more ⟨p ++ rest, w'⟩)
  | deliver {f : Frame φ} {result : Except Fault Element} {p : List (Frame φ)}
      {w' : World φ ν} :
      f.Pushes host w p → w.Changes host w' →
      Does host rest w f (PromptStream.deliver result (p ++ rest) w')
  | pending {f : Frame φ} {p : List (Frame φ)} {w' : World φ ν} :
      f.Pushes host w p → w.Changes host w' →
      Does host rest w f (.pending ⟨p ++ rest, w'⟩)
  | await (key : String) (props : Props) (index : Option Nat) :
      w.scene.state.item? key (waitIndex w props index) = none →
      Does host rest w (.waiting key props index)
        (.pending ⟨.waiting key props (some (waitIndex w props index)) :: rest,
          w.awaiting key props index⟩)

namespace Pushes

variable {host : Host φ ν} {w : World φ ν} {f : Frame φ}

theorem one {g : Frame φ} (unfixed : g.fixed? = none) : f.Pushes host w [g] :=
  .work unfixed fun _ none => nomatch none

theorem two {g h : Frame φ} (unfixed : g.fixed? = none) (plain : h.Plain) :
    f.Pushes host w [g, h] :=
  .work unfixed fun _ mem => List.mem_singleton.1 mem ▸ plain

theorem binderFrames (props : Props) (literals : List String) (slots : List (Slot φ)) :
    f.Pushes host w (binderFrames props literals slots) := two rfl ⟨rfl, rfl⟩

theorem guarded (i : Input φ) (props : Props) : f.Pushes host w (guarded i props) :=
  two rfl ⟨rfl, rfl⟩

end Pushes

end Frame

/-! ## Steps -/

section Steps

open PromptStream.Frame (Pushes Does)
open World (Change Changes)

variable (host : Host φ ν) (rest : List (Frame φ)) (w : World φ ν)

section Input

variable (props : Props) (fromFunction : Bool)

theorem startAction_does (a : Action φ) :
    (Frame.input (.action a) props fromFunction).Pushes host w (startAction host a props w).1 ∧
      w.Changes host (startAction host a props w).2 := by
  cases a with
  | template scope literals slots => exact ⟨.binderFrames _ _ _, .refl⟩
  | generate name options =>
      have announced : w.Changes host
          (w.emit (.generationStarted name props.context.outputAddress props.context.role)) :=
        .single (.report fun _ => rfl)
      exact ⟨.one rfl, announced.tail (.complete _ _)⟩
  | loop id body options => exact ⟨.two rfl ⟨rfl, rfl⟩, .refl⟩
  | map id count item => exact ⟨.two rfl ⟨rfl, rfl⟩, .refl⟩
  | wait key => exact ⟨.one rfl, .refl⟩
  | custom f =>
      refine ⟨?_, Changes.writeAll w fun x => .perform f props w.scene⟩
      simp only [startAction]
      cases (host.perform f props w.scene).1 with
      | resolve i props => exact .guarded i props
      | bind literals slots props => exact .binderFrames props literals slots
      | emit signals => exact .one rfl

theorem stepInput_does (i : Input φ) :
    (Frame.input i props fromFunction).Does host rest w
      (stepInput host i props fromFunction rest w) := by
  cases i with
  | null => exact .more (p := []) .nothing .refl
  | number x =>
      rw [stepInput]
      exact .deliver (p := []) .nothing .refl
  | text s =>
      rw [stepInput]
      exact .deliver (p := []) .nothing .refl
  | list items => exact .more (p := [_, _]) (.two rfl ⟨rfl, rfl⟩) .refl
  | function f =>
      exact .more (p := [_]) (.one rfl) (Changes.writeAll w fun x => .call f props w.scene)
  | deferred d =>
      cases d with
      | shared cell => exact .more (p := [_]) (.one rfl) .refl
      | fresh future => exact .more (p := [_]) (.one rfl) .refl
  | action a =>
      obtain ⟨pushes, changes⟩ := startAction_does host w props fromFunction a
      exact .more pushes changes
  | stream cell =>
      simp only [stepInput]
      split
      next feed w' taken =>
        exact .more (p := [_, _]) (.two rfl ⟨rfl, rfl⟩) (.single (.take taken))
      next => exact .more (p := []) .nothing .refl

end Input

/-- Going on with the result of a future, once it has arrived. -/
theorem stepResolved_does {f : Frame φ} {w' : World φ ν} (changes : w.Changes host w')
    (result : Except Fault (Input φ)) (props : Props) :
    f.Does host rest w (stepResolved result props rest w') := by
  cases result with
  | ok i => exact .more (p := [_]) (.one rfl) changes
  | error fault =>
      rw [stepResolved]
      exact .deliver (p := []) .nothing changes

theorem stepShared_does (cell : Nat) (props : Props) :
    (Frame.awaitShared cell props).Does host rest w (stepShared host cell props rest w) := by
  unfold stepShared
  split
  next => exact .more (p := []) .nothing .refl
  next result _ => exact stepResolved_does host rest w .refl result props
  next future polls _ =>
    have polled : w.Changes host (w.writeAll (host.poll future polls w.scene).2) :=
      Changes.writeAll w fun x => .poll future polls w.scene
    dsimp only
    split
    next => exact .pending (p := [_]) (.one rfl) (polled.tail (.share _))
    next result _ => exact stepResolved_does host rest w (polled.tail (.share _)) result props

theorem stepBinder_does (props : Props) (literals : List String) (slots : List (Slot φ)) :
    (Frame.binder props literals slots).Does host rest w
      (stepBinder props literals slots rest w) := by
  by_cases exhausted : literals = [] ∧ slots = []
  · obtain ⟨rfl, rfl⟩ := exhausted
    exact .more (p := []) .nothing .refl
  · -- The next slot, if it is filled, and the rest of the template.
    obtain ⟨pushed, pushes, stack⟩ : ∃ pushed,
        (Frame.binder props literals slots).Pushes host w pushed ∧
          templateRest props literals slots rest = pushed ++ rest := by
      rcases templateRest_cases props literals slots rest with ⟨i, -, stack⟩ | ⟨-, stack⟩
      · refine ⟨[_, _, _], .work rfl fun h mem => ?_, stack⟩
        simp only [List.mem_cons, List.not_mem_nil, or_false] at mem
        rcases mem with rfl | rfl <;> exact ⟨rfl, rfl⟩
      · exact ⟨[_], .one rfl, stack⟩
    rw [stepBinder_of_left props rest w exhausted, stack]
    split
    next =>
      split
      next => exact .more pushes .refl
      next => exact .deliver pushes .refl
    next => exact .more pushes .refl

theorem stepLoop_does (props : Props) (id : String) (body : Input φ) (options : LoopOptions φ)
    (i : Nat) :
    (Frame.loop props id body options i).Does host rest w
      (stepLoop host props id body options i rest w) := by
  have asked : w.Changes host (loopEnds host props options i w).2 :=
    Changes.loopEnds w props options i
  cases ends : loopEnds host props options i w with
  | mk ended w' =>
      rw [ends] at asked
      rw [stepLoop, ends]
      cases ended with
      | true => exact .more (p := []) .nothing (asked.tail (.leave id i))
      | false =>
          have reports : (Frame.loop props id body options i).reports host w
              = [.loopIteration id i] := by
            rw [Frame.reports, ends]
            rfl
          exact .more (p := [_, _, _]) (.iteration reports rfl rfl)
            (asked.tail (.enter id i))

theorem stepMap_does (props : Props) (id : String) (count : Nat) (item : φ) (i : Nat) :
    (Frame.map props id count item i).Does host rest w
      (stepMap host props id count item i rest w) := by
  rw [stepMap]
  split
  next => exact .more (p := []) .nothing (.single (.leave id i))
  next goesOn =>
    have reports : (Frame.map props id count item i).reports host w = [.loopIteration id i] := by
      rw [Frame.reports, if_neg goesOn]
    have entered : w.Changes host (enterIteration w id i) := .single (.enter id i)
    exact .more (p := [_, _, _]) (.iteration reports rfl rfl)
      (entered.trans (Changes.writeAll _ fun x => .item item i _))

theorem stepFeed_does (signals : Feed Element) :
    (Frame.feed signals).Does host rest w (stepFeed signals rest w) := by
  cases signals with
  | nil => exact .more (p := []) .nothing .refl
  | cons signal more =>
      cases signal with
      | item e =>
          rw [stepFeed]
          exact .deliver (p := [.feed more]) (.one rfl) .refl
      | failed f =>
          rw [stepFeed]
          exact .deliver (p := [.feed more]) (.one rfl) .refl
      | pending => exact .pending (p := [_]) (.one rfl) .refl

theorem stepWaiting_does (key : String) (props : Props) (index : Option Nat) :
    (Frame.waiting key props index).Does host rest w (stepWaiting key props index rest w) := by
  cases looked : w.scene.state.item? key (waitIndex w props index) with
  | some item =>
      rw [stepWaiting_of_item rest w looked, consumeItem]
      have recorded : w.Changes host
          (w.record props.context.outputAddress key (.text (itemText item))) :=
        .single (.record _ _ _)
      exact .deliver (p := []) .nothing (recorded.tail (.report fun _ => rfl))
  | none =>
      rw [stepWaiting_of_none rest w looked]
      exact .await key props index looked

theorem deliverFresh_does {f : Frame φ} {w' : World φ ν} (changes : w.Changes host w')
    (fresh : Option String) (g : Generation) (props : Props) (feed : Feed Delta) :
    f.Does host rest w (deliverFresh fresh g props feed rest w') := by
  cases fresh with
  | none => exact .more (p := [_]) (.one rfl) changes
  | some s =>
      rw [deliverFresh]
      exact .deliver (p := [.generation g props feed]) (.one rfl) changes

theorem stepGeneration_does (g : Generation) (props : Props) (feed : Feed Delta) :
    (Frame.generation g props feed).Does host rest w (stepGeneration g props feed rest w) := by
  cases isDone : g.done with
  | true =>
      rw [stepGeneration_of_done props feed rest w isDone]
      exact .more (p := []) .nothing .refl
  | false =>
      match feed with
      | [] =>
          rw [stepGeneration_nil props rest w isDone, recordGeneration_close]
          exact deliverFresh_does host rest w (Changes.heardDelta w _ _ props) _ _ _ _
      | .item d :: more =>
          rw [stepGeneration_item props more rest w d isDone]
          exact deliverFresh_does host rest w (Changes.heardDelta w _ _ props) _ _ _ _
      | .failed f :: more =>
          rw [stepGeneration_failed props more rest w f isDone]
          exact .deliver (p := [.generation _ props more]) (.one rfl) .refl
      | .pending :: more =>
          rw [stepGeneration_pending props more rest w isDone]
          exact .pending (p := [_]) (.one rfl) .refl

/-- What a step can do: the frame on top is replaced, and the world is changed. -/
theorem step_does (f : Frame φ) : f.Does host rest w (Machine.step host ⟨f :: rest, w⟩) := by
  cases f with
  | guard failed => exact .more (p := []) .nothing .refl
  | input i props fromFunction => exact stepInput_does host rest w props fromFunction i
  | items props index more =>
      cases more with
      | nil => exact .more (p := []) .nothing .refl
      | cons i more => exact .more (p := [_, _]) (.two rfl ⟨rfl, rfl⟩) .refl
  | binder props literals slots => exact stepBinder_does host rest w props literals slots
  | loop props id body options next => exact stepLoop_does host rest w props id body options next
  | map props id count item next => exact stepMap_does host rest w props id count item next
  | feed signals => exact stepFeed_does host rest w signals
  | awaitShared cell props => exact stepShared_does host rest w cell props
  | awaitFresh future polls props =>
      have polled : w.Changes host (w.writeAll (host.poll future polls w.scene).2) :=
        Changes.writeAll w fun x => .poll future polls w.scene
      simp only [Machine.step]
      split
      next => exact .pending (p := [_]) (.one rfl) polled
      next result _ => exact stepResolved_does host rest w polled result props
  | waiting key props index => exact stepWaiting_does host rest w key props index
  | generation g props feed => exact stepGeneration_does host rest w g props feed

variable {host rest w} in
theorem Frame.Does.changes {f : Frame φ} {s : Step φ ν} (does : f.Does host rest w s) :
    w.Changes host s.world := by
  cases does with
  | more _ changes => exact changes
  | deliver _ changes =>
      rw [deliver_world]
      exact changes
  | pending _ changes => exact changes
  | await key props index _ => exact Changes.awaiting w key props index

theorem step_changes (host : Host φ ν) (m : Machine φ ν) :
    m.world.Changes host (Machine.step host m).world := by
  obtain ⟨stack, w⟩ := m
  cases stack with
  | nil => exact .refl
  | cons f rest => exact (step_does host rest w f).changes

/-- The consumer leaves the work and the state as they are. -/
theorem Run.settle_stack (s : Step φ ν) : (Run.settle s).2.stack = s.stack := by
  cases s with
  | item result m => cases result <;> rfl
  | _ => rfl

theorem Run.settle_state (s : Step φ ν) :
    (Run.settle s).2.world.scene.state = s.world.scene.state := by
  cases s with
  | item result m => cases result <;> rfl
  | _ => rfl

end Steps

/-! ## What is left of a stack -/

/-- The end of a stack, perhaps with marks. -/
def IsLeftOf (left stack : List (Frame φ)) : Prop :=
  ∃ suffix, suffix <:+ stack ∧ (left = suffix ∨ left = suffix.map Frame.mark)

theorem isSuffix_of_belowFailed {stack left : List (Frame φ)}
    (failed : Frame.belowFailed stack = some left) : left <:+ stack := by
  induction stack with
  | nil => cases failed
  | cons f rest ih =>
      unfold Frame.belowFailed at failed
      split at failed
      next => cases failed
      next rest same =>
        cases same
        cases failed
        exact List.suffix_cons _ _
      next same =>
        cases same
        exact (ih failed).trans (List.suffix_cons f rest)

theorem deliver_stack_isLeftOf (result : Except Fault Element) (stack : List (Frame φ))
    (w : World φ ν) : IsLeftOf (deliver result stack w).stack stack := by
  unfold deliver
  split
  next left failed => exact ⟨left, isSuffix_of_belowFailed failed, .inl rfl⟩
  next =>
    cases result with
    | ok e => exact ⟨stack, List.suffix_rfl, .inl rfl⟩
    | error f => exact ⟨stack, List.suffix_rfl, .inr rfl⟩

namespace IsLeftOf

variable {left stack : List (Frame φ)}

/-- A property of frames that marks do not change holds of what is left. -/
theorem forall_mem (h : IsLeftOf left stack) {holds : Frame φ → Prop}
    (marked : ∀ f, holds f → holds f.mark) (all : ∀ f ∈ stack, holds f) :
    ∀ f ∈ left, holds f := by
  obtain ⟨suffix, isSuffix, rfl | rfl⟩ := h
  · exact fun f mem => all f (isSuffix.subset mem)
  · intro f mem
    obtain ⟨g, among, rfl⟩ := List.mem_map.1 mem
    exact marked g (all g (isSuffix.subset among))

/-- What lies below the top of what is left lay below the top before. -/
theorem tail (h : IsLeftOf left stack) : IsLeftOf left.tail stack.tail := by
  obtain ⟨suffix, isSuffix, same⟩ := h
  have below : suffix.tail <:+ stack.tail := by
    rcases stack with _ | ⟨f, rest⟩
    · exact List.suffix_nil.1 isSuffix ▸ List.suffix_rfl
    · rcases List.suffix_cons_iff.1 isSuffix with rfl | lower
      · exact List.suffix_rfl
      · exact (List.tail_suffix suffix).trans lower
  refine ⟨suffix.tail, below, ?_⟩
  rcases same with rfl | rfl
  · exact .inl rfl
  · exact .inr List.map_tail.symm

end IsLeftOf

/-! ## Fixed positions -/

/-- Only a wait on top has a fixed position, and that is the iteration of its loop. -/
structure FixesTop (state : RunState) (stack : List (Frame φ)) : Prop where
  below : ∀ f ∈ stack.tail, f.fixed? = none
  top : ∀ f ∈ stack.head?, ∀ props i, f.fixed? = some (props, i) →
    i = state.currentIteration props.context.loopId

theorem FixesTop.of_unfixed {state : RunState} {stack : List (Frame φ)}
    (unfixed : ∀ f ∈ stack, f.fixed? = none) : FixesTop state stack where
  below f mem := unfixed f (List.mem_of_mem_tail mem)
  top f mem props i fixed := by
    rw [unfixed f (List.mem_of_mem_head? mem)] at fixed
    cases fixed

/-- The queues make no difference. -/
theorem FixesTop.of_loops {state state' : RunState} {stack : List (Frame φ)}
    (h : FixesTop state stack) (loops : state'.loops = state.loops) : FixesTop state' stack where
  below := h.below
  top f top props i fixed := by
    have status : state'.loopStatus? = state.loopStatus? := by
      funext id
      exact congrArg (Dict.find? id) loops
    rw [RunState.currentIteration, status]
    exact h.top f top props i fixed

theorem FixesTop.guarded (state : RunState) (i : Input φ) (props : Props) :
    FixesTop state (Frame.guarded i props) :=
  .of_unfixed fun _ mem => (Frame.plain_of_mem_guarded mem).2

theorem Frame.Pushes.unfixed {host : Host φ ν} {w : World φ ν} {f : Frame φ}
    {pushed : List (Frame φ)} (h : f.Pushes host w pushed) : ∀ g ∈ pushed, g.fixed? = none := by
  intro g mem
  cases h with
  | nothing => cases mem
  | work top below =>
      rcases List.mem_cons.1 mem with rfl | mem
      · exact top
      · exact (below g mem).2
  | iteration _ _ unfixed =>
      rcases List.mem_append.1 mem with above | last
      · exact (Frame.plain_of_mem_guarded above).2
      · rw [List.mem_singleton.1 last]
        exact unfixed

theorem World.awaiting_state (w : World φ ν) (key : String) (props : Props) (index : Option Nat) :
    (w.awaiting key props index).scene.state = w.scene.state := by
  unfold World.awaiting
  split <;> rfl

/-- A step leaves no fixed position behind but that of a wait that has found nothing. -/
theorem fixesTop_step (host : Host φ ν) {m : Machine φ ν}
    (h : FixesTop m.world.scene.state m.stack) :
    FixesTop (Machine.step host m).world.scene.state (Machine.step host m).stack := by
  obtain ⟨stack, w⟩ := m
  cases stack with
  | nil => exact h
  | cons f rest =>
      have unfixed : ∀ {pushed : List (Frame φ)}, f.Pushes host w pushed →
          ∀ g ∈ pushed ++ rest, g.fixed? = none := by
        intro pushed pushes g mem
        exact (List.mem_append.1 mem).elim (pushes.unfixed g) (h.below g)
      have does := step_does host rest w f
      generalize Machine.step host ⟨f :: rest, w⟩ = s at does
      cases does with
      | more pushes _ => exact .of_unfixed (unfixed pushes)
      | pending pushes _ => exact .of_unfixed (unfixed pushes)
      | @deliver _ result pushed w' pushes _ =>
          have left := deliver_stack_isLeftOf result (pushed ++ rest) w'
          refine .of_unfixed (left.forall_mem (fun g none => ?_) (unfixed pushes))
          rw [Frame.fixed?_mark]
          exact none
      | await key props index =>
          refine ⟨h.below, fun g top props' i fixed => ?_⟩
          cases top
          cases fixed
          change waitIndex w props index
            = (w.awaiting key props index).scene.state.currentIteration props.context.loopId
          rw [World.awaiting_state]
          cases index with
          | none => rfl
          | some i => exact h.top _ rfl props i rfl

end PromptStream
