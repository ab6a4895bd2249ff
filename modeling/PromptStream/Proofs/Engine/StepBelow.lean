import PromptStream.Proofs.Engine.Reports

/-!
# The work below

A machine does not look at the work below its own frames until it comes to it.  While
nothing down there has failed, a step is the one that the machine does alone, put on top
of that work (`step_onto`); only a failure reaches it, and marks the guards that it
passes.  The same holds as long as the frames of the machine cover what is below
(`step_onto_of_covers`): once one of their own sequences has failed, the next item ends
that one and comes no further.
-/

namespace PromptStream

variable {φ ν : Type}

/-- A machine on top of some work. -/
def Machine.onto (rest : List (Frame φ)) (m : Machine φ ν) : Machine φ ν :=
  ⟨m.stack ++ rest, m.world⟩

/-- The outcome of a step on top of some work. -/
def Step.onto (rest : List (Frame φ)) : Step φ ν → Step φ ν
  | .more m => .more (m.onto rest)
  | .item (.ok e) m => .item (.ok e) (m.onto rest)
  | .item (.error f) m => .item (.error f) (m.onto (rest.map Frame.mark))
  | .pending m => .pending (m.onto rest)
  | .ended m => .ended (m.onto rest)

/-- Some frames lie above others and tell by themselves which sequence an item ends. -/
def Frame.Covers (above rest : List (Frame φ)) : Prop :=
  belowFailed (above ++ rest) = (belowFailed above).map (· ++ rest)

namespace Frame.Covers

variable {above rest : List (Frame φ)}

theorem append (h : Covers above rest) (pushed : List (Frame φ)) :
    Covers (pushed ++ above) rest := by
  induction pushed with
  | nil => exact h
  | cons f pushed ih =>
      cases f with
      | guard failed =>
          cases failed with
          | true => rfl
          | false => exact ih
      | _ => exact ih

/-- If nothing below has failed, it is not asked. -/
theorem of_intact (intact : belowFailed rest = none) (above : List (Frame φ)) :
    Covers above rest := by
  have nothing : Covers [] rest := intact
  have all := nothing.append above
  rwa [List.append_nil] at all

/-- If something above has failed, what lies below is not asked either. -/
theorem of_failed (failed : (belowFailed above).isSome) (rest : List (Frame φ)) :
    Covers above rest := by
  induction above with
  | nil => cases failed
  | cons f above ih =>
      cases f with
      | guard marked =>
          cases marked with
          | true => rfl
          | false => exact ih failed
      | _ => exact ih failed

end Frame.Covers

section Onto

variable {above rest : List (Frame φ)} (covers : Frame.Covers above rest)

include covers

theorem deliver_onto (result : Except Fault Element) (w : World φ ν) :
    deliver result (above ++ rest) w = (deliver result above w).onto rest := by
  unfold deliver
  rw [covers]
  cases Frame.belowFailed above with
  | some below => rfl
  | none =>
      cases result with
      | ok e => rfl
      | error f => exact congrArg (fun stack => Step.item _ ⟨stack, w⟩) List.map_append

theorem stepResolved_onto (result : Except Fault (Input φ)) (props : Props) (w : World φ ν) :
    stepResolved result props (above ++ rest) w
      = (stepResolved result props above w).onto rest := by
  cases result with
  | ok i => rfl
  | error f => exact deliver_onto covers (.error f) w

theorem stepInput_onto (host : Host φ ν) (i : Input φ) (props : Props) (fromFunction : Bool)
    (w : World φ ν) :
    stepInput host i props fromFunction (above ++ rest) w
      = (stepInput host i props fromFunction above w).onto rest := by
  cases i with
  | null => rfl
  | number x =>
      rw [stepInput, stepInput]
      exact deliver_onto covers _ w
  | text s =>
      rw [stepInput, stepInput]
      exact deliver_onto covers _ w
  | list items => rfl
  | function f => rfl
  | deferred d => cases d <;> rfl
  | action a => simp only [stepInput, Step.onto, Machine.onto, List.append_assoc]
  | stream cell =>
      simp only [stepInput]
      cases w.takeStream? cell <;> rfl

theorem stepShared_onto (host : Host φ ν) (cell : Nat) (props : Props) (w : World φ ν) :
    stepShared host cell props (above ++ rest) w
      = (stepShared host cell props above w).onto rest := by
  unfold stepShared
  match w.futures[cell]? with
  | none => rfl
  | some (.resolved result) => exact stepResolved_onto covers result props w
  | some (.unresolved future polls) =>
      dsimp only
      cases (host.poll future polls w.scene).1 with
      | none => rfl
      | some result => exact stepResolved_onto covers result props _

omit covers in
theorem templateRest_append (props : Props) (literals : List String) (slots : List (Slot φ)) :
    templateRest props literals slots (above ++ rest)
      = templateRest props literals slots above ++ rest := by
  rw [templateRest, templateRest]
  cases slots.head? with
  | none => rfl
  | some slot => cases slot <;> rfl

theorem stepBinder_onto (props : Props) (literals : List String) (slots : List (Slot φ))
    (w : World φ ν) :
    stepBinder props literals slots (above ++ rest) w
      = (stepBinder props literals slots above w).onto rest := by
  by_cases exhausted : literals = [] ∧ slots = []
  · obtain ⟨rfl, rfl⟩ := exhausted
    rfl
  · rw [stepBinder_of_left props _ w exhausted, stepBinder_of_left props above w exhausted,
      templateRest_append]
    cases literals.head? with
    | none => rfl
    | some literal =>
        dsimp only
        split
        next => rfl
        next =>
          obtain ⟨pushed, stack⟩ := templateRest_eq_append props literals slots above
          rw [stack]
          exact deliver_onto (covers.append pushed) _ w

theorem stepFeed_onto (signals : Feed Element) (w : World φ ν) :
    stepFeed signals (above ++ rest) w = (stepFeed signals above w).onto rest := by
  match signals with
  | [] => rfl
  | .item e :: more => exact deliver_onto (covers.append [.feed more]) (.ok e) w
  | .failed f :: more => exact deliver_onto (covers.append [.feed more]) (.error f) w
  | .pending :: more => rfl

theorem stepWaiting_onto (key : String) (props : Props) (index : Option Nat) (w : World φ ν) :
    stepWaiting key props index (above ++ rest) w
      = (stepWaiting key props index above w).onto rest := by
  cases looked : w.scene.state.item? key (waitIndex w props index) with
  | some item =>
      rw [stepWaiting_of_item _ w looked, stepWaiting_of_item above w looked, consumeItem,
        consumeItem]
      exact deliver_onto covers _ _
  | none =>
      rw [stepWaiting_of_none _ w looked, stepWaiting_of_none above w looked]
      rfl

theorem deliverFresh_onto (fresh : Option String) (g : Generation) (props : Props)
    (feed : Feed Delta) (w : World φ ν) :
    deliverFresh fresh g props feed (above ++ rest) w
      = (deliverFresh fresh g props feed above w).onto rest := by
  cases fresh with
  | none => rfl
  | some s =>
      rw [deliverFresh, deliverFresh]
      exact deliver_onto (covers.append [.generation g props feed]) _ w

theorem stepGeneration_onto (g : Generation) (props : Props) (feed : Feed Delta)
    (w : World φ ν) :
    stepGeneration g props feed (above ++ rest) w
      = (stepGeneration g props feed above w).onto rest := by
  cases isDone : g.done with
  | true => rw [stepGeneration_of_done _ _ _ _ isDone, stepGeneration_of_done _ _ _ _ isDone]; rfl
  | false =>
      match feed with
      | [] =>
          rw [stepGeneration_nil _ _ _ isDone, stepGeneration_nil _ _ _ isDone]
          exact deliverFresh_onto covers _ _ props [] _
      | .item d :: more =>
          rw [stepGeneration_item _ _ _ _ d isDone, stepGeneration_item _ _ _ _ d isDone]
          exact deliverFresh_onto covers _ _ props more _
      | .failed f :: more =>
          rw [stepGeneration_failed _ _ _ _ f isDone, stepGeneration_failed _ _ _ _ f isDone]
          exact deliver_onto (covers.append [_]) (.error f) w
      | .pending :: more =>
          rw [stepGeneration_pending _ _ _ _ isDone, stepGeneration_pending _ _ _ _ isDone]
          rfl

/-- A step of a frame, with frames below it that cover the work below those. -/
theorem step_onto_of_covers (host : Host φ ν) (f : Frame φ) (w : World φ ν) :
    Machine.step host ⟨f :: (above ++ rest), w⟩
      = (Machine.step host ⟨f :: above, w⟩).onto rest := by
  cases f with
  | guard failed => rfl
  | input i props fromFunction => exact stepInput_onto covers host i props fromFunction w
  | items props index more => cases more <;> rfl
  | binder props literals slots => exact stepBinder_onto covers props literals slots w
  | loop props id body options i =>
      simp only [Machine.step, stepLoop]
      cases loopEnds host props options i w with
      | mk ended w' => cases ended <;> rfl
  | map props id count item i =>
      simp only [Machine.step, stepMap]
      split <;> rfl
  | feed signals => exact stepFeed_onto covers signals w
  | awaitShared cell props => exact stepShared_onto covers host cell props w
  | awaitFresh future polls props =>
      simp only [Machine.step]
      cases (host.poll future polls w.scene).1 with
      | none => rfl
      | some result => exact stepResolved_onto covers result props _
  | waiting key props index => exact stepWaiting_onto covers key props index w
  | generation g props feed => exact stepGeneration_onto covers g props feed w

end Onto

/-- A step of a machine with frames of its own is its step alone, put on top of the work
below. -/
theorem step_onto {rest : List (Frame φ)} (intact : Frame.belowFailed rest = none)
    (host : Host φ ν) {m : Machine φ ν} (busy : m.stack ≠ []) :
    Machine.step host (m.onto rest) = (Machine.step host m).onto rest := by
  obtain ⟨stack, w⟩ := m
  obtain ⟨f, above, rfl⟩ := List.exists_cons_of_ne_nil busy
  exact step_onto_of_covers (.of_intact intact above) host f w

end PromptStream
