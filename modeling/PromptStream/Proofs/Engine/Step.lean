import PromptStream.Engine.Machine

/-!
# What a step can do

Every step works on the frame on top of the stack and leaves the frames below it
alone, except that a failure marks guards and that an item may drop what belongs
to a sequence that has failed.  So there are three kinds of steps
(`Step.Above`): one that goes on, one that hands out an item, and one that finds
an outside source pending; each with some frames in place of the topmost one.

What a step does to the world is bounded by `World.Advances`.  It leaves the
consumed prompt alone, and a connector is only ever asked with exactly that
prompt.
-/

namespace PromptStream

variable {φ ν : Type}

/-! ## The world -/

/-- Every connector keeps the requests that it had received, and each further one
holds the given prompt. -/
def World.AskedWith (p : Prompt) (w w' : World φ ν) : Prop :=
  ∀ (i : Nat) (c' : Connector), w'.connectors[i]? = some c' →
    ∃ (c : Connector) (made : List Request), w.connectors[i]? = some c ∧
      c'.requests = c.requests ++ made ∧ ∀ r ∈ made, r.prompt = p

namespace World.AskedWith

theorem of_eq {p : Prompt} {w w' : World φ ν} (same : w'.connectors = w.connectors) :
    w.AskedWith p w' := by
  intro i c' found
  refine ⟨c', [], ?_, (List.append_nil _).symm, ?_⟩
  · rw [← same]
    exact found
  · intro r mem
    cases mem

theorem trans {p : Prompt} {w w' w'' : World φ ν} (first : w.AskedWith p w')
    (second : w'.AskedWith p w'') : w.AskedWith p w'' := by
  intro i c'' found
  obtain ⟨c', later, foundLater, grownLater, promptLater⟩ := second i c'' found
  obtain ⟨c, made, foundFirst, grown, promptFirst⟩ := first i c' foundLater
  refine ⟨c, made ++ later, foundFirst, ?_, ?_⟩
  · rw [grownLater, grown, List.append_assoc]
  · intro r mem
    rcases List.mem_append.1 mem with early | late
    · exact promptFirst r early
    · exact promptLater r late

/-- Asking a connector adds the request to those that it received. -/
theorem complete (w : World φ ν) (ref : ConnectorRef) (request : Request) :
    w.AskedWith request.prompt (w.complete ref request).2 := by
  unfold World.complete
  split
  next c found =>
    intro i c' foundAfter
    simp only [List.getElem?_set] at foundAfter
    split at foundAfter
    next same =>
      split at foundAfter
      next inRange =>
        cases foundAfter
        refine ⟨c, [request], same ▸ found, ?_, ?_⟩
        · unfold Connector.complete
          split <;> rfl
        · intro r mem
          rw [List.mem_singleton.1 mem]
      next => cases foundAfter
    next =>
      refine ⟨c', [], foundAfter, (List.append_nil _).symm, ?_⟩
      intro r mem
      cases mem
  next => exact of_eq rfl

end World.AskedWith

/-- The changes that a step may make to the world. -/
structure World.Advances (w w' : World φ ν) : Prop where
  /-- The consumed prompt stays. -/
  prompt : w'.scene.prompt = w.scene.prompt
  /-- Connectors are asked with the consumed prompt. -/
  asked : w.AskedWith w.scene.prompt w'

namespace World.Advances

theorem of_connectors_eq {w w' : World φ ν} (prompt : w'.scene.prompt = w.scene.prompt)
    (connectors : w'.connectors = w.connectors) : w.Advances w' :=
  ⟨prompt, World.AskedWith.of_eq connectors⟩

theorem refl (w : World φ ν) : w.Advances w := of_connectors_eq rfl rfl

theorem trans {w w' w'' : World φ ν} (first : w.Advances w') (second : w'.Advances w'') :
    w.Advances w'' := by
  refine ⟨second.prompt.trans first.prompt, first.asked.trans ?_⟩
  rw [← first.prompt]
  exact second.asked

theorem emit (w : World φ ν) (e : Event) : w.Advances (w.emit e) := of_connectors_eq rfl rfl

theorem setLoop (w : World φ ν) (id : String) (status : LoopStatus) :
    w.Advances (w.setLoop id status) := of_connectors_eq rfl rfl

theorem record (w : World φ ν) (address : List String) (key : String) (value : OutputValue) :
    w.Advances (w.record address key value) := of_connectors_eq rfl rfl

theorem withFutures (w : World φ ν) (futures : List (FutureCell φ)) :
    w.Advances { w with futures := futures } := of_connectors_eq rfl rfl

/-- Author code cannot touch the consumed prompt. -/
theorem writeAll (w : World φ ν) (ws : List (Write ν)) : w.Advances (w.writeAll ws) := by
  refine of_connectors_eq ?_ rfl
  have kept : ∀ (ws : List (Write ν)) (s : Scene ν), (s.writeAll ws).prompt = s.prompt := by
    intro ws
    induction ws with
    | nil => intro s; rfl
    | cons x ws ih =>
        intro s
        refine (ih (s.write x)).trans ?_
        cases x <;> rfl
  exact kept ws w.scene

theorem takeStream {w w' : World φ ν} {cell : Nat} {feed : Feed Element}
    (h : w.takeStream? cell = some (feed, w')) : w.Advances w' := by
  unfold World.takeStream? at h
  split at h
  · cases h
    exact of_connectors_eq rfl rfl
  · cases h

theorem complete (w : World φ ν) (ref : ConnectorRef) {request : Request}
    (prompt : request.prompt = w.scene.prompt) : w.Advances (w.complete ref request).2 := by
  refine ⟨?_, prompt ▸ World.AskedWith.complete w ref request⟩
  unfold World.complete
  split <;> rfl

end World.Advances

/-! ## Templates -/

/-- The work that is left once the next literal of a template is emitted: the
next slot, if it is filled, above the rest of the template. -/
def templateRest (props : Props) (literals : List String) (slots : List (Slot φ))
    (rest : List (Frame φ)) : List (Frame φ) :=
  match slots.head? with
  | some (some i) =>
      Frame.guarded i (props.withNextLiteral literals.tail.head?)
        ++ .binder props literals.tail slots.tail :: rest
  | _ => .binder props literals.tail slots.tail :: rest

/-- The next slot lies above the rest of the template, if it is filled. -/
theorem templateRest_cases (props : Props) (literals : List String) (slots : List (Slot φ))
    (rest : List (Frame φ)) :
    (∃ i, slots.head?.join = some i ∧ templateRest props literals slots rest
      = Frame.guarded i (props.withNextLiteral literals.tail.head?)
        ++ .binder props literals.tail slots.tail :: rest) ∨
    (slots.head?.join = none ∧
      templateRest props literals slots rest = .binder props literals.tail slots.tail :: rest) := by
  rw [templateRest]
  match slots.head? with
  | none => exact .inr ⟨rfl, rfl⟩
  | some none => exact .inr ⟨rfl, rfl⟩
  | some (some i) => exact .inl ⟨i, rfl, rfl⟩

theorem templateRest_eq_append (props : Props) (literals : List String) (slots : List (Slot φ))
    (rest : List (Frame φ)) :
    ∃ pushed, templateRest props literals slots rest = pushed ++ rest := by
  rcases templateRest_cases props literals slots rest with ⟨i, -, stack⟩ | ⟨-, stack⟩
  · exact ⟨[_, _, _], stack⟩
  · exact ⟨[_], stack⟩

/-- The rest of a template has not failed. -/
theorem belowFailed_templateRest {props : Props} {rest : List (Frame φ)} (literals : List String)
    (slots : List (Slot φ)) :
    Frame.belowFailed (templateRest props literals slots rest) = Frame.belowFailed rest := by
  unfold templateRest
  split <;> rfl

/-- A template in which something is left emits its next literal, if that is not
empty. -/
theorem stepBinder_of_left (props : Props) {literals : List String} {slots : List (Slot φ)}
    (rest : List (Frame φ)) (w : World φ ν) (left : ¬ (literals = [] ∧ slots = [])) :
    stepBinder props literals slots rest w
      = match literals.head? with
        | some literal =>
            if literal.isEmpty then .more ⟨templateRest props literals slots rest, w⟩
            else deliver (.ok (Element.stored ⟨literal, .prompt, props.context.role⟩))
              (templateRest props literals slots rest) w
        | none => .more ⟨templateRest props literals slots rest, w⟩ := by
  unfold stepBinder
  split
  next => exact absurd ⟨rfl, rfl⟩ left
  next => rfl

/-! ## Generations -/

/-- The world once a delta is taken in: what it newly emits is reported, and the
result is recorded if the generation has ended. -/
def heardDelta (fresh : Option String) (g : Generation) (props : Props) (w : World φ ν) :
    World φ ν :=
  if g.done then recordGeneration (emitDelta w g.name fresh) g props else emitDelta w g.name fresh

section Generation

variable {g : Generation} (props : Props) (more : Feed Delta) (rest : List (Frame φ))
  (w : World φ ν)

theorem stepGeneration_of_done (isDone : g.done = true) :
    stepGeneration g props more rest w = .more ⟨rest, w⟩ := by
  rw [stepGeneration.eq_def, if_pos isDone]

theorem stepGeneration_nil (running : g.done = false) :
    stepGeneration g props [] rest w
      = deliverFresh g.close.1 g.close.2 props [] rest
          (recordGeneration (emitDelta w g.close.2.name g.close.1) g.close.2 props) := by
  rw [stepGeneration, if_neg (ne_true_of_eq_false running)]

theorem stepGeneration_item (d : Delta) (running : g.done = false) :
    stepGeneration g props (.item d :: more) rest w
      = deliverFresh (g.absorb d).1 (g.absorb d).2 props more rest
          (heardDelta (g.absorb d).1 (g.absorb d).2 props w) := by
  rw [stepGeneration, if_neg (ne_true_of_eq_false running)]
  rfl

theorem stepGeneration_failed (f : Fault) (running : g.done = false) :
    stepGeneration g props (.failed f :: more) rest w
      = deliver (.error f) (.generation { g with done := true } props more :: rest) w := by
  rw [stepGeneration, if_neg (ne_true_of_eq_false running)]

theorem stepGeneration_pending (running : g.done = false) :
    stepGeneration g props (.pending :: more) rest w
      = .pending ⟨.generation g props more :: rest, w⟩ := by
  rw [stepGeneration, if_neg (ne_true_of_eq_false running)]

end Generation

/-! ## Steps -/

/-- The results of a step of a frame with the given work below it. -/
inductive Step.Above (rest : List (Frame φ)) (w : World φ ν) : Step φ ν → Prop where
  | more {p : List (Frame φ)} {w' : World φ ν} :
      w.Advances w' → Step.Above rest w (.more ⟨p ++ rest, w'⟩)
  | deliver {result : Except Fault Element} {p : List (Frame φ)} {w' : World φ ν} :
      w.Advances w' → Step.Above rest w (PromptStream.deliver result (p ++ rest) w')
  | pending {p : List (Frame φ)} {w' : World φ ν} :
      w.Advances w' → Step.Above rest w (.pending ⟨p ++ rest, w'⟩)

namespace Step.Above

variable {rest : List (Frame φ)} {w w' w'' : World φ ν} {s : Step φ ν}

theorem after (first : w.Advances w') (h : Step.Above rest w' s) : Step.Above rest w s := by
  cases h with
  | more second => exact .more (first.trans second)
  | deliver second => exact .deliver (first.trans second)
  | pending second => exact .pending (first.trans second)

/-- Going on with the work below. -/
theorem pop (h : w.Advances w') : Step.Above rest w (.more ⟨rest, w'⟩) := .more (p := []) h

/-- Handing out an item with the work below. -/
theorem pass {result : Except Fault Element} (h : w.Advances w') :
    Step.Above rest w (PromptStream.deliver result rest w') := .deliver (p := []) h

theorem ne_ended (h : Step.Above rest w s) (m : Machine φ ν) : s ≠ .ended m := by
  intro ended
  cases h with
  | more => cases ended
  | @deliver result p w' =>
      unfold PromptStream.deliver at ended
      split at ended
      · cases ended
      · cases result <;> cases ended
  | pending => cases ended

end Step.Above

open World (Advances)

section Cases

variable (host : Host φ ν) (rest : List (Frame φ)) (w : World φ ν)

theorem startGeneration_advances (name : String) (options : GenerationOptions) (props : Props) :
    w.Advances (startGeneration name options props w).2 := by
  have announced := Advances.emit w
    (.generationStarted name props.context.outputAddress props.context.role)
  exact announced.trans (Advances.complete _ _ rfl)

theorem startAction_advances (a : Action φ) (props : Props) :
    w.Advances (startAction host a props w).2 := by
  cases a with
  | template scope literals slots => exact Advances.refl w
  | generate name options => exact startGeneration_advances w name options props
  | loop id body options => exact Advances.refl w
  | map id count item => exact Advances.refl w
  | wait key => exact Advances.refl w
  | custom f => exact Advances.writeAll w _

theorem stepInput_above (i : Input φ) (props : Props) (fromFunction : Bool) :
    Step.Above rest w (stepInput host i props fromFunction rest w) := by
  cases i with
  | null => exact .pop (Advances.refl w)
  | number x =>
      rw [stepInput]
      exact .pass (Advances.refl w)
  | text s =>
      rw [stepInput]
      exact .pass (Advances.refl w)
  | list items => exact .more (p := [_, _]) (Advances.refl w)
  | function f => exact .more (p := [_]) (Advances.writeAll w _)
  | deferred d =>
      cases d with
      | shared cell => exact .more (p := [_]) (Advances.refl w)
      | fresh future => exact .more (p := [_]) (Advances.refl w)
  | action a => exact .more (startAction_advances host w a props)
  | stream cell =>
      simp only [stepInput]
      split
      next feed w' taken => exact .more (p := [_, _]) (Advances.takeStream taken)
      next => exact .pop (Advances.refl w)

theorem stepResolved_above (result : Except Fault (Input φ)) (props : Props) :
    Step.Above rest w (stepResolved result props rest w) := by
  cases result with
  | ok i => exact .more (p := [_]) (Advances.refl w)
  | error f =>
      rw [stepResolved]
      exact .pass (Advances.refl w)

theorem stepShared_above (cell : Nat) (props : Props) :
    Step.Above rest w (stepShared host cell props rest w) := by
  unfold stepShared
  split
  next => exact .pop (Advances.refl w)
  next result _ => exact stepResolved_above rest w result props
  next future polls _ =>
    dsimp only
    split
    next =>
      have polled := Advances.writeAll w (host.poll future polls w.scene).2
      exact .pending (p := [_]) (polled.trans (Advances.withFutures _ _))
    next result _ =>
      refine Step.Above.after ?_ (stepResolved_above rest _ result props)
      exact (Advances.writeAll w _).trans (Advances.withFutures _ _)

theorem stepBinder_above (props : Props) (literals : List String) (slots : List (Slot φ)) :
    Step.Above rest w (stepBinder props literals slots rest w) := by
  by_cases exhausted : literals = [] ∧ slots = []
  · obtain ⟨rfl, rfl⟩ := exhausted
    exact .pop (Advances.refl w)
  · obtain ⟨pushed, stack⟩ := templateRest_eq_append props literals slots rest
    rw [stepBinder_of_left props rest w exhausted, stack]
    split
    next =>
      split
      next => exact .more (Advances.refl w)
      next => exact .deliver (Advances.refl w)
    next => exact .more (Advances.refl w)

theorem loopEnds_advances (props : Props) (options : LoopOptions φ) (i : Nat) :
    w.Advances (loopEnds host props options i w).2 := by
  unfold loopEnds
  split
  next => exact Advances.refl w
  next =>
    split
    next => exact Advances.writeAll w _
    next => exact Advances.refl w

theorem enterIteration_advances (id : String) (i : Nat) : w.Advances (enterIteration w id i) :=
  (Advances.setLoop w id _).trans (Advances.emit _ _)

theorem leaveLoop_advances (id : String) (iterations : Nat) :
    w.Advances (leaveLoop w id iterations) :=
  (Advances.setLoop w id _).trans (Advances.emit _ _)

theorem stepLoop_above (props : Props) (id : String) (body : Input φ) (options : LoopOptions φ)
    (i : Nat) : Step.Above rest w (stepLoop host props id body options i rest w) := by
  have asked := loopEnds_advances host w props options i
  unfold stepLoop
  split
  next w' ends =>
    rw [ends] at asked
    exact .pop (asked.trans (leaveLoop_advances _ _ _))
  next w' ends =>
    rw [ends] at asked
    exact .more (p := [_, _, _]) (asked.trans (enterIteration_advances _ _ _))

theorem stepMap_above (props : Props) (id : String) (count : Nat) (item : φ) (i : Nat) :
    Step.Above rest w (stepMap host props id count item i rest w) := by
  unfold stepMap
  split
  next => exact .pop (leaveLoop_advances _ _ _)
  next =>
    exact .more (p := [_, _, _])
      ((enterIteration_advances w id i).trans (Advances.writeAll _ _))

theorem stepFeed_above (signals : Feed Element) :
    Step.Above rest w (stepFeed signals rest w) := by
  cases signals with
  | nil => exact .pop (Advances.refl w)
  | cons signal more =>
      cases signal with
      | item e =>
          rw [stepFeed]
          exact .deliver (p := [.feed more]) (Advances.refl w)
      | failed f =>
          rw [stepFeed]
          exact .deliver (p := [.feed more]) (Advances.refl w)
      | pending => exact .pending (p := [_]) (Advances.refl w)

theorem consumeItem_above (key : String) (index : Nat) (item : Json) (props : Props) :
    Step.Above rest w (consumeItem key index item props rest w) := by
  rw [consumeItem]
  exact .pass ((Advances.record w _ _ _).trans (Advances.emit _ _))

theorem stepWaiting_above (key : String) (props : Props) (index : Option Nat) :
    Step.Above rest w (stepWaiting key props index rest w) := by
  unfold stepWaiting
  split
  next i =>
    split
    next => exact consumeItem_above rest w key _ _ props
    next => exact .pending (p := [_]) (Advances.refl w)
  next =>
    dsimp only
    split
    next => exact consumeItem_above rest w key _ _ props
    next => exact .pending (p := [_]) (Advances.emit w _)

theorem emitDelta_advances (name : String) (fresh : Option String) :
    w.Advances (emitDelta w name fresh) := by
  cases fresh with
  | none => exact Advances.refl w
  | some s => exact Advances.emit w _

theorem recordGeneration_advances (g : Generation) (props : Props) :
    w.Advances (recordGeneration w g props) :=
  (Advances.record w _ _ _).trans (Advances.emit _ _)

theorem deliverFresh_above (fresh : Option String) (g : Generation) (props : Props)
    (feed : Feed Delta) : Step.Above rest w (deliverFresh fresh g props feed rest w) := by
  cases fresh with
  | none => exact .more (p := [_]) (Advances.refl w)
  | some s =>
      rw [deliverFresh]
      exact .deliver (p := [.generation g props feed]) (Advances.refl w)

theorem heardDelta_advances (fresh : Option String) (g : Generation) (props : Props) :
    w.Advances (heardDelta fresh g props w) := by
  unfold heardDelta
  split
  next => exact (emitDelta_advances w _ _).trans (recordGeneration_advances _ _ _)
  next => exact emitDelta_advances w _ _

theorem stepGeneration_above (g : Generation) (props : Props) (feed : Feed Delta) :
    Step.Above rest w (stepGeneration g props feed rest w) := by
  cases isDone : g.done with
  | true =>
      rw [stepGeneration_of_done props feed rest w isDone]
      exact .pop (Advances.refl w)
  | false =>
      cases feed with
      | nil =>
          rw [stepGeneration_nil props rest w isDone]
          refine Step.Above.after ?_ (deliverFresh_above rest _ _ _ _ _)
          exact (emitDelta_advances w _ _).trans (recordGeneration_advances _ _ _)
      | cons signal more =>
          cases signal with
          | item d =>
              rw [stepGeneration_item props more rest w d isDone]
              have heard := heardDelta_advances w (g.absorb d).1 (g.absorb d).2 props
              exact Step.Above.after heard (deliverFresh_above rest _ _ _ _ _)
          | failed f =>
              rw [stepGeneration_failed props more rest w f isDone]
              exact .deliver (p := [.generation _ props more]) (Advances.refl w)
          | pending =>
              rw [stepGeneration_pending props more rest w isDone]
              exact .pending (p := [_]) (Advances.refl w)

/-- Every step of a frame leaves the work below it in place. -/
theorem step_above (f : Frame φ) :
    Step.Above rest w (Machine.step host ⟨f :: rest, w⟩) := by
  cases f with
  | guard failed => exact .pop (Advances.refl w)
  | input i props fromFunction => exact stepInput_above host rest w i props fromFunction
  | items props index more =>
      cases more with
      | nil => exact .pop (Advances.refl w)
      | cons i more => exact .more (p := [_, _]) (Advances.refl w)
  | binder props literals slots => exact stepBinder_above rest w props literals slots
  | loop props id body options next => exact stepLoop_above host rest w props id body options next
  | map props id count item next => exact stepMap_above host rest w props id count item next
  | feed signals => exact stepFeed_above rest w signals
  | awaitShared cell props => exact stepShared_above host rest w cell props
  | awaitFresh future polls props =>
      simp only [Machine.step]
      split
      next => exact .pending (p := [_]) (Advances.writeAll w _)
      next result _ =>
        exact Step.Above.after (Advances.writeAll w _) (stepResolved_above rest _ result props)
  | waiting key props index => exact stepWaiting_above rest w key props index
  | generation g props feed => exact stepGeneration_above rest w g props feed

end Cases

/-- A run ends only when no work is left, and then nothing changes. -/
theorem step_eq_ended {host : Host φ ν} {m m' : Machine φ ν}
    (h : Machine.step host m = .ended m') : m.stack = [] ∧ m' = m := by
  obtain ⟨stack, w⟩ := m
  cases stack with
  | nil =>
      cases h
      exact ⟨rfl, rfl⟩
  | cons f rest => exact absurd h ((step_above host rest w f).ne_ended m')

end PromptStream
