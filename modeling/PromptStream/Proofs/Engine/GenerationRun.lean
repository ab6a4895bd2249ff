import PromptStream.Proofs.Engine.Play
import PromptStream.Proofs.Engine.Step
import PromptStream.Proofs.Generation.History
import PromptStream.Proofs.Outputs.Write

/-!
# Runs of a generation

A run that resolves a generation goes through phases (`Phase`): it has not
started, it speaks, it is over, or its completion has failed.  Each phase tells
how the answers so far and the world follow from the history of the generation
(`Generation.Took`): every text that was said was reported, handed out as one
element, and received by the consumer, in this order.

Every step keeps a run in some phase (`Phase.step`) and leaves less to do
(`Phase.left_lt`), so a run that is polled often enough comes to its end.
-/

namespace PromptStream

variable {φ ν : Type}

open Generation (Took Ended)

/-! ## The parts of a run -/

/-- The element of a text that a model said. -/
def saidElement (role : Role) (s : String) : Element := ⟨s, .llm, role⟩

/-- The elements of some texts that a model said, as they are handed out. -/
def saidItems (role : Role) (said : List String) : List (Except Fault Element) :=
  said.map fun s => .ok (saidElement role s)

theorem saidItems_append (role : Role) (said later : List String) :
    saidItems role (said ++ later) = saidItems role said ++ saidItems role later :=
  List.map_append

theorem okElements_saidItems (role : Role) (said : List String) :
    okElements (saidItems role said) = said.map (saidElement role) := by
  rw [okElements, saidItems, List.filterMap_map]
  exact congrFun (List.filterMap_eq_map (f := saidElement role)) said

theorem Prompt.text_saidElements (role : Role) (said : List String) :
    Prompt.text (said.map (saidElement role)) = String.join said := by
  rw [Prompt.text, List.map_map]
  exact congrArg String.join (List.map_id said)

/-- The world once a generation has said a text and the consumer has received
it. -/
def World.say (name : String) (role : Role) (w : World φ ν) (s : String) : World φ ν :=
  (w.emit (.generationDelta name s)).consume (saidElement role s)

/-- The world once a generation has said some texts, one after another. -/
def World.sayAll (name : String) (role : Role) (w : World φ ν) (said : List String) : World φ ν :=
  said.foldl (World.say name role) w

/-- The world once the consumer has received what a generation newly says. -/
def World.receiveFresh (role : Role) (w : World φ ν) : Option String → World φ ν
  | some s => w.consume (saidElement role s)
  | none => w

theorem World.sayAll_append_fresh (name : String) (role : Role) (w : World φ ν)
    (said : List String) (fresh : Option String) :
    w.sayAll name role (said ++ fresh.toList)
      = (emitDelta (w.sayAll name role said) name fresh).receiveFresh role fresh := by
  rw [World.sayAll, List.foldl_append]
  cases fresh <;> rfl

/-- Recording a result does not depend on what the consumer has received. -/
theorem receiveFresh_recordGeneration (role : Role) (w : World φ ν) (g : Generation)
    (props : Props) (fresh : Option String) :
    (recordGeneration w g props).receiveFresh role fresh
      = recordGeneration (w.receiveFresh role fresh) g props := by
  cases fresh <;> rfl

section Parts

variable (name : String) (options : GenerationOptions) (props : Props) (w : World φ ν)

/-- A run that resolves a generation and nothing else. -/
def Run.ofGeneration : Run φ ν := ⟨Frame.guarded (.action (.generate name options)) props, w⟩

/-- What a generation gets from its connector and the world after that. -/
def askConnector : Feed Delta × World φ ν :=
  (w.emit (.generationStarted name props.context.outputAddress props.context.role)).complete
    props.context.llm.completion
    (generationRequest options (options.effectiveStop props.nextLiteral) props w.scene.prompt)

/-- The completion that a generation gets. -/
def completionOf : Feed Delta := (askConnector name options props w).1

/-- The generation that a run starts with. -/
def freshGeneration : Generation := .fresh name (options.effectiveStop props.nextLiteral)

/-- The world once a generation has said some texts. -/
def worldAfter (said : List String) : World φ ν :=
  (askConnector name options props w).2.sayAll name props.context.role said

end Parts

/-- The stacks of a run whose generation is over: it is left, then its guard. -/
inductive Winding (props : Props) (left : Feed Delta) : List (Frame φ) → Prop where
  | generation {g : Generation} {failed : Bool} :
      g.done = true → Winding props left [.generation g props left, .guard failed]
  | guard {failed : Bool} : Winding props left [.guard failed]
  | nothing : Winding props left []

/-! ## Phases -/

/-- What a run of a generation has handed out, and what it has come to. -/
inductive Phase (name : String) (options : GenerationOptions) (props : Props) (w : World φ ν) :
    List (Except Fault Element) → Run φ ν → Prop where
  | unstarted : Phase name options props w [] (Run.ofGeneration name options props w)
  | speaking {heard left : Feed Delta} {said : List String} {g : Generation} :
      completionOf name options props w = heard ++ left →
      Took (freshGeneration name options props) heard said g → g.done = false →
      Phase name options props w (saidItems props.context.role said)
        ⟨[.generation g props left, .guard false], worldAfter name options props w said⟩
  | recorded {heard left : Feed Delta} {said : List String} {g : Generation}
      {stack : List (Frame φ)} :
      completionOf name options props w = heard ++ left →
      Ended (freshGeneration name options props) heard left said g → Winding props left stack →
      Phase name options props w (saidItems props.context.role said)
        ⟨stack, recordGeneration (worldAfter name options props w said) g props⟩
  | failed {heard left : Feed Delta} {said : List String} {g : Generation} {f : Fault}
      {stack : List (Frame φ)} :
      completionOf name options props w = heard ++ .failed f :: left →
      Took (freshGeneration name options props) heard said g → g.done = false →
      Winding props left stack →
      Phase name options props w (saidItems props.context.role said ++ [.error f])
        ⟨stack, worldAfter name options props w said⟩

/-- The most steps that a run of a generation still takes. -/
def stepsLeft (feed : Feed Delta) : List (Frame φ) → Nat
  | [] => 0
  | .guard _ :: _ => 1
  | .generation g _ left :: _ => if g.done then 2 else left.length + 3
  | _ => feed.length + 4

namespace Run

/-- A winding stack loses a frame with every step, until the run ends. -/
theorem poll_one_of_winding (host : Host φ ν) {props : Props} {left feed : Feed Delta}
    {stack : List (Frame φ)} (h : Winding props left stack) (w : World φ ν) :
    ∃ stack', (poll host 1 ⟨stack, w⟩).2 = ⟨stack', w⟩ ∧ Winding props left stack' ∧
      (poll host 1 ⟨stack, w⟩).1.item? = none ∧
      ((poll host 1 ⟨stack, w⟩).1 = .ended ∨ stepsLeft feed stack' < stepsLeft feed stack) := by
  rw [poll_one]
  cases h with
  | @generation g failed done =>
      refine ⟨[.guard failed], ?_⟩
      have step : Machine.step host ⟨[.generation g props left, .guard failed], w⟩
          = .more ⟨[.guard failed], w⟩ := stepGeneration_of_done props left [.guard failed] w done
      rw [step]
      exact ⟨rfl, .guard, rfl, .inr (by simp [stepsLeft, done])⟩
  | guard => exact ⟨[], rfl, .nothing, rfl, .inr (by simp [stepsLeft])⟩
  | nothing => exact ⟨[], rfl, .nothing, rfl, .inl rfl⟩

/-- What a generation newly says is handed out, and the consumer receives it. -/
theorem settle_deliverFresh (fresh : Option String) (g : Generation) (props : Props)
    (feed : Feed Delta) (w : World φ ν) :
    (settle (deliverFresh fresh g props feed [.guard false] w)).1.item?.toList
        = saidItems props.context.role fresh.toList ∧
      (settle (deliverFresh fresh g props feed [.guard false] w)).2
        = ⟨[.generation g props feed, .guard false], w.receiveFresh props.context.role fresh⟩ := by
  cases fresh <;> exact ⟨rfl, rfl⟩

end Run

section Steps

variable (host : Host φ ν) {name : String} {options : GenerationOptions} {props : Props}
  {w : World φ ν}

/-- The first step asks the connector. -/
theorem poll_one_unstarted :
    Run.poll host 1 (Run.ofGeneration name options props w)
      = (.unanswered, ⟨[.generation (freshGeneration name options props) props
            (completionOf name options props w), .guard false],
          worldAfter name options props w []⟩) :=
  rfl

/-- The step that takes in the end of the completion. -/
theorem Phase.step_closed {heard : Feed Delta} {said : List String} {g : Generation}
    (feed : completionOf name options props w = heard)
    (took : Took (freshGeneration name options props) heard said g) (goesOn : g.done = false) :
    let m : Run φ ν :=
      ⟨[.generation g props [], .guard false], worldAfter name options props w said⟩
    Phase name options props w
        (saidItems props.context.role said ++ (Run.poll host 1 m).1.item?.toList)
        (Run.poll host 1 m).2 ∧
      (Run.poll host 1 m).2.stack = [.generation g.close.2 props [], .guard false] := by
  intro m
  have step : Machine.step host m
      = deliverFresh g.close.1 g.close.2 props [] [.guard false]
          (recordGeneration (emitDelta m.world g.close.2.name g.close.1) g.close.2 props) :=
    stepGeneration_nil props [.guard false] _ goesOn
  have ended := Ended.closed took goesOn
  obtain ⟨items, after⟩ := Run.settle_deliverFresh g.close.1 g.close.2 props []
    (recordGeneration (emitDelta m.world g.close.2.name g.close.1) g.close.2 props)
  rw [Run.poll_one, step, items, after, ← saidItems_append, receiveFresh_recordGeneration,
    show g.close.2.name = name from ended.name]
  refine ⟨?_, rfl⟩
  have winding : Winding props [] [.generation g.close.2 props [], (.guard false : Frame φ)] :=
    .generation ended.done
  have phase := Phase.recorded (by rw [feed, List.append_nil]) ended winding
  rw [worldAfter, World.sayAll_append_fresh] at phase
  exact phase

/-- The step that takes in a delta. -/
theorem Phase.step_item {heard left : Feed Delta} {said : List String} {g : Generation}
    (d : Delta) (feed : completionOf name options props w = heard ++ .item d :: left)
    (took : Took (freshGeneration name options props) heard said g) (goesOn : g.done = false) :
    let m : Run φ ν :=
      ⟨[.generation g props (.item d :: left), .guard false], worldAfter name options props w said⟩
    Phase name options props w
        (saidItems props.context.role said ++ (Run.poll host 1 m).1.item?.toList)
        (Run.poll host 1 m).2 ∧
      (Run.poll host 1 m).2.stack = [.generation (g.absorb d).2 props left, .guard false] := by
  intro m
  have step : Machine.step host m
      = deliverFresh (g.absorb d).1 (g.absorb d).2 props left [.guard false]
          (heardDelta (g.absorb d).1 (g.absorb d).2 props m.world) :=
    stepGeneration_item props left [.guard false] _ d goesOn
  have next := Took.item d took goesOn
  have feedNext : completionOf name options props w = (heard ++ [.item d]) ++ left := by
    rw [feed, List.append_assoc]
    rfl
  obtain ⟨items, after⟩ := Run.settle_deliverFresh (g.absorb d).1 (g.absorb d).2 props left
    (heardDelta (g.absorb d).1 (g.absorb d).2 props m.world)
  rw [Run.poll_one, step, items, after, ← saidItems_append]
  refine ⟨?_, rfl⟩
  have named : (g.absorb d).2.name = name := next.keeps.1
  cases done : (g.absorb d).2.done with
  | false =>
      have phase := Phase.speaking feedNext next done
      rw [worldAfter, World.sayAll_append_fresh] at phase
      rw [heardDelta, if_neg (ne_true_of_eq_false done), named]
      exact phase
  | true =>
      have winding : Winding props left
          [.generation (g.absorb d).2 props left, (.guard false : Frame φ)] := .generation done
      have phase := Phase.recorded feedNext (Ended.cut left next done) winding
      rw [worldAfter, World.sayAll_append_fresh] at phase
      rw [heardDelta, if_pos done, named, receiveFresh_recordGeneration]
      exact phase

/-- The step that takes in a failure hands it out and ends the generation. -/
theorem Phase.step_failed {heard left : Feed Delta} {said : List String} {g : Generation}
    {f : Fault} (feed : completionOf name options props w = heard ++ .failed f :: left)
    (took : Took (freshGeneration name options props) heard said g) (goesOn : g.done = false) :
    let m : Run φ ν :=
      ⟨[.generation g props (.failed f :: left), .guard false],
        worldAfter name options props w said⟩
    Phase name options props w
        (saidItems props.context.role said ++ (Run.poll host 1 m).1.item?.toList)
        (Run.poll host 1 m).2 ∧
      (Run.poll host 1 m).2.stack
        = [.generation { g with done := true } props left, .guard true] := by
  intro m
  have step : Machine.step host m
      = deliver (.error f) [.generation { g with done := true } props left, .guard false] m.world :=
    stepGeneration_failed props left [.guard false] _ f goesOn
  rw [Run.poll_one, step]
  exact ⟨.failed feed took goesOn (.generation rfl), rfl⟩

/-- The step that finds nothing there yet. -/
theorem Phase.step_pending {heard left : Feed Delta} {said : List String} {g : Generation}
    (feed : completionOf name options props w = heard ++ .pending :: left)
    (took : Took (freshGeneration name options props) heard said g) (goesOn : g.done = false) :
    let m : Run φ ν :=
      ⟨[.generation g props (.pending :: left), .guard false],
        worldAfter name options props w said⟩
    Phase name options props w
        (saidItems props.context.role said ++ (Run.poll host 1 m).1.item?.toList)
        (Run.poll host 1 m).2 ∧
      (Run.poll host 1 m).2.stack = [.generation g props left, .guard false] := by
  intro m
  have step : Machine.step host m
      = .pending ⟨[.generation g props left, .guard false], m.world⟩ :=
    stepGeneration_pending props left [.guard false] _ goesOn
  have feedNext : completionOf name options props w = (heard ++ [.pending]) ++ left := by
    rw [feed, List.append_assoc]
    rfl
  have phase := Phase.speaking feedNext (took.pending goesOn) goesOn
  rw [← List.append_nil (saidItems props.context.role said)] at phase
  rw [Run.poll_one, step]
  exact ⟨phase, rfl⟩

/-- The stacks that a signal leaves hold less to do than the one before it. -/
theorem stepsLeft_generation_lt {feed left : Feed Delta} {signal : Signal Delta}
    {g g' : Generation} {failed : Bool} {rest : List (Frame φ)} (goesOn : g.done = false) :
    stepsLeft feed (.generation g' props left :: .guard failed :: rest)
      < stepsLeft feed (.generation g props (signal :: left) :: rest) := by
  rw [stepsLeft, stepsLeft, if_neg (ne_true_of_eq_false goesOn), List.length_cons]
  split <;> omega

/-- A step keeps a run in some phase, and ends it or leaves less to do. -/
theorem Phase.step {items : List (Except Fault Element)} {m : Run φ ν}
    (h : Phase name options props w items m) :
    Phase name options props w (items ++ (Run.poll host 1 m).1.item?.toList)
        (Run.poll host 1 m).2 ∧
      ((Run.poll host 1 m).1 = .ended ∨
        stepsLeft (completionOf name options props w) (Run.poll host 1 m).2.stack
          < stepsLeft (completionOf name options props w) m.stack) := by
  cases h with
  | unstarted =>
      rw [poll_one_unstarted]
      exact ⟨.speaking rfl .start rfl, .inr (Nat.lt_succ_self _)⟩
  | @speaking heard left said g feed took goesOn =>
      match left with
      | [] =>
          obtain ⟨phase, stack⟩ :=
            Phase.step_closed host (feed.trans (List.append_nil heard)) took goesOn
          refine ⟨phase, .inr ?_⟩
          rw [stack]
          simp [stepsLeft, goesOn, (Ended.closed took goesOn).done]
      | .item d :: left =>
          obtain ⟨phase, stack⟩ := Phase.step_item host d feed took goesOn
          refine ⟨phase, .inr ?_⟩
          rw [stack]
          exact stepsLeft_generation_lt goesOn
      | .failed f :: left =>
          obtain ⟨phase, stack⟩ := Phase.step_failed host feed took goesOn
          refine ⟨phase, .inr ?_⟩
          rw [stack]
          exact stepsLeft_generation_lt goesOn
      | .pending :: left =>
          obtain ⟨phase, stack⟩ := Phase.step_pending host feed took goesOn
          refine ⟨phase, .inr ?_⟩
          rw [stack]
          exact stepsLeft_generation_lt goesOn
  | recorded feed ended winding =>
      obtain ⟨stack', next, winding', none, progress⟩ := Run.poll_one_of_winding host winding
        (recordGeneration (worldAfter name options props w _) _ props)
      rw [next, none]
      refine ⟨?_, progress⟩
      rw [Option.toList_none, List.append_nil]
      exact .recorded feed ended winding'
  | failed feed took goesOn winding =>
      obtain ⟨stack', next, winding', none, progress⟩ := Run.poll_one_of_winding host winding
        (worldAfter name options props w _)
      rw [next, none]
      refine ⟨?_, progress⟩
      rw [Option.toList_none, List.append_nil]
      exact .failed feed took goesOn winding'

/-- Polls keep a run in some phase. -/
theorem Phase.polls (fuels : List Nat) :
    Phase name options props w
      (handedOut (Run.polls host fuels (Run.ofGeneration name options props w)).1)
      (Run.polls host fuels (Run.ofGeneration name options props w)).2 := by
  have start : Phase name options props w [] (Run.ofGeneration name options props w) := .unstarted
  exact Run.polls_invariant (fun _ _ phase => (phase.step host).1) fuels start

/-- A run that is polled often enough comes to its end. -/
theorem Phase.ended_mem_polls {fuels : List Nat} (positive : ∀ fuel ∈ fuels, 0 < fuel)
    (enough : (completionOf name options props w).length + 4 < fuels.length) :
    .ended ∈ (Run.polls host fuels (Run.ofGeneration name options props w)).1 := by
  refine Run.ended_mem_polls (fun m => ∃ items, Phase name options props w items m)
    (fun m => stepsLeft (completionOf name options props w) m.stack) ?_ positive
    ⟨[], .unstarted⟩ enough
  rintro m ⟨items, phase⟩
  obtain ⟨next, progress⟩ := phase.step host
  exact ⟨⟨_, next⟩, progress⟩

end Steps

/-! ## What a run leaves behind -/

section Results

variable {name : String} {options : GenerationOptions} {props : Props} {w : World φ ν}

/-- A run that has come to its end without a failure has recorded the result of
an ended generation. -/
theorem Phase.ended {items : List (Except Fault Element)} {m : Run φ ν}
    (h : Phase name options props w items m) (noWork : m.stack = [])
    (noFailure : ∀ f, .error f ∉ items) :
    ∃ (heard left : Feed Delta) (said : List String) (g : Generation),
      completionOf name options props w = heard ++ left ∧
      Ended (freshGeneration name options props) heard left said g ∧
      items = saidItems props.context.role said ∧
      m.world = recordGeneration (worldAfter name options props w said) g props := by
  cases h with
  | unstarted => cases noWork
  | speaking => cases noWork
  | recorded feed ended winding => exact ⟨_, _, _, _, feed, ended, rfl, rfl⟩
  | failed => exact absurd (List.mem_append_right _ List.mem_cons_self) (noFailure _)

theorem Scene.events_emit (s : Scene ν) (e : Event) : (s.emit e).events = s.events ++ [e] := by
  simp [Scene.emit, Scene.events]

theorem World.sayAll_events (role : Role) (w : World φ ν) (said : List String) :
    (w.sayAll name role said).scene.events
      = w.scene.events ++ said.map fun s => .generationDelta name s := by
  induction said generalizing w with
  | nil => exact (List.append_nil _).symm
  | cons s said ih =>
      rw [World.sayAll, List.foldl_cons]
      refine (ih (w.say name role s)).trans ?_
      rw [show (w.say name role s).scene.events = w.scene.events ++ [.generationDelta name s] from
        Scene.events_emit w.scene _, List.append_assoc]
      rfl

theorem World.sayAll_outputs (role : Role) (w : World φ ν) (said : List String) :
    (w.sayAll name role said).scene.outputs = w.scene.outputs := by
  induction said generalizing w with
  | nil => rfl
  | cons s said ih => exact ih (w.say name role s)

theorem World.complete_scene (w : World φ ν) (ref : ConnectorRef) (request : Request) :
    (w.complete ref request).2.scene = w.scene := by
  unfold World.complete
  split <;> rfl

/-- A generation reports its start and every text that it says. -/
theorem worldAfter_events (said : List String) :
    (worldAfter name options props w said).scene.events
      = w.scene.events ++ .generationStarted name props.context.outputAddress props.context.role
          :: said.map fun s => .generationDelta name s := by
  have asked := World.complete_scene
    (w.emit (.generationStarted name props.context.outputAddress props.context.role))
    props.context.llm.completion
    (generationRequest options (options.effectiveStop props.nextLiteral) props w.scene.prompt)
  refine (World.sayAll_events _ _ said).trans ?_
  rw [askConnector, asked]
  rw [show (w.emit _).scene.events = w.scene.events ++ [_] from Scene.events_emit w.scene _,
    List.append_assoc]
  rfl

/-- At the end it reports its result as well. -/
theorem recorded_events (said : List String) (g : Generation) :
    (recordGeneration (worldAfter name options props w said) g props).scene.events
      = w.scene.events
        ++ .generationStarted name props.context.outputAddress props.context.role
          :: said.map (fun s => .generationDelta name s)
        ++ [.generationFinished g.name g.lead g.choices] :=
  (Scene.events_emit _ _).trans (congrArg (· ++ _) (worldAfter_events said))

/-- A generation records its value under its name, at the address of its place. -/
theorem recorded_outputs (said : List String) (g : Generation) :
    (recordGeneration (worldAfter name options props w said) g props).scene.outputs
      = w.scene.outputs.insertAt props.context.outputAddress g.name g.value := by
  have kept : (worldAfter name options props w said).scene.outputs = w.scene.outputs := by
    refine (World.sayAll_outputs _ _ said).trans ?_
    rw [askConnector, World.complete_scene]
    rfl
  exact congrArg (fun o : Outputs => o.insertAt props.context.outputAddress g.name g.value) kept

theorem recorded_written (said : List String) {g : Generation} (named : g.name = name) :
    w.scene.outputs.Written props.context.outputAddress name g.value
      (recordGeneration (worldAfter name options props w said) g props).scene.outputs := by
  rw [recorded_outputs, named]
  exact Outputs.written_insertAt _ _ _ _

end Results

end PromptStream
