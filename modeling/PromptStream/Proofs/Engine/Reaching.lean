import PromptStream.Proofs.Engine.UnstoppedRun
import PromptStream.Proofs.Engine.WholeTree

/-!
# What a run reaches

A run *reaches* a machine if some steps lead there, with the elements that are handed out
on the way (`Reaches`).  It *brings* an input to a post-condition if, wherever it comes to
resolve that input with some props in some world, it goes on to the work below, and the
elements and the world that are left satisfy the condition (`Brings`).

There is one lemma for each way of putting an input together: a literal, a scope around a
slot, two items in order, a wait whose item is there, a generation that nothing stops, and
the iterations of a loop or a map, which carry an invariant from one to the next
(`Repeats.brings`).  What an input brings at the root is what the polls of its run hand
out and leave (`Brings.polls`).
-/

namespace PromptStream

variable {φ ν : Type}

open Generation (Took Ended gathered)

/-! ## Reaching a machine -/

/-- A run comes to a machine, and hands out some elements on the way. -/
def Reaches (host : Host φ ν) (start : Run φ ν) (said : List Element) (m : Machine φ ν) : Prop :=
  ∃ n, Consumer.recorder.drain host n start = (said.map .ok, m)

namespace Reaches

variable {host : Host φ ν} {start : Run φ ν} {said : List Element} {m m' : Machine φ ν}
  {stack rest : List (Frame φ)} {w w' : World φ ν}

theorem refl (host : Host φ ν) (m : Run φ ν) : Reaches host m [] m := ⟨0, rfl⟩

theorem trans (h : Reaches host start said m) {later : List Element}
    (next : Reaches host m later m') : Reaches host start (said ++ later) m' := by
  obtain ⟨n, drained⟩ := h
  obtain ⟨k, onward⟩ := next
  refine ⟨n + k, ?_⟩
  rw [Consumer.drain_add, drained, onward, List.map_append]

theorem more (h : Reaches host start said m) (step : Machine.step host m = .more m') :
    Reaches host start said m' := by
  have onward : Reaches host m [] m' := ⟨1, by rw [Consumer.drain, step]; rfl⟩
  have reached := h.trans onward
  rwa [List.append_nil] at reached

/-- An element is handed out while nothing below has failed. -/
theorem element (h : Reaches host start said m) {e : Element}
    (step : Machine.step host m = deliver (.ok e) stack w)
    (intact : Frame.belowFailed stack = none) :
    Reaches host start (said ++ [e]) ⟨stack, w.consume e⟩ := by
  refine h.trans ⟨1, ?_⟩
  rw [Consumer.drain, step, deliver, intact]
  rfl

/-- A resolution that has ended is followed to its end. -/
theorem follows (h : Reaches host start said m) {fuel : Nat} {items : List Element}
    (followed : Follows .recorder host fuel m rest ⟨items, .ended w⟩) :
    Reaches host start (said ++ items) ⟨rest, w⟩ := by
  cases followed with
  | ended n drained => exact h.trans ⟨n, drained⟩

end Reaches

/-! ## Bringing an input to its end -/

/-- Wherever a run comes to resolve an input with some props in a world, it goes on to the
work below with elements and a world that satisfy a condition. -/
def Brings (host : Host φ ν) (start : Run φ ν) (i : Input φ) (props : Props) (w : World φ ν)
    (post : List Element → World φ ν → Prop) : Prop :=
  ∀ rest said, Frame.belowFailed rest = none →
    Reaches host start said ⟨.input i props false :: rest, w⟩ →
    ∃ items w', post items w' ∧ Reaches host start (said ++ items) ⟨rest, w'⟩

namespace Brings

variable {host : Host φ ν} {start : Run φ ν} {props : Props} {w : World φ ν}
  {post : List Element → World φ ν → Prop}

theorem mono {i : Input φ} {post' : List Element → World φ ν → Prop}
    (h : Brings host start i props w post) (le : ∀ items w', post items w' → post' items w') :
    Brings host start i props w post' := by
  intro rest said intact reached
  obtain ⟨items, w', holds, left⟩ := h rest said intact reached
  exact ⟨items, w', le items w' holds, left⟩

/-- A scope around a slot. -/
theorem wrap {scope : Scope} {i : Input φ}
    (h : Brings host start i ((props.fork (scope props.context)).withNextLiteral none) w post) :
    Brings host start (.action (scope.wrap (some i))) props w post := by
  intro rest said intact reached
  have entered := (reached.more rfl).more rfl
  obtain ⟨items, w', holds, left⟩ := h _ said (by exact intact) entered
  exact ⟨items, w', holds, ((left.more rfl).more rfl).more rfl⟩

/-- Two items in order. -/
theorem pair {i j : Input φ}
    (h : Brings host start i (props.descend 0) w fun items w' =>
      Brings host start j (props.descend 1) w' fun more w'' => post (items ++ more) w'') :
    Brings host start (.list [i, j]) props w post := by
  intro rest said intact reached
  have first := (reached.more rfl).more rfl
  obtain ⟨items, w', next, left⟩ := h _ said (by exact intact) first
  obtain ⟨more, w'', holds, left⟩ := next _ _ (by exact intact) (left.more rfl)
  refine ⟨items ++ more, w'', holds, ?_⟩
  rw [← List.append_assoc]
  exact (left.more rfl).more rfl

/-- A template that is one literal emits it. -/
theorem text {scope : Scope} {s : String} {e : Element}
    (stored : Element.stored
      ⟨normalizeLiteral s, .prompt, (props.fork (scope props.context)).context.role⟩ = e)
    (some : (normalizeLiteral s).isEmpty = false) (holds : post [e] (w.consume e)) :
    Brings host start (.action (scope.text s)) props w post := by
  intro rest said intact reached
  have entered := reached.more rfl
  have step : Machine.step host
      ⟨binderFrames (props.fork (scope props.context)) [normalizeLiteral s] [] ++ rest, w⟩
        = deliver (.ok e)
          (.binder (props.fork (scope props.context)) [] [] :: .guard false :: rest) w := by
    simp [binderFrames, Machine.step, stepBinder, some, stored]
  have left := entered.element step (by exact intact)
  exact ⟨[e], w.consume e, holds, (left.more rfl).more rfl⟩

/-- A wait whose item is there emits it and records it. -/
theorem wait {key : String} {item : Json} {e : Element} {i : Nat} {address : List String}
    (index : waitIndex w props none = i) (place : props.context.outputAddress = address)
    (there : w.scene.state.item? key i = some item)
    (spoken : e = ⟨itemText item, .parameter, props.context.role⟩)
    (holds : post [e] (((w.record address key (.text (itemText item))).emit
      (.itemConsumed key i)).consume e)) :
    Brings host start (.action (.wait key)) props w post := by
  subst index place spoken
  intro rest said intact reached
  have entered := reached.more rfl
  exact ⟨_, _, holds, entered.element (stepWaiting_of_item rest w there) intact⟩

end Brings

/-! ## Places -/

/-- The place of a node: an address, the settings of the connector, and no literal after its
slot. -/
structure Props.Stands (props : Props) (address : List String) (llm : LlmContext) : Prop where
  address : props.context.outputAddress = address
  llm : props.context.llm = llm
  literal : props.nextLiteral = none

namespace Props.Stands

variable {props : Props} {address : List String} {llm : LlmContext}

theorem descend (h : props.Stands address llm) (index : Nat) :
    (props.descend index).Stands address llm := ⟨h.address, h.llm, h.literal⟩

theorem iteration (h : props.Stands address llm) (id : String) (i : Nat) :
    (iterationProps props id i).Stands (address ++ [id, toString i]) llm where
  address := by
    rw [← h.address]
    rfl
  llm := h.llm
  literal := h.literal

theorem block (h : props.Stands address llm) (block : String) :
    ((props.fork (Scope.block block props.context)).withNextLiteral none).Stands
      (address ++ [block]) llm where
  address := by
    rw [← h.address]
    rfl
  llm := h.llm
  literal := rfl

theorem ofRole (h : props.Stands address llm) (role : Role) :
    ((props.fork (Scope.ofRole role props.context)).withNextLiteral none).Stands address llm :=
  ⟨h.address, h.llm, rfl⟩

/-- Nothing stops a generation that has no stop of its own. -/
theorem unstopped (h : props.Stands address llm) {options : GenerationOptions}
    (free : options.stop = none) : options.effectiveStop props.nextLiteral = none := by
  rw [h.literal, GenerationOptions.effectiveStop, free]
  rfl

end Props.Stands

/-! ## Loops -/

/-- A run comes to a frame in a world. -/
def Occurs (host : Host φ ν) (start : Run φ ν) (f : Frame φ) (w : World φ ν) : Prop :=
  ∃ said rest, Reaches host start said ⟨f :: rest, w⟩

/-- A loop or a map that runs its body for a number of iterations: wherever it occurs, the
loop goes on exactly until then, and the map gives the body for each of its items.  What the
author code of the loop writes, `keeps` relates to the world before. -/
inductive Repeats (host : Host φ ν) (occurs : Frame φ → World φ ν → Prop)
    (keeps : World φ ν → World φ ν → Prop) (id : String) (n : Nat) (body : Input φ) :
    Action φ → Prop where
  | loop {options : LoopOptions φ} :
      (∀ props i w, i ≤ n → occurs (.loop props id body options i) w →
        (loopEnds host props options i w).1 = decide (n ≤ i) ∧
          keeps w (loopEnds host props options i w).2) →
      Repeats host occurs keeps id n body (.loop id body options)
  | map {item : φ} :
      (∀ props i w, i < n → occurs (.map props id n item i) w →
        (host.item item i (enterIteration w id i).scene).1 = body ∧
          keeps (enterIteration w id i) ((enterIteration w id i).writeAll
            (host.item item i (enterIteration w id i).scene).2)) →
      Repeats host occurs keeps id n body (.map id n item)

theorem Repeats.mono {host : Host φ ν} {occurs : Frame φ → World φ ν → Prop}
    {keeps keeps' : World φ ν → World φ ν → Prop} {id : String} {n : Nat} {body : Input φ}
    {a : Action φ} (h : Repeats host occurs keeps id n body a)
    (le : ∀ w w', keeps w w' → keeps' w w') : Repeats host occurs keeps' id n body a := by
  cases h with
  | loop asks =>
      exact .loop fun props i w upTo occurs => (asks props i w upTo occurs).imp_right (le _ _)
  | map gives =>
      exact .map fun props i w lt occurs => (gives props i w lt occurs).imp_right (le _ _)

/-- A loop without a predicate runs as often as it may, and its author code writes nothing. -/
theorem Repeats.of_maxIterations (host : Host φ ν) (occurs : Frame φ → World φ ν → Prop)
    (id : String) (n : Nat) (body : Input φ) :
    Repeats host occurs Eq id n body (.loop id body { maxIterations := some n }) := by
  refine .loop fun props i w _ _ => ?_
  by_cases atEnd : n ≤ i
  · simp [loopEnds, atEnd]
  · simp [loopEnds, atEnd]

section Iterations

variable {host : Host φ ν} {start : Run φ ν} {keeps : World φ ν → World φ ν → Prop}
  {id : String} {n : Nat} {body : Input φ} {props : Props}

/-- The frames of a loop, one before each iteration.  If the loop goes on for `n` iterations
and the body brings an invariant from each to the next, then it comes to the end of the loop
with the invariant. -/
theorem Reaches.iterations (frame : Nat → Frame φ) {rest : List (Frame φ)} {w : World φ ν}
    {said : List Element} {holds : Nat → List Element → World φ ν → Prop}
    (plain : ∀ i rest, Frame.belowFailed (frame i :: rest) = Frame.belowFailed rest)
    (goesOn : ∀ i rest w, i < n → Occurs host start (frame i) w →
      ∃ v v', keeps w v ∧ keeps (enterIteration v id i) v' ∧
        Machine.step host ⟨frame i :: rest, w⟩
          = .more ⟨Frame.guarded body (iterationProps props id i) ++ frame (i + 1) :: rest, v'⟩)
    (ends : ∀ rest w, Occurs host start (frame n) w →
      ∃ v, keeps w v ∧ Machine.step host ⟨frame n :: rest, w⟩ = .more ⟨rest, leaveLoop v id n⟩)
    (stable : ∀ i items w w', keeps w w' → holds i items w → holds i items w')
    (brings : ∀ i items w w', i < n → holds i items w → keeps (enterIteration w id i) w' →
      Brings host start body (iterationProps props id i) w'
        fun more w'' => holds (i + 1) (items ++ more) w'')
    (intact : Frame.belowFailed rest = none) (begins : holds 0 [] w)
    (h : Reaches host start said ⟨frame 0 :: rest, w⟩) :
    ∃ items w', holds n items w' ∧
      Reaches host start (said ++ items) ⟨rest, leaveLoop w' id n⟩ := by
  have upTo : ∀ i, i ≤ n → ∃ items w', holds i items w' ∧
      Reaches host start (said ++ items) ⟨frame i :: rest, w'⟩ := by
    intro i
    induction i with
    | zero =>
        intro _
        refine ⟨[], w, begins, ?_⟩
        rw [List.append_nil]
        exact h
    | succ i ih =>
        intro le
        obtain ⟨items, w', now, reached⟩ := ih (Nat.le_of_succ_le le)
        obtain ⟨v, v', written, entered, step⟩ := goesOn i rest w' le ⟨_, _, reached⟩
        have below : Frame.belowFailed (.guard false :: frame (i + 1) :: rest) = none :=
          (plain (i + 1) rest).trans intact
        obtain ⟨more, w'', kept, left⟩ := brings i items v v' le
          (stable i items w' v written now) entered _ _ below (reached.more step)
        refine ⟨items ++ more, w'', kept, ?_⟩
        rw [← List.append_assoc]
        exact left.more rfl
  obtain ⟨items, w', now, reached⟩ := upTo n (Nat.le_refl n)
  obtain ⟨v, written, step⟩ := ends rest w' ⟨_, _, reached⟩
  exact ⟨items, v, stable n items w' v written now, reached.more step⟩

/-- The iterations carry an invariant from one to the next, if what the author code of the
loop writes does not touch it. -/
theorem Repeats.brings {a : Action φ} {w : World φ ν}
    (repeats : Repeats host (Occurs host start) keeps id n body a)
    (holds : Nat → List Element → World φ ν → Prop) (refl : ∀ w, keeps w w)
    (stable : ∀ i items w w', keeps w w' → holds i items w → holds i items w')
    (begins : holds 0 [] w)
    (brings : ∀ i items w w', i < n → holds i items w → keeps (enterIteration w id i) w' →
      Brings host start body (iterationProps props id i) w'
        fun more w'' => holds (i + 1) (items ++ more) w'') :
    Brings host start (.action a) props w
      fun items w' => ∃ last, holds n items last ∧ w' = leaveLoop last id n := by
  intro rest said intact reached
  have below : Frame.belowFailed (.guard false :: rest) = none := intact
  cases repeats with
  | @loop options asks =>
      obtain ⟨items, last, kept, left⟩ := Reaches.iterations (.loop props id body options)
        (fun _ _ => rfl)
        (fun i rest w lt occurs => by
          obtain ⟨goesOn, written⟩ := asks props i w (Nat.le_of_lt lt) occurs
          rw [decide_eq_false (Nat.not_le.2 lt)] at goesOn
          refine ⟨_, _, written, refl _, ?_⟩
          simp only [Machine.step, stepLoop]
          rw [← Prod.eta (loopEnds host props options i w), goesOn])
        (fun rest w occurs => by
          obtain ⟨stops, written⟩ := asks props n w (Nat.le_refl n) occurs
          rw [decide_eq_true (Nat.le_refl n)] at stops
          refine ⟨_, written, ?_⟩
          simp only [Machine.step, stepLoop]
          rw [← Prod.eta (loopEnds host props options n w), stops])
        stable brings below begins (reached.more rfl)
      exact ⟨items, _, ⟨last, kept, rfl⟩, left.more rfl⟩
  | @map item gives =>
      obtain ⟨items, last, kept, left⟩ := Reaches.iterations (.map props id n item)
        (fun _ _ => rfl)
        (fun i rest w lt occurs => by
          obtain ⟨given, written⟩ := gives props i w lt occurs
          refine ⟨_, _, refl w, written, ?_⟩
          simp only [Machine.step, stepMap, if_neg (Nat.not_le.2 lt), given])
        (fun rest w _ => by
          refine ⟨w, refl w, ?_⟩
          simp only [Machine.step, stepMap, if_pos (Nat.le_refl n)])
        stable brings below begins (reached.more rfl)
      exact ⟨items, _, ⟨last, kept, rfl⟩, left.more rfl⟩

end Iterations

/-! ## Generations -/

section Said

variable (name : String) (role : Role) (w : World φ ν) (said : List String)

theorem World.sayAll_append (later : List String) :
    w.sayAll name role (said ++ later) = (w.sayAll name role said).sayAll name role later :=
  List.foldl_append

theorem World.sayAll_fresh (fresh : Option String) :
    w.sayAll name role fresh.toList = (emitDelta w name fresh).receiveFresh role fresh := by
  cases fresh <;> rfl

theorem World.sayAll_connectors : (w.sayAll name role said).connectors = w.connectors := by
  induction said generalizing w with
  | nil => rfl
  | cons s said ih => exact ih (w.say name role s)

theorem World.sayAll_state : (w.sayAll name role said).scene.state = w.scene.state := by
  induction said generalizing w with
  | nil => rfl
  | cons s said ih => exact ih (w.say name role s)

theorem World.sayAll_prompt :
    (w.sayAll name role said).scene.prompt = w.scene.prompt ++ said.map (saidElement role) := by
  induction said generalizing w with
  | nil => exact (List.append_nil _).symm
  | cons s said ih =>
      refine (ih (w.say name role s)).trans ?_
      rw [List.map_cons, ← List.singleton_append, ← List.append_assoc]
      rfl

end Said

section Generation

variable {name : String} {props : Props}

theorem freshPart_recorder (fresh : Option String) (w : World φ ν) :
    freshPart .recorder props fresh w
      = ⟨fresh.toList.map (saidElement props.context.role),
          .ended (w.receiveFresh props.context.role fresh)⟩ := by
  cases fresh <;> rfl

/-- A completion that does not fail is taken in up to where a stop cuts the generation, or to
its end. -/
theorem resolveGeneration_of_healthy (props : Props) {stop : Option Stop}
    {heard signals : Feed Delta} {before : List String} {g : Generation} (w : World φ ν)
    (took : Took (.fresh name stop) heard before g) (goesOn : g.done = false)
    (healthy : ∀ f, .failed f ∉ signals) :
    ∃ taken left said g', signals = taken ++ left ∧
      Ended (.fresh name stop) (heard ++ taken) left (before ++ said) g' ∧
      resolveGeneration .recorder props g signals w
        = ⟨said.map (saidElement props.context.role),
            .ended (recordGeneration (w.sayAll name props.context.role said) g' props)⟩ := by
  induction signals generalizing heard before g w with
  | nil =>
      have ended := Ended.closed took goesOn
      refine ⟨[], [], g.close.1.toList, g.close.2, rfl, ?_, ?_⟩
      · rw [List.append_nil]
        exact ended
      · rw [resolveGeneration.eq_def, if_neg (ne_true_of_eq_false goesOn)]
        simp only [freshPart_recorder]
        rw [heardDelta, if_pos (close_done g), receiveFresh_recordGeneration,
          show g.close.2.name = name from ended.name, World.sayAll_fresh]
  | cons signal more ih =>
      have healthyLater : ∀ f, .failed f ∉ more := fun f mem =>
        healthy f (List.mem_cons_of_mem _ mem)
      rw [resolveGeneration.eq_def, if_neg (ne_true_of_eq_false goesOn)]
      cases signal with
      | failed f => exact absurd List.mem_cons_self (healthy f)
      | pending =>
          obtain ⟨taken, left, said, g', rfl, ended, resolved⟩ :=
            ih w (took.pending goesOn) goesOn healthyLater
          refine ⟨.pending :: taken, left, said, g', rfl, ?_, resolved⟩
          rwa [List.append_assoc] at ended
      | item d =>
          have next := Took.item d took goesOn
          have named : (g.absorb d).2.name = name := next.keeps.1
          simp only [freshPart_recorder]
          cases done : (g.absorb d).2.done with
          | true =>
              refine ⟨[.item d], more, (g.absorb d).1.toList, _, rfl, .cut more next done, ?_⟩
              rw [heardDelta, if_pos done, receiveFresh_recordGeneration, named,
                ← World.sayAll_fresh]
              simp only [Resolution.andThen]
              rw [resolveGeneration.eq_def, if_pos done]
              simp only [Resolution.nothing, List.append_nil]
          | false =>
              obtain ⟨taken, left, said, g', rfl, ended, resolved⟩ := ih
                (w.sayAll name props.context.role (g.absorb d).1.toList) next done healthyLater
              refine ⟨.item d :: taken, left, (g.absorb d).1.toList ++ said, g', rfl, ?_, ?_⟩
              · rwa [List.append_assoc, List.append_assoc] at ended
              · rw [heardDelta, if_neg (ne_true_of_eq_false done), named, ← World.sayAll_fresh]
                simp only [Resolution.andThen]
                rw [resolved, List.map_append, World.sayAll_append]

/-- A generation asks its connector once. -/
theorem askConnector_eq (name : String) (options : GenerationOptions) {w : World φ ν}
    {c : Connector} (found : w.connectors[props.context.llm.completion.index]? = some c) :
    let answered := c.complete
      (generationRequest options (options.effectiveStop props.nextLiteral) props w.scene.prompt)
    askConnector name options props w
      = (answered.1,
          { w.emit (.generationStarted name props.context.outputAddress props.context.role) with
            connectors := w.connectors.set props.context.llm.completion.index answered.2 }) := by
  unfold askConnector World.complete
  simp only [World.emit, found]

/-- A generation is given what its connector answers to its request. -/
theorem askConnector_of_connector (name : String) (options : GenerationOptions)
    {w : World φ ν} {c : Connector}
    (found : w.connectors[props.context.llm.completion.index]? = some c) :
    let request := generationRequest options (options.effectiveStop props.nextLiteral) props
      w.scene.prompt
    completionOf name options props w = (c.complete request).1 ∧
      (askConnector name options props w).2.connectors[props.context.llm.completion.index]?
        = some (c.complete request).2 := by
  intro request
  have inRange := (List.getElem?_eq_some_iff.1 found).1
  rw [completionOf, askConnector_eq name options found]
  exact ⟨rfl, List.getElem?_set_self inRange⟩

/-- A generation whose completion does not fail says some texts and records its result. -/
theorem Brings.generate_of_healthy {host : Host φ ν} {start : Run φ ν}
    {options : GenerationOptions} {w : World φ ν}
    (healthy : ∀ f, .failed f ∉ completionOf name options props w) :
    Brings host start (.action (.generate name options)) props w fun items w' =>
      ∃ heard left said g, completionOf name options props w = heard ++ left ∧
        Ended (freshGeneration name options props) heard left said g ∧
        items = said.map (saidElement props.context.role) ∧
        w' = recordGeneration (worldAfter name options props w said) g props := by
  intro rest said intact reached
  have begun : Reaches host start said
      ⟨.generation (freshGeneration name options props) props (completionOf name options props w)
        :: rest, (askConnector name options props w).2⟩ := reached.more rfl
  obtain ⟨heard, left, texts, g, shape, ended, resolved⟩ := resolveGeneration_of_healthy
    props (askConnector name options props w).2
    (.start : Took (freshGeneration name options props) [] [] _) rfl healthy
  have followed : Follows .recorder host 0 _ rest _ := Follows.generation intact props
    (freshGeneration name options props) (completionOf name options props w)
    (askConnector name options props w).2
  rw [show resolveGeneration _ _ _ _ _ = _ from resolved] at followed
  exact ⟨_, _, ⟨heard, left, texts, g, shape, ended, rfl, rfl⟩, begun.follows followed⟩

/-- What a generation that nothing stops says and leaves, started in a world: it has taken
in its whole completion, said some texts and recorded its result. -/
def Generated (name : String) (options : GenerationOptions) (props : Props) (w : World φ ν)
    (items : List Element) (w' : World φ ν) : Prop :=
  ∃ said g, Ended (.fresh name none) (completionOf name options props w) [] said g ∧
    items = said.map (saidElement props.context.role) ∧
    w' = recordGeneration (worldAfter name options props w said) g props

/-- A generation that nothing stops and whose completion does not fail. -/
theorem Brings.generate {host : Host φ ν} {start : Run φ ν} {options : GenerationOptions}
    {w : World φ ν} (free : options.effectiveStop props.nextLiteral = none)
    (healthy : ∀ f, .failed f ∉ completionOf name options props w) :
    Brings host start (.action (.generate name options)) props w
      (Generated name options props w) := by
  refine (Brings.generate_of_healthy healthy).mono ?_
  rintro items w' ⟨heard, left, said, g, shape, ended, items, world⟩
  rw [freshGeneration_of_free free] at ended
  obtain ⟨rfl, -⟩ := ended.gathers
  rw [List.append_nil] at shape
  exact ⟨said, g, shape ▸ ended, items, world⟩

namespace Generated

variable {options : GenerationOptions} {w w' : World φ ν} {items : List Element}

/-- It records the gathered texts of its completion. -/
theorem outputs (h : Generated name options props w items w') :
    w'.scene.outputs = w.scene.outputs.insertAt props.context.outputAddress name
      (.ofTexts (gathered (completionOf name options props w))) := by
  obtain ⟨said, g, ended, -, rfl⟩ := h
  rw [recorded_outputs, show g.name = name from ended.name, Generation.value_eq_ofTexts,
    ended.gathers.2.1]

/-- It says the first of them. -/
theorem spoken (h : Generated name options props w items w') :
    ∃ said, items = said.map (saidElement props.context.role) ∧
      String.join said = choiceText 0 (completionOf name options props w) := by
  obtain ⟨said, g, ended, same, -⟩ := h
  exact ⟨said, same, ended.gathers.2.2.2⟩

theorem connectors (h : Generated name options props w items w') :
    w'.connectors = (askConnector name options props w).2.connectors := by
  obtain ⟨said, g, -, -, rfl⟩ := h
  exact World.sayAll_connectors _ _ _ said

theorem state (h : Generated name options props w items w') :
    w'.scene.state = w.scene.state := by
  obtain ⟨said, g, -, -, rfl⟩ := h
  refine (World.sayAll_state name props.context.role _ said).trans ?_
  rw [askConnector, World.complete_scene]
  rfl

theorem prompt (h : Generated name options props w items w') :
    w'.scene.prompt = w.scene.prompt ++ items := by
  obtain ⟨said, g, -, rfl, rfl⟩ := h
  refine (World.sayAll_prompt name props.context.role _ said).trans ?_
  rw [askConnector, World.complete_scene]
  rfl

end Generated

end Generation

/-! ## Runs -/

/-- A run whose work is done after some steps comes to its end once it is polled often enough,
and then it has handed out and left what these steps do. -/
theorem Run.polls_of_drain {host : Host φ ν} {m : Run φ ν} {n : Nat}
    {items : List (Except Fault Element)} {w' : World φ ν}
    (drained : Consumer.recorder.drain host n m = (items, ⟨[], w'⟩)) :
    (∃ many, ∀ fuels : List Nat, (∀ fuel ∈ fuels, 0 < fuel) → many < fuels.length →
      .ended ∈ (Run.polls host fuels m).1) ∧
    ∀ fuels, .ended ∈ (Run.polls host fuels m).1 →
      handedOut (Run.polls host fuels m).1 = items ∧ (Run.polls host fuels m).2 = ⟨[], w'⟩ := by
  refine ⟨⟨n, fun fuels positive enough => ?_⟩, fun fuels ended => ?_⟩
  · refine Consumer.ended_mem_polls_of_drain (n := n) ?_ positive enough
    rw [drained]
  · obtain ⟨k, polled⟩ := Consumer.polls_eq_drain host fuels m
    exact Consumer.drain_eq_of_ended polled drained (Run.stack_of_ended_mem ended) rfl

/-- What an input brings at the root is what its run hands out and leaves.  The run comes to
its end once it is polled often enough, and then it has handed out these elements, no failure,
and left this world. -/
theorem Brings.polls {host : Host φ ν} {llm : Llm} {input : Input φ} {params : Json}
    {w : World φ ν} {post : List Element → World φ ν → Prop}
    (h : Brings host (Run.start llm input params w) input ⟨llm.context, params, none⟩ w post) :
    ∃ items w', post items w' ∧
      (∃ many, ∀ fuels : List Nat, (∀ fuel ∈ fuels, 0 < fuel) → many < fuels.length →
        .ended ∈ (Run.polls host fuels (Run.start llm input params w)).1) ∧
      ∀ fuels, .ended ∈ (Run.polls host fuels (Run.start llm input params w)).1 →
        handedOut (Run.polls host fuels (Run.start llm input params w)).1 = items.map .ok ∧
          (Run.polls host fuels (Run.start llm input params w)).2 = ⟨[], w'⟩ := by
  obtain ⟨items, w', holds, left⟩ := h [.guard false] [] rfl (.refl host _)
  rw [List.nil_append] at left
  have closed : Reaches host (Run.start llm input params w) items ⟨[], w'⟩ := left.more rfl
  obtain ⟨n, drained⟩ := closed
  exact ⟨items, w', holds, Run.polls_of_drain drained⟩

end PromptStream
