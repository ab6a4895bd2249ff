import PromptStream.Proofs.Engine.PathContext

/-!
# The context of a node

A step is done by the frame on top of the stack, in the context of that frame
(`Frame.ActsIn`): what it says, announces, records or waits for is in the role, at the
address and of the loop of that context.  In a run of a regular tree the frames of the
stack lead to a path of the tree, whatever the consumer does (`Run.play_leads`).  So a
node acts in the context at its own path (`context_at_path`).
-/

namespace PromptStream

variable {φ ν : Type}

/-! ## What a frame does in its context -/

/-- A frame does its next step in a context. -/
structure Frame.ActsIn (host : Host φ ν) (f : Frame φ) (rest : List (Frame φ)) (w : World φ ν)
    (c : Context) : Prop where
  /-- A function that it calls sees the context. -/
  calls : ∀ g props fromFunction, f = .input (.function g) props fromFunction → props.context = c
  /-- What it says, it says in the role. -/
  speaks : ∀ e, (Run.poll host 1 ⟨f :: rest, w⟩).1 = .element e → e.role = c.role
  /-- A generation that it starts is announced with the address and the role. -/
  starts : ∀ name address role, .generationStarted name address role ∈ f.reports host w →
    address = c.outputAddress ∧ role = c.role
  /-- A result that it finishes is recorded at the address. -/
  finishes : ∀ r, f.finishes? w = some r → r.address = c.outputAddress
  /-- An item that it announces to wait for is that of the iteration of the loop. -/
  awaits : ∀ key i, .waiting key i ∈ f.reports host w →
    i = w.scene.state.currentIteration c.loopId

/-- What a step says, if it says anything. -/
def Step.element? (s : Step φ ν) : Option Element := (Run.settle s).1.element?

theorem eq_ok_of_deliver {result : Except Fault Element} {stack : List (Frame φ)}
    {w : World φ ν} {e : Element} (said : (deliver result stack w).element? = some e) :
    result = .ok e := by
  unfold deliver at said
  split at said
  next => cases said
  next =>
    cases result with
    | ok e' =>
        cases said
        rfl
    | error f => cases said

section Says

variable {rest : List (Frame φ)} {w : World φ ν} {props : Props} {e : Element}

theorem role_of_deliver {e' : Element} {stack : List (Frame φ)}
    (said : (deliver (.ok e') stack w).element? = some e) : e.role = e'.role := by
  cases eq_ok_of_deliver said
  rfl

theorem role_stepInput {host : Host φ ν} {i : Input φ} {fromFunction : Bool}
    (said : (stepInput host i props fromFunction rest w).element? = some e) :
    e.role = props.context.role := by
  cases i with
  | number x =>
      rw [stepInput] at said
      exact role_of_deliver said
  | text s =>
      rw [stepInput] at said
      exact role_of_deliver said
  | stream cell =>
      simp only [stepInput] at said
      split at said <;> cases said
  | deferred d => cases d <;> cases said
  | null => cases said
  | list items => cases said
  | function f => cases said
  | action a => cases said

theorem mute_stepResolved {result : Except Fault (Input φ)} :
    (stepResolved result props rest w).element? ≠ some e := by
  intro said
  cases result with
  | ok i => cases said
  | error f =>
      rw [stepResolved] at said
      cases eq_ok_of_deliver said

theorem mute_stepShared {host : Host φ ν} {cell : Nat} :
    (stepShared host cell props rest w).element? ≠ some e := by
  intro said
  unfold stepShared at said
  split at said
  next => cases said
  next => exact mute_stepResolved said
  next =>
    dsimp only at said
    split at said
    next => cases said
    next => exact mute_stepResolved said

theorem role_stepBinder {literals : List String} {slots : List (Slot φ)}
    (said : (stepBinder props literals slots rest w).element? = some e) :
    e.role = props.context.role := by
  by_cases exhausted : literals = [] ∧ slots = []
  · rw [exhausted.1, exhausted.2] at said
    cases said
  · rw [stepBinder_of_left props rest w exhausted] at said
    split at said
    next =>
      split at said
      next => cases said
      next => exact role_of_deliver said
    next => cases said

theorem role_stepWaiting {key : String} {index : Option Nat}
    (said : (stepWaiting key props index rest w).element? = some e) :
    e.role = props.context.role := by
  cases looked : w.scene.state.item? key (waitIndex w props index) with
  | some item =>
      rw [stepWaiting_of_item rest w looked, consumeItem] at said
      exact role_of_deliver said
  | none =>
      rw [stepWaiting_of_none rest w looked] at said
      cases said

theorem role_deliverFresh {fresh : Option String} {g : Generation} {feed : Feed Delta}
    (said : (deliverFresh fresh g props feed rest w).element? = some e) :
    e.role = props.context.role := by
  cases fresh with
  | none => cases said
  | some s =>
      rw [deliverFresh] at said
      exact role_of_deliver said

theorem role_stepGeneration {g : Generation} {feed : Feed Delta}
    (said : (stepGeneration g props feed rest w).element? = some e) :
    e.role = props.context.role := by
  cases isDone : g.done with
  | true =>
      rw [stepGeneration_of_done props feed rest w isDone] at said
      cases said
  | false =>
      match feed with
      | [] =>
          rw [stepGeneration_nil props rest w isDone] at said
          exact role_deliverFresh said
      | .item d :: more =>
          rw [stepGeneration_item props more rest w d isDone] at said
          exact role_deliverFresh said
      | .failed f :: more =>
          rw [stepGeneration_failed props more rest w f isDone] at said
          cases eq_ok_of_deliver said
      | .pending :: more =>
          rw [stepGeneration_pending props more rest w isDone] at said
          cases said

/-- A frame says nothing but in the role of its own context. -/
theorem role_step {host : Host φ ν} {f : Frame φ} (own : f.props? = some props)
    (said : (Machine.step host ⟨f :: rest, w⟩).element? = some e) :
    e.role = props.context.role := by
  cases f with
  | guard failed => cases own
  | feed signals => cases own
  | input i props' fromFunction =>
      cases own
      exact role_stepInput said
  | items props' index more => cases more <;> cases said
  | binder props' literals slots =>
      cases own
      exact role_stepBinder said
  | loop props' id body options i =>
      change (stepLoop host props' id body options i rest w).element? = some e at said
      unfold stepLoop at said
      split at said <;> cases said
  | map props' id count item i =>
      change (stepMap host props' id count item i rest w).element? = some e at said
      unfold stepMap at said
      split at said <;> cases said
  | awaitShared cell props' => exact absurd said mute_stepShared
  | awaitFresh future polls props' =>
      simp only [Machine.step] at said
      split at said
      next => cases said
      next => exact absurd said mute_stepResolved
  | waiting key props' index =>
      cases own
      exact role_stepWaiting said
  | generation g props' feed =>
      cases own
      exact role_stepGeneration said

end Says

/-! ## What a frame reports from its context -/

section Reports

variable {host : Host φ ν} {w : World φ ν} {f : Frame φ} {props : Props}

/-- An event that tells something of a context, when it is reported from there. -/
def Event.TellsOf (w : World φ ν) (c : Context) : Event → Prop
  | .generationStarted _ address role => address = c.outputAddress ∧ role = c.role
  | .waiting _ i => i = w.scene.state.currentIteration c.loopId
  | _ => True

theorem Generation.tellsOf_of_reports {g : Generation} {fresh : Option String} {c : Context}
    {e : Event} (reported : e ∈ g.reports fresh) : e.TellsOf w c := by
  rcases List.mem_append.1 reported with delta | last
  · obtain ⟨s, -, rfl⟩ := Option.map_eq_some_iff.1 (Option.mem_toList.1 delta)
    trivial
  · split at last
    next =>
      cases List.mem_singleton.1 last
      trivial
    next => cases last

/-- What a frame reports, it reports from its own context. -/
theorem tellsOf_of_reports {e : Event} (own : f.props? = some props)
    (reported : e ∈ f.reports host w) : e.TellsOf w props.context := by
  unfold Frame.reports at reported
  split at reported
  next =>
    cases own
    cases List.mem_singleton.1 reported
    exact ⟨rfl, rfl⟩
  next =>
    split at reported <;>
    · cases List.mem_singleton.1 reported
      trivial
  next =>
    split at reported <;>
    · cases List.mem_singleton.1 reported
      trivial
  next key props' index =>
    cases own
    split at reported
    next =>
      cases List.mem_singleton.1 reported
      trivial
    next =>
      cases index with
      | some index => cases reported
      | none =>
          cases List.mem_singleton.1 reported
          rfl
  next g props' signals =>
    split at reported
    next => cases reported
    next =>
      match signals with
      | [] => exact Generation.tellsOf_of_reports reported
      | .item d :: _ => exact Generation.tellsOf_of_reports reported
      | .failed f :: _ => cases reported
      | .pending :: _ => cases reported
  next => cases reported

theorem address_of_finishes {r : FinishedResult} (own : f.props? = some props)
    (finishes : f.finishes? w = some r) : r.address = props.context.outputAddress := by
  unfold Frame.finishes? at finishes
  split at finishes
  next g props' signals =>
    cases own
    split at finishes
    next => cases finishes
    next =>
      unfold Generation.finishes? at finishes
      split at finishes
      next =>
        cases finishes
        rfl
      next =>
        split at finishes
        next =>
          cases finishes
          rfl
        next => cases finishes
      next => cases finishes
  next =>
    cases own
    obtain ⟨item, -, rfl⟩ := Option.map_eq_some_iff.1 finishes
    rfl
  next => cases finishes

/-- A frame acts in its own context. -/
theorem Frame.actsIn (host : Host φ ν) (own : f.props? = some props) (rest : List (Frame φ))
    (w : World φ ν) : f.ActsIn host rest w props.context where
  calls _ _ _ same := by
    subst same
    cases own
    rfl
  speaks e said := by
    rw [Run.poll_one] at said
    have spoken : (Machine.step host ⟨f :: rest, w⟩).element? = some e := by
      rw [Step.element?, said]
      rfl
    exact role_step own spoken
  starts _ _ _ reported := tellsOf_of_reports own reported
  finishes _ finished := address_of_finishes own finished
  awaits _ _ reported := tellsOf_of_reports own reported

end Reports

/-! ## Runs -/

section Runs

variable {t : Tree φ ν}

variable (t) in
/-- A run whose work leads to a path of the tree. -/
structure Tree.Holds (m : Run φ ν) : Prop where
  leads : ∃ p, t.Leads m.stack p
  futures : t.HoldsFutures m.world.futures

theorem Tree.holds_start (t : Tree φ ν) : t.Holds t.run where
  leads := by
    have start := Tree.Leads.nothing.guarded (t := t) Tree.Has.root (Context.At.start _)
    rw [List.append_nil] at start
    exact ⟨_, start⟩
  futures := t.holdsFutures_start

/-- A consumer that receives an element leaves the work as it is. -/
theorem Tree.Keeps.settle {s : Step φ ν} (h : t.Keeps s) : t.Holds (Run.settle s).2 := by
  cases s with
  | item result m => cases result <;> exact ⟨h.leads, h.futures⟩
  | _ => exact ⟨h.leads, h.futures⟩

/-- Whatever a consumer does with a run of a regular tree, the work that is left leads
to a path of the tree. -/
theorem Tree.play_holds (regular : t.Regular) (moves : List (Move ν)) :
    t.Holds (Run.play t.host moves t.run).2 := by
  refine Run.play_preserves t.Holds ?_ ?_ t.holds_start
  · intro m h
    rw [Run.poll_one]
    exact (Tree.step_keeps regular h.leads h.futures).settle
  · intro x _ m h
    exact ⟨h.leads, h.futures⟩

/-- In every run of a regular tree, the frame on top works on what stands at a path of
the tree, and it acts in the context at that path: its position is that of the root,
followed by the list positions and the iterations on the path, its address is that of
the root, followed by the blocks and the iterations, its role is the innermost one, and
its loop is the innermost one. -/
theorem context_at_path (t : Tree φ ν) (regular : t.Regular) (moves : List (Move ν))
    (f : Frame φ) (rest : List (Frame φ)) :
    let m := (Run.play t.host moves t.run).2
    m.stack = f :: rest →
      ∃ below p, t.Leads rest below ∧ t.Works below f p ∧
        ∀ props, f.props? = some props →
          t.props.context.At p props.context ∧ f.ActsIn t.host rest m.world props.context := by
  intro m top
  obtain ⟨q, leads⟩ := (Tree.play_holds regular moves).leads
  change t.Leads m.stack q at leads
  rw [top] at leads
  cases leads with
  | @frame _ _ below p leads works sees =>
      exact ⟨below, p, leads, works, fun props own => ⟨sees props own, f.actsIn t.host own rest _⟩⟩

/-- A function in a loop in a block in a list returns a wait in the scope of a role.  In
the second iteration the wait finds nothing, and its context is that of its path: the
role scope that the function made in the first iteration is not on it. -/
theorem context_at_path_of_second_iteration :
    let asked : Input Unit := .action ((Scope.ofRole .system).wrap (some (.action (.wait "q"))))
    let loop : Input Unit := .action (.loop "l" (.function ()) { maxIterations := some 2 })
    let host : Host Unit Empty := {
      call := fun _ _ _ => (asked, [])
      poll := fun _ _ _ => (none, [])
      until? := fun _ _ _ _ => (false, [])
      item := fun _ _ _ => (.null, [])
      perform := fun _ _ _ => (.emit [], []) }
    let t : Tree Unit Empty := {
      host := host
      input := .list [.text "x", .action ((Scope.block "b").wrap (some loop))]
      props := { context := (default : Llm).context }
      world := {} }
    let m := (Run.play t.host
      [.write (.push "q" (.text "hi")), .poll 40, .poll 40, .poll 40] t.run).2
    t.Regular ∧ ∃ props rest p, m.stack = .waiting "q" props (some 1) :: rest ∧
      t.props.context.At p props.context ∧ p.positions = [1, 1] ∧ p.segments = ["b", "l", "1"] ∧
      p.role? = some .system ∧ p.loop? = some "l" := by
  intro asked loop host t m
  have askedRegular : asked.Regular := by
    refine .template (.role .system) fun i mem => ?_
    cases List.mem_singleton.1 mem
    exact .wait "q"
  have block : (Input.action ((Scope.block "b").wrap (some loop))).Regular := by
    refine .template (.block "b") fun i mem => ?_
    cases List.mem_singleton.1 mem
    exact .loop (.function ())
  have input : t.input.Regular := by
    refine .list fun i mem => ?_
    simp only [List.mem_cons, List.not_mem_nil, or_false] at mem
    rcases mem with rfl | rfl
    · exact .text "x"
    · exact block
  have regular : t.Regular := Tree.regular_of_inputs input (fun _ _ _ => askedRegular)
    (fun _ _ _ => .null) (fun _ _ _ _ never => nomatch never) (fun _ _ none => nomatch none)
  have seen : ∃ props rest, m.stack = .waiting "q" props (some 1) :: rest ∧
      props.context.leafId = [1, 1] ∧ props.context.outputAddress = ["b", "l", "1"] ∧
      props.context.role = .system ∧ props.context.loopId = some "l" :=
    ⟨_, _, rfl, rfl, rfl, rfl, rfl⟩
  obtain ⟨props, rest, top, leafId, address, role, loopId⟩ := seen
  obtain ⟨below, p, -, -, acts⟩ := context_at_path t regular _ _ rest top
  obtain ⟨context, -⟩ := acts props rfl
  refine ⟨regular, props, rest, p, top, context, ?_, ?_, ?_, ?_⟩
  · exact context.leafId.symm.trans leafId
  · exact context.outputAddress.symm.trans address
  · have innermost : p.role?.getD .user = .system := context.role.symm.trans role
    cases same : p.role? with
    | none =>
        rw [same] at innermost
        cases innermost
    | some r =>
        rw [same] at innermost
        exact congrArg some innermost
  · have innermost : p.loop?.or none = some "l" := context.loopId.symm.trans loopId
    rwa [Option.or_none] at innermost

end Runs

end PromptStream
