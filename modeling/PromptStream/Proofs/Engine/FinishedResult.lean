import PromptStream.Proofs.Engine.Reports
import PromptStream.Proofs.Outputs.Write

/-!
# Finished results

A generation that is over and a wait that gets its item each record a result and
then report it.  `Frame.finishes?` is the result that the next step of a frame
finishes, if it does.  No step reports a result without finishing it
(`resultReports_eq`), and at the moment of the report the result has been written
at the address of its place (`outputs_of_finishes`).

So a report finds its result in the outputs unless the write was dropped, which
happens exactly if some position on the way lies too far past the end of its list
(`lookup?_at_report`).
-/

namespace PromptStream

variable {φ ν : Type}

/-- The name under which a finished result was recorded, if an event reports
one. -/
def Event.resultName? : Event → Option String
  | .generationFinished name _ _ => some name
  | .itemConsumed key _ => some key
  | _ => none

/-- A result that a step finishes. -/
structure FinishedResult where
  /-- The address under which it is recorded. -/
  address : List String
  /-- Its name there. -/
  name : String
  /-- The result itself. -/
  value : OutputValue
  /-- The event that reports it. -/
  report : Event

/-- The result of a generation that is over. -/
def Generation.result (g : Generation) (props : Props) : FinishedResult :=
  ⟨props.context.outputAddress, g.name, g.value, .generationFinished g.name g.lead g.choices⟩

/-- The result of a wait that gets its item. -/
def consumedResult (key : String) (props : Props) (index : Nat) (item : Json) : FinishedResult :=
  ⟨props.context.outputAddress, key, .text (itemText item), .itemConsumed key index⟩

/-- The result that a generation finishes with the next signal of its completion. -/
def Generation.finishes? (g : Generation) (props : Props) : Feed Delta → Option FinishedResult
  | [] => some (g.close.2.result props)
  | .item d :: _ => if (g.absorb d).2.done then some ((g.absorb d).2.result props) else none
  | _ => none

/-- The result that the next step of a frame finishes. -/
def Frame.finishes? (w : World φ ν) : Frame φ → Option FinishedResult
  | .generation g props signals => if g.done then none else g.finishes? props signals
  | .waiting key props index =>
      (w.scene.state.item? key (waitIndex w props index)).map
        (consumedResult key props (waitIndex w props index))
  | _ => none

/-- The world once a result is recorded and reported. -/
def World.finish (w : World φ ν) (r : FinishedResult) : World φ ν :=
  (w.record r.address r.name r.value).emit r.report

/-! ## Reports of results -/

/-- The events that report a finished result. -/
def resultReports (events : List Event) : List Event :=
  events.filter fun e => e.resultName?.isSome

theorem resultReports_append (events more : List Event) :
    resultReports (events ++ more) = resultReports events ++ resultReports more :=
  List.filter_append events more

theorem Generation.resultReports_reports (g : Generation) (fresh : Option String) (props : Props) :
    resultReports (g.reports fresh) = if g.done then [(g.result props).report] else [] := by
  rw [Generation.reports, resultReports_append]
  have said : resultReports (fresh.map (.generationDelta g.name)).toList = [] := by
    cases fresh <;> rfl
  rw [said, List.nil_append]
  split <;> rfl

theorem Generation.resultReports_nextReports (g : Generation) (props : Props)
    (signals : Feed Delta) :
    resultReports (g.nextReports signals)
      = ((g.finishes? props signals).map FinishedResult.report).toList := by
  match signals with
  | [] =>
      rw [Generation.nextReports, Generation.resultReports_reports _ _ props,
        if_pos (close_done g)]
      rfl
  | .item d :: more =>
      rw [Generation.nextReports, Generation.resultReports_reports _ _ props, Generation.finishes?]
      split <;> rfl
  | .failed f :: more => rfl
  | .pending :: more => rfl

/-- A step reports the result that it finishes, and no other. -/
theorem resultReports_eq (host : Host φ ν) (w : World φ ν) (f : Frame φ) :
    resultReports (f.reports host w)
      = ((f.finishes? w).map FinishedResult.report).toList := by
  cases f with
  | input i props fromFunction =>
      cases i with
      | action a => cases a <;> rfl
      | _ => rfl
  | loop props id body options i =>
      rw [Frame.reports]
      split <;> rfl
  | map props id count item i =>
      rw [Frame.reports]
      split <;> rfl
  | waiting key props index =>
      rw [Frame.reports, Frame.finishes?]
      cases w.scene.state.item? key (waitIndex w props index) with
      | some item => rfl
      | none => cases index <;> rfl
  | generation g props signals =>
      rw [Frame.reports, Frame.finishes?]
      split
      next => rfl
      next => exact g.resultReports_nextReports props signals
  | _ => rfl

theorem FinishedResult.resultName?_report {w : World φ ν} {f : Frame φ} {r : FinishedResult}
    (finishes : f.finishes? w = some r) : r.report.resultName? = some r.name := by
  unfold Frame.finishes? at finishes
  split at finishes
  next g props signals =>
    split at finishes
    next => cases finishes
    next =>
      unfold Generation.finishes? at finishes
      split at finishes
      next =>
        cases finishes
        rfl
      next =>
        split at finishes
        next =>
          cases finishes
          rfl
        next => cases finishes
      next => cases finishes
  next =>
    obtain ⟨item, -, rfl⟩ := Option.map_eq_some_iff.1 finishes
    rfl
  next => cases finishes

/-! ## Recorded results -/

theorem World.outputs_finish (w : World φ ν) (r : FinishedResult) :
    (w.finish r).scene.outputs = w.scene.outputs.insertAt r.address r.name r.value := rfl

theorem outputs_emitDelta (w : World φ ν) (name : String) (fresh : Option String) :
    (emitDelta w name fresh).scene.outputs = w.scene.outputs := by
  cases fresh <;> rfl

theorem outputs_heardDelta (w : World φ ν) (fresh : Option String) {g : Generation}
    (props : Props) (isDone : g.done = true) :
    (heardDelta fresh g props w).scene.outputs
      = w.scene.outputs.insertAt props.context.outputAddress g.name g.value := by
  rw [heardDelta, if_pos isDone]
  refine (World.outputs_finish _ (g.result props)).trans ?_
  rw [outputs_emitDelta]
  rfl

theorem outputs_stepGeneration {g : Generation} {props : Props} {signals : Feed Delta}
    {r : FinishedResult} (running : g.done = false) (finishes : g.finishes? props signals = some r)
    (rest : List (Frame φ)) (w : World φ ν) :
    (stepGeneration g props signals rest w).world.scene.outputs
      = w.scene.outputs.insertAt r.address r.name r.value := by
  match signals with
  | [] =>
      cases finishes
      rw [stepGeneration_nil props rest w running, deliverFresh_world, recordGeneration_close]
      exact outputs_heardDelta w _ props (close_done g)
  | .item d :: more =>
      rw [Generation.finishes?] at finishes
      split at finishes
      next isDone =>
        cases finishes
        rw [stepGeneration_item props more rest w d running, deliverFresh_world]
        exact outputs_heardDelta w _ props isDone
      next => cases finishes
  | .failed f :: more => cases finishes
  | .pending :: more => cases finishes

/-- A step that finishes a result has written it once it reports it. -/
theorem outputs_of_finishes (host : Host φ ν) {f : Frame φ} {w : World φ ν} {r : FinishedResult}
    (finishes : f.finishes? w = some r) (rest : List (Frame φ)) :
    (Machine.step host ⟨f :: rest, w⟩).world.scene.outputs
      = w.scene.outputs.insertAt r.address r.name r.value := by
  unfold Frame.finishes? at finishes
  split at finishes
  next g props signals =>
    split at finishes
    next => cases finishes
    next running =>
      exact outputs_stepGeneration (eq_false_of_ne_true running) finishes rest w
  next key props index =>
    obtain ⟨item, there, rfl⟩ := Option.map_eq_some_iff.1 finishes
    change (stepWaiting key props index rest w).world.scene.outputs = _
    rw [stepWaiting_of_item rest w there, consumeItem, deliver_world]
    rfl
  next => cases finishes

/-- So the full path leads to it, unless the write was dropped. -/
theorem lookup?_of_finishes (host : Host φ ν) {f : Frame φ} {w : World φ ν} {r : FinishedResult}
    (finishes : f.finishes? w = some r) (rest : List (Frame φ)) :
    (Machine.step host ⟨f :: rest, w⟩).world.scene.outputs.lookup? (r.address ++ [r.name])
      = if w.scene.outputs.drops r.address then none else some r.value := by
  rw [outputs_of_finishes host finishes, Outputs.lookup?_insertAt]

/-! ## Runs -/

/-- A consumer that receives an element adds nothing but that to the scene. -/
theorem Run.settle_scene (s : Step φ ν) :
    (Run.settle s).2.world.scene.events = s.world.scene.events ∧
      (Run.settle s).2.world.scene.outputs = s.world.scene.outputs := by
  cases s with
  | item result m => cases result <;> exact ⟨rfl, rfl⟩
  | _ => exact ⟨rfl, rfl⟩

theorem exists_finishes_of_reports {host : Host φ ν} {f : Frame φ} {w : World φ ν} {e : Event}
    {name : String} (result : e.resultName? = some name) (reported : e ∈ f.reports host w) :
    ∃ r, f.finishes? w = some r ∧ r.report = e ∧ r.name = name := by
  have listed : e ∈ resultReports (f.reports host w) := by
    refine List.mem_filter.2 ⟨reported, ?_⟩
    rw [result]
    rfl
  rw [resultReports_eq, Option.mem_toList, Option.map_eq_some_iff] at listed
  obtain ⟨r, finishes, rfl⟩ := listed
  have own := FinishedResult.resultName?_report finishes
  rw [result] at own
  exact ⟨r, finishes, rfl, (Option.some.inj own).symm⟩

/-- When a run reports a finished result, some frame has finished it, and the
outputs hold it under its name at the address of that frame, unless a position on
the way lies too far past the end of its list.  In that case the write was dropped
and there is nothing to be found. -/
theorem lookup?_at_report (host : Host φ ν) (llm : Llm) (input : Input φ) (params : Json)
    (w : World φ ν) (moves : List (Move ν)) (e : Event) (name : String)
    (result : e.resultName? = some name) (before after : List Event) :
    let m := (Run.play host moves (Run.start llm input params w)).2
    let n := (Run.poll host 1 m).2
    n.world.scene.events = m.world.scene.events ++ (before ++ e :: after) →
      ∃ f rest r, m.stack = f :: rest ∧ f.finishes? m.world = some r ∧ r.report = e ∧
        r.name = name ∧
        (¬ m.world.scene.outputs.FarOut r.address →
          n.world.scene.outputs.lookup? (r.address ++ [name]) = some r.value) ∧
        (m.world.scene.outputs.FarOut r.address →
          n.world.scene.outputs.lookup? (r.address ++ [name]) = none) := by
  intro m n grown
  have reported : e ∈ before ++ e :: after := List.mem_append_right _ List.mem_cons_self
  have settled := Run.settle_scene (Machine.step host m)
  rw [← Run.poll_one] at settled
  change n.world.scene.events = _ ∧ n.world.scene.outputs = _ at settled
  obtain ⟨events, outputs⟩ := settled
  generalize m = run at *
  obtain ⟨stack, w⟩ := run
  cases stack with
  | nil =>
      -- A run without work reports nothing.
      have nothing : before ++ e :: after = [] :=
        List.self_eq_append_right.1 (events.symm.trans grown)
      rw [nothing] at reported
      cases reported
  | cons f rest =>
      rw [events_step] at events
      have same : f.reports host w = before ++ e :: after :=
        List.append_cancel_left (events.symm.trans grown)
      obtain ⟨r, finishes, report, rfl⟩ := exists_finishes_of_reports result (same ▸ reported)
      refine ⟨f, rest, r, rfl, finishes, report, rfl, ?_, ?_⟩
      · intro near
        rw [outputs, lookup?_of_finishes host finishes,
          if_neg fun dropped => near (Outputs.drops_iff_farOut.1 dropped)]
      · intro far
        rw [outputs, lookup?_of_finishes host finishes, if_pos (Outputs.drops_iff_farOut.2 far)]

/-- A wait in the block `a` finds its item, and the outputs hold it as `a.q`. -/
theorem lookup?_at_report_of_block :
    let input : Input Empty := .action ((Scope.block "a").wrap (some (.action (.wait "q"))))
    let m := (Run.play Host.none [.write (.push "q" (.text "x")), .poll 3]
      (Run.start default input .null ({} : World Empty Empty))).2
    let n := (Run.poll Host.none 1 m).2
    n.world.scene.events = m.world.scene.events ++ [.itemConsumed "q" 0] ∧
      n.world.scene.outputs.lookup? ["a", "q"] = some (.text "x") := by
  intro input m n
  have grown : n.world.scene.events = m.world.scene.events ++ [.itemConsumed "q" 0] := rfl
  refine ⟨grown, ?_⟩
  obtain ⟨f, rest, r, top, finishes, -, -, found, -⟩ :=
    lookup?_at_report Host.none default input .null {}
      [.write (.push "q" (.text "x")), .poll 3] (.itemConsumed "q" 0) "q" rfl [] [] grown
  cases top
  cases finishes
  refine found (Outputs.not_farOut_of_le ?_)
  intro segment mem i position
  rw [List.mem_singleton.1 mem] at position
  exact nomatch position.symm.trans (show readIndex? "a" = none by decide)

/-- In the block `1025` of the block `a` the same report finds nothing: the write
lies too far past the end of the empty list `a`. -/
theorem nothing_at_report_of_far_block :
    let inner : Action Empty := (Scope.block "1025").wrap (some (.action (.wait "q")))
    let input : Input Empty := .action ((Scope.block "a").wrap (some (.action inner)))
    let m := (Run.play Host.none [.write (.push "q" (.text "x")), .poll 5]
      (Run.start default input .null ({} : World Empty Empty))).2
    let n := (Run.poll Host.none 1 m).2
    (∃ props rest, m.stack = .waiting "q" props none :: rest ∧
        props.context.outputAddress = ["a", "1025"]) ∧
      n.world.scene.events = m.world.scene.events ++ [.itemConsumed "q" 0] ∧
      n.world.scene.outputs.lookup? ["a", "1025", "q"] = none := by
  intro inner input m n
  refine ⟨⟨_, _, rfl, rfl⟩, rfl, ?_⟩
  have nothing : (n.world.scene.outputs.lookup? ["a", "1025", "q"]).isNone = true := by
    decide +kernel
  exact Option.isNone_iff_eq_none.1 nothing

end PromptStream
