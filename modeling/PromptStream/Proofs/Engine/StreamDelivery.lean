import Mathlib.Tactic.IntervalCases
import PromptStream.Proofs.Engine.Outcome
import PromptStream.Proofs.Engine.PathContext

/-!
# Delivery of outside streams

An outside stream lies in a cell of the world, and any number of inputs may stand for it.
Only a step at one of these inputs touches the cell (`step_spares`): building or copying an
input, or putting it on the stack below others, does not.  So the stream stays where it is
until one of its inputs is reached, which is on top of the stack then.  There its items leave,
one after another and up to its first failure, before the work below goes on
(`Consumer.exists_drain_feed`), and from then on its cell is empty
(`Consumer.taken_of_drain`).
-/

namespace PromptStream

variable {φ ν : Type}

/-- What a stream hands out: its items up to and with its first failure. -/
def Feed.delivered : Feed Element → List (Except Fault Element)
  | [] => []
  | .item e :: more => .ok e :: delivered more
  | .failed f :: _ => [.error f]
  | .pending :: more => delivered more

/-- An input that stands for a stream is reached. -/
def Machine.Meets (cell : Nat) (m : Machine φ ν) : Prop :=
  ∃ props fromFunction rest, m.stack = .input (.stream cell) props fromFunction :: rest

/-- A consumer that leaves the streams alone. -/
structure Consumer.LeavesStreams (c : Consumer φ ν) : Prop where
  receives : ∀ e w, (c.receives e w).streams = w.streams
  waits : ∀ w, (c.waits w).streams = w.streams

theorem Consumer.recorder_leavesStreams : (recorder : Consumer φ ν).LeavesStreams where
  receives _ _ := rfl
  waits _ := rfl

/-! ## Steps away from a stream -/

/-- What a step is like that is not at an input for a stream: the cell is as it was, and unless
the step hands out a failure, no guard is marked. -/
structure Step.Spares (cell : Nat) (rest : List (Frame φ)) (w : World φ ν) (s : Step φ ν) :
    Prop where
  cell : s.world.streams[cell]? = w.streams[cell]?
  intact : Frame.belowFailed rest = none → (∀ f m, s ≠ .item (.error f) m) →
    Frame.belowFailed s.stack = none

namespace Step.Spares

variable {cell : Nat} {rest stack : List (Frame φ)} {w w' : World φ ν}

theorem more (below : Frame.belowFailed rest = none → Frame.belowFailed stack = none)
    (same : w'.streams = w.streams) : Spares cell rest w (.more ⟨stack, w'⟩) :=
  ⟨by rw [← same]; rfl, fun intact _ => below intact⟩

theorem pending (below : Frame.belowFailed rest = none → Frame.belowFailed stack = none)
    (same : w'.streams = w.streams) : Spares cell rest w (.pending ⟨stack, w'⟩) :=
  ⟨by rw [← same]; rfl, fun intact _ => below intact⟩

theorem deliver {result : Except Fault Element}
    (below : Frame.belowFailed rest = none → Frame.belowFailed stack = none)
    (same : w'.streams = w.streams) : Spares cell rest w (deliver result stack w') where
  cell := by rw [deliver_world, same]
  intact intact spared := by
    have kept := below intact
    cases result with
    | ok e =>
        rw [PromptStream.deliver, kept]
        exact kept
    | error f =>
        -- The failure is handed out.
        rw [PromptStream.deliver, kept] at spared
        exact absurd rfl (spared f _)

end Step.Spares

section Steps

variable {cell : Nat} (host : Host φ ν) (rest : List (Frame φ)) (w : World φ ν)

open Step (Spares)

theorem startAction_spares (a : Action φ) (props : Props) :
    (Frame.belowFailed rest = none →
      Frame.belowFailed ((startAction host a props w).1 ++ rest) = none) ∧
      (startAction host a props w).2.streams = w.streams := by
  cases a with
  | generate name options =>
      refine ⟨id, ?_⟩
      simp only [startAction, startGeneration, World.complete]
      split <;> rfl
  | custom f =>
      refine ⟨?_, rfl⟩
      simp only [startAction]
      cases (host.perform f props w.scene).1 <;> exact id
  | _ => exact ⟨id, rfl⟩

theorem stepResolved_spares {w' : World φ ν} (same : w'.streams = w.streams)
    (result : Except Fault (Input φ)) (props : Props) :
    Spares cell rest w (stepResolved result props rest w') := by
  cases result with
  | ok i => exact .more id same
  | error f =>
      rw [stepResolved]
      exact .deliver id same

theorem stepInput_spares (i : Input φ) (props : Props) (fromFunction : Bool)
    (elsewhere : ¬ Machine.Meets cell (⟨.input i props fromFunction :: rest, w⟩ : Machine φ ν)) :
    Spares cell rest w (stepInput host i props fromFunction rest w) := by
  cases i with
  | null => exact .more id rfl
  | number x =>
      rw [stepInput]
      exact .deliver id rfl
  | text s =>
      rw [stepInput]
      exact .deliver id rfl
  | list items => exact .more id rfl
  | function f => exact .more id rfl
  | deferred d => cases d <;> exact .more id rfl
  | action a =>
      obtain ⟨below, same⟩ := startAction_spares host rest w a props
      exact .more below same
  | stream other =>
      have apart : other ≠ cell := by
        rintro rfl
        exact elsewhere ⟨props, fromFunction, rest, rfl⟩
      rw [stepInput, World.takeStream?]
      split
      next feed w' taken =>
        split at taken
        next =>
          cases taken
          exact ⟨List.getElem?_set_ne apart .., fun intact _ => intact⟩
        next => cases taken
      next => exact .more id rfl

theorem stepShared_spares (future : Nat) (props : Props) :
    Spares cell rest w (stepShared host future props rest w) := by
  unfold stepShared
  split
  next => exact .more id rfl
  next result _ => exact stepResolved_spares rest w rfl result props
  next =>
    dsimp only
    split
    next => exact .pending id rfl
    next result _ =>
      refine stepResolved_spares rest w ?_ result props
      rfl

theorem stepBinder_spares (props : Props) (literals : List String) (slots : List (Slot φ)) :
    Spares cell rest w (stepBinder props literals slots rest w) := by
  by_cases exhausted : literals = [] ∧ slots = []
  · obtain ⟨rfl, rfl⟩ := exhausted
    exact .more id rfl
  · have below : Frame.belowFailed rest = none →
        Frame.belowFailed (templateRest props literals slots rest) = none :=
      (belowFailed_templateRest literals slots).trans
    rw [stepBinder_of_left props rest w exhausted]
    split
    next =>
      split
      next => exact .more below rfl
      next => exact .deliver below rfl
    next => exact .more below rfl

theorem stepLoop_spares (props : Props) (id : String) (body : Input φ) (options : LoopOptions φ)
    (i : Nat) : Spares cell rest w (stepLoop host props id body options i rest w) := by
  have asked : (loopEnds host props options i w).2.streams = w.streams := by
    unfold loopEnds
    split
    · rfl
    · split <;> rfl
  rw [stepLoop]
  cases ends : loopEnds host props options i w with
  | mk ended w' =>
      rw [ends] at asked
      cases ended <;> exact .more (fun intact => intact) asked

theorem stepMap_spares (props : Props) (id : String) (count : Nat) (item : φ) (i : Nat) :
    Spares cell rest w (stepMap host props id count item i rest w) := by
  rw [stepMap]
  split <;> exact .more (fun intact => intact) rfl

theorem stepFeed_spares (signals : Feed Element) :
    Spares cell rest w (stepFeed signals rest w) := by
  cases signals with
  | nil => exact .more id rfl
  | cons signal more =>
      cases signal with
      | pending => exact .pending id rfl
      | _ =>
          rw [stepFeed]
          exact .deliver id rfl

theorem stepWaiting_spares (key : String) (props : Props) (index : Option Nat) :
    Spares cell rest w (stepWaiting key props index rest w) := by
  cases looked : w.scene.state.item? key (waitIndex w props index) with
  | some item =>
      rw [stepWaiting_of_item rest w looked, consumeItem]
      exact .deliver id rfl
  | none =>
      rw [stepWaiting_of_none rest w looked]
      refine .pending id ?_
      cases index <;> rfl

theorem deliverFresh_spares {w' : World φ ν} (same : w'.streams = w.streams)
    (fresh : Option String) (g : Generation) (props : Props) (feed : Feed Delta) :
    Spares cell rest w (deliverFresh fresh g props feed rest w') := by
  cases fresh with
  | none => exact .more id same
  | some s =>
      rw [deliverFresh]
      exact .deliver id same

theorem stepGeneration_spares (g : Generation) (props : Props) (feed : Feed Delta) :
    Spares cell rest w (stepGeneration g props feed rest w) := by
  have heard : ∀ fresh g, (heardDelta fresh g props w).streams = w.streams := by
    intro fresh g
    unfold heardDelta
    cases fresh <;> split <;> rfl
  cases isDone : g.done with
  | true =>
      rw [stepGeneration_of_done props feed rest w isDone]
      exact .more id rfl
  | false =>
      match feed with
      | [] =>
          rw [stepGeneration_nil props rest w isDone, recordGeneration_close]
          exact deliverFresh_spares rest w (heard _ _) _ _ props _
      | .item d :: more =>
          rw [stepGeneration_item props more rest w d isDone]
          exact deliverFresh_spares rest w (heard _ _) _ _ props _
      | .failed f :: more =>
          rw [stepGeneration_failed props more rest w f isDone]
          exact .deliver id rfl
      | .pending :: more =>
          rw [stepGeneration_pending props more rest w isDone]
          exact .pending id rfl

/-- A step that is not at an input for a stream spares its cell. -/
theorem step_spares (f : Frame φ)
    (elsewhere : ¬ Machine.Meets cell (⟨f :: rest, w⟩ : Machine φ ν)) :
    Spares cell rest w (Machine.step host ⟨f :: rest, w⟩) := by
  cases f with
  | guard failed => exact .more id rfl
  | input i props fromFunction =>
      exact stepInput_spares host rest w i props fromFunction elsewhere
  | items props index more => cases more <;> exact .more id rfl
  | binder props literals slots => exact stepBinder_spares rest w props literals slots
  | loop props id body options i => exact stepLoop_spares host rest w props id body options i
  | map props id count item i => exact stepMap_spares host rest w props id count item i
  | feed signals => exact stepFeed_spares rest w signals
  | awaitShared future props => exact stepShared_spares host rest w future props
  | awaitFresh future polls props =>
      simp only [Machine.step]
      split
      next => exact .pending id rfl
      next result _ =>
        refine stepResolved_spares rest w ?_ result props
        rfl
  | waiting key props index => exact stepWaiting_spares rest w key props index
  | generation g props feed => exact stepGeneration_spares rest w g props feed

/-- A step at an input for a stream takes the stream out of its cell, or finds that there is
none and goes on as if there were no input. -/
theorem step_stream (props : Props) (fromFunction : Bool) :
    Machine.step host ⟨.input (.stream cell) props fromFunction :: rest, w⟩
      = match w.streams[cell]? with
        | some (some signals) => .more ⟨.feed signals :: .guard false :: rest,
            { w with streams := w.streams.set cell none }⟩
        | _ => .more ⟨rest, w⟩ := by
  simp only [Machine.step, stepInput, World.takeStream?]
  rcases w.streams[cell]? with _ | _ | signals <;> rfl

end Steps

/-! ## Runs -/

namespace Consumer

variable {c : Consumer φ ν} {host : Host φ ν} {cell : Nat} {m : Machine φ ν}

theorem LeavesStreams.take (leaves : c.LeavesStreams) (s : Step φ ν) :
    (c.take s).2.world.streams = s.world.streams := by
  cases s with
  | item result m =>
      cases result with
      | ok e => exact leaves.receives e m.world
      | error f => rfl
  | pending m => exact leaves.waits m.world
  | _ => rfl

theorem take_stack (c : Consumer φ ν) (s : Step φ ν) : (c.take s).2.stack = s.stack := by
  cases s with
  | item result m => cases result <;> rfl
  | _ => rfl

theorem take_spares (leaves : c.LeavesStreams) (host : Host φ ν) (elsewhere : ¬ m.Meets cell) :
    (c.take (Machine.step host m)).2.world.streams[cell]? = m.world.streams[cell]? ∧
      (Frame.belowFailed m.stack = none →
        (∀ f, .error f ∉ (c.take (Machine.step host m)).1) →
        Frame.belowFailed (c.take (Machine.step host m)).2.stack = none) := by
  rw [leaves.take, take_stack]
  obtain ⟨stack, w⟩ := m
  cases stack with
  | nil => exact ⟨rfl, fun intact _ => intact⟩
  | cons top rest =>
      obtain ⟨same, spared⟩ := step_spares host rest w top elsewhere
      refine ⟨same, fun intact ok => spared ?_ ?_⟩
      · cases top with
        | guard failed =>
            cases failed with
            | false => exact intact
            | true => cases intact
        | _ => exact intact
      · intro f m failed
        rw [failed] at ok
        exact ok f List.mem_cons_self

/-- As long as no input for a stream is reached, its cell is as it was, and unless a failure
is handed out, no guard is marked. -/
theorem drain_spares (leaves : c.LeavesStreams) {n : Nat}
    (elsewhere : ∀ j < n, ¬ (c.drain host j m).2.Meets cell) :
    (c.drain host n m).2.world.streams[cell]? = m.world.streams[cell]? ∧
      (Frame.belowFailed m.stack = none → (∀ f, .error f ∉ (c.drain host n m).1) →
        Frame.belowFailed (c.drain host n m).2.stack = none) := by
  induction n generalizing m with
  | zero => exact ⟨rfl, fun intact _ => intact⟩
  | succ n ih =>
      obtain ⟨first, firstIntact⟩ := take_spares leaves host (elsewhere 0 (Nat.zero_lt_succ n))
      obtain ⟨later, laterIntact⟩ := ih fun j less => elsewhere (j + 1) (Nat.succ_lt_succ less)
      refine ⟨later.trans first, fun intact ok => laterIntact (firstIntact intact ?_) ?_⟩
      · exact fun f mem => ok f (List.mem_append_left _ mem)
      · exact fun f mem => ok f (List.mem_append_right _ mem)

/-- Where an input for a stream is reached, the stream is taken. -/
theorem taken_of_meets (leaves : c.LeavesStreams) (host : Host φ ν) (meets : m.Meets cell)
    (there : cell < m.world.streams.length) :
    (c.take (Machine.step host m)).2.world.streams[cell]? = some none := by
  obtain ⟨stack, w⟩ := m
  obtain ⟨props, fromFunction, rest, rfl⟩ := meets
  rw [leaves.take, step_stream]
  cases held : w.streams[cell]? with
  | none => exact absurd (List.getElem?_eq_none_iff.1 held) (Nat.not_le_of_lt there)
  | some left =>
      cases left with
      | none => exact held
      | some signals => exact List.getElem?_set_self there

/-- Where an input for a stream that has been taken is reached, nothing happens. -/
theorem step_of_taken (meets : m.Meets cell) (taken : m.world.streams[cell]? = some none) :
    Machine.step host m = .more ⟨m.stack.tail, m.world⟩ := by
  obtain ⟨stack, w⟩ := m
  obtain ⟨props, fromFunction, rest, rfl⟩ := meets
  rw [step_stream, taken]
  rfl

/-- A stream that has been taken stays so. -/
theorem taken_of_drain (leaves : c.LeavesStreams) (taken : m.world.streams[cell]? = some none)
    (n : Nat) : (c.drain host n m).2.world.streams[cell]? = some none := by
  induction n generalizing m with
  | zero => exact taken
  | succ n ih =>
      refine ih ?_
      by_cases meets : m.Meets cell
      · exact taken_of_meets leaves host meets (List.getElem?_eq_some_iff.1 taken).1
      · exact (take_spares leaves host meets).1.trans taken

/-- The items of a stream leave one after another, unless a failure ends them. -/
theorem exists_drain_feed (c : Consumer φ ν) (host : Host φ ν) {rest : List (Frame φ)}
    (intact : Frame.belowFailed rest = none) (signals : Feed Element) (w : World φ ν) :
    ∃ n m, c.drain host n ⟨.feed signals :: rest, w⟩ = (signals.delivered, m) ∧
      ((∀ f, .error f ∉ signals.delivered) → m.stack = rest) := by
  induction signals generalizing w with
  | nil => exact ⟨1, ⟨rest, w⟩, rfl, fun _ => rfl⟩
  | cons signal more ih =>
      have below : Frame.belowFailed (.feed more :: rest) = none := intact
      cases signal with
      | item e =>
          have step : Machine.step host ⟨.feed (.item e :: more) :: rest, w⟩
              = .item (.ok e) ⟨.feed more :: rest, w⟩ := by
            simp only [Machine.step, stepFeed, deliver, below]
          obtain ⟨n, m, drained, ends⟩ := ih (c.receives e w)
          refine ⟨n + 1, m, ?_, fun ok => ends fun f mem => ok f (List.mem_cons_of_mem _ mem)⟩
          rw [drain, step, take, drained]
          rfl
      | failed f =>
          have step : Machine.step host ⟨.feed (.failed f :: more) :: rest, w⟩
              = .item (.error f) ⟨(.feed more :: rest).map Frame.mark, w⟩ := by
            simp only [Machine.step, stepFeed, deliver, below]
          refine ⟨1, ⟨(.feed more :: rest).map Frame.mark, w⟩, ?_, fun ok => ?_⟩
          · rw [drain, step]
            rfl
          · exact absurd List.mem_cons_self (ok f)
      | pending =>
          obtain ⟨n, m, drained, ends⟩ := ih (c.waits w)
          exact ⟨n + 1, m, drained, ends⟩

/-- So do they where the stream is reached, and then the work below goes on. -/
theorem exists_drain_stream (c : Consumer φ ν) (host : Host φ ν) {signals : Feed Element}
    {props : Props} {fromFunction : Bool} {rest : List (Frame φ)}
    (top : m.stack = .input (.stream cell) props fromFunction :: rest)
    (intact : Frame.belowFailed m.stack = none)
    (there : m.world.streams[cell]? = some (some signals)) :
    ∃ n m', c.drain host n m = (signals.delivered, m') ∧
      ((∀ f, .error f ∉ signals.delivered) → m'.stack = rest) := by
  obtain ⟨stack, w⟩ := m
  obtain rfl : stack = _ := top
  have step : Machine.step host ⟨.input (.stream cell) props fromFunction :: rest, w⟩
      = .more ⟨.feed signals :: .guard false :: rest,
          { w with streams := w.streams.set cell none }⟩ := by
    rw [step_stream, there]
  have below : Frame.belowFailed (.guard false :: rest) = none := intact
  obtain ⟨n, ⟨stack, v⟩, drained, ends⟩ := exists_drain_feed c host below signals
    { w with streams := w.streams.set cell none }
  by_cases ok : ∀ f, .error f ∉ signals.delivered
  · -- The guard of the stream is left.
    obtain rfl : stack = .guard false :: rest := ends ok
    refine ⟨n + 1 + 1, ⟨rest, v⟩, ?_, fun _ => rfl⟩
    rw [drain, step, take, drain_add, drained]
    exact Prod.ext (List.append_nil _) rfl
  · refine ⟨n + 1, ⟨stack, v⟩, ?_, fun ok' => absurd ok' ok⟩
    rw [drain, step, take, drained]
    rfl

/-- A failure ends what a run hands out. -/
theorem drain_after_error (c : Consumer φ ν) (host : Host φ ν) (i : Input φ) (props : Props)
    (w : World φ ν) {k : Nat} {f : Fault}
    (failed : .error f ∈ (c.drain host k ⟨Frame.guarded i props, w⟩).1) (n : Nat) :
    (c.drain host (k + n) ⟨Frame.guarded i props, w⟩).1
      = (c.drain host k ⟨Frame.guarded i props, w⟩).1 := by
  have drains := DrainsAs.of_follows fun fuel =>
    faithful_resolve c host fuel i props false [.guard false] w rfl
  obtain ⟨before, after, first⟩ := List.append_of_mem failed
  obtain ⟨later, longer⟩ :=
    c.drain_stem host (Nat.le_add_right k n) ⟨Frame.guarded i props, w⟩
  rw [first, List.append_assoc] at longer
  obtain ⟨nothing, -⟩ := drains.last (k + n) before f (after ++ later) longer.symm
  rw [← longer, first, List.cons_append, nothing, (List.append_eq_nil_iff.1 nothing).1]

end Consumer

/-- A stream is delivered where an input for it is first reached, and nowhere else.  Until
then it is where it was.  There all that it hands out leaves at once, one item after another,
whether more inputs for it lie below or not; unless it has failed, the run goes on with what
lies below.  At every other input for it that is reached, the run goes on as if there were
none.  A failure, here or before, ends what is handed out. -/
theorem stream_delivered_once (c : Consumer φ ν) (leaves : c.LeavesStreams) (host : Host φ ν)
    (i : Input φ) (props : Props) (w : World φ ν) {cell : Nat} {signals : Feed Element}
    (there : w.streams[cell]? = some (some signals)) :
    let items := fun n => (c.drain host n ⟨Frame.guarded i props, w⟩).1
    let after := fun n => (c.drain host n ⟨Frame.guarded i props, w⟩).2
    (∀ n, (∀ j < n, ¬ (after j).Meets cell) →
      (after n).world.streams[cell]? = some (some signals)) ∧
    (∀ k props' fromFunction rest,
      (after k).stack = .input (.stream cell) props' fromFunction :: rest →
      (∀ j < k, ¬ (after j).Meets cell) → (∀ f, .error f ∉ items k) →
      ∃ d, items (k + d) = items k ++ signals.delivered ∧
        ((∀ f, .error f ∉ signals.delivered) → (after (k + d)).stack = rest) ∧
        ∀ j, k < j → (after j).Meets cell →
          Machine.step host (after j) = .more ⟨(after j).stack.tail, (after j).world⟩) ∧
    ∀ k f, .error f ∈ items k → ∀ n, items (k + n) = items k := by
  intro items after
  have split : ∀ k d, items (k + d) = items k ++ (c.drain host d (after k)).1 ∧
      after (k + d) = (c.drain host d (after k)).2 := by
    intro k d
    simp only [items, after, Consumer.drain_add, and_self]
  refine ⟨fun n elsewhere => ?_, fun k props' fromFunction rest top elsewhere ok => ?_, ?_⟩
  · exact (Consumer.drain_spares leaves elsewhere).1.trans there
  · obtain ⟨same, intact⟩ := Consumer.drain_spares leaves elsewhere
    have held : (after k).world.streams[cell]? = some (some signals) := same.trans there
    obtain ⟨d, m, drained, ends⟩ :=
      Consumer.exists_drain_stream c host top (intact rfl ok) held
    refine ⟨d, ?_, fun delivered => ?_, fun j later meets => ?_⟩
    · rw [(split k d).1, drained]
    · rw [(split k d).2, drained]
      exact ends delivered
    · refine Consumer.step_of_taken meets ?_
      obtain ⟨n, rfl⟩ := Nat.exists_eq_add_of_lt later
      have first := Consumer.taken_of_meets leaves host ⟨_, _, _, top⟩
        (List.getElem?_eq_some_iff.1 held).1
      rw [Nat.add_assoc, (split k (n + 1)).2]
      exact Consumer.taken_of_drain leaves first n
  · exact fun k f failed n => Consumer.drain_after_error c host i props w failed n

/-- The body of a loop is reached in each iteration, and the stream in the first one. -/
theorem stream_delivered_once_in_loop :
    let e : Element := ⟨"x", .constant, .user⟩
    let loop : Action Empty := .loop "l" (.list [.text "a", .stream 0]) { maxIterations := some 2 }
    let w : World Empty Empty := { streams := [some [.item e, .pending, .item e]] }
    let items := fun n => ((Consumer.recorder : Consumer Empty Empty).drain Host.none n
      ⟨Frame.guarded (.list [.action loop, .stream 0]) ⟨Llm.context default, .null, none⟩, w⟩).1
    ∃ d, items (8 + d) = [.ok ⟨"a", .constant, .user⟩, .ok e, .ok e] ∧
      items 40 = [.ok ⟨"a", .constant, .user⟩, .ok e, .ok e, .ok ⟨"a", .constant, .user⟩] := by
  intro e loop w items
  obtain ⟨-, delivered, -⟩ := stream_delivered_once Consumer.recorder
    Consumer.recorder_leavesStreams (Host.none : Host Empty Empty)
    (.list [.action loop, .stream 0]) ⟨Llm.context default, .null, none⟩ w
    (rfl : w.streams[0]? = some (some [.item e, .pending, .item e]))
  have elsewhere : ∀ j < 8, ¬ ((Consumer.recorder : Consumer Empty Empty).drain Host.none j
      ⟨Frame.guarded (.list [.action loop, .stream 0]) ⟨Llm.context default, .null, none⟩,
        w⟩).2.Meets 0 := by
    rintro j less ⟨props, fromFunction, rest, top⟩
    interval_cases j <;> cases top
  have before : items 8 = [.ok ⟨"a", .constant, .user⟩] := by decide +kernel
  have ok : ∀ f, .error f ∉ items 8 := by simp [before]
  obtain ⟨d, first, -, -⟩ := delivered 8 _ _ _ rfl elsewhere ok
  exact ⟨d, first, by decide +kernel⟩

end PromptStream
