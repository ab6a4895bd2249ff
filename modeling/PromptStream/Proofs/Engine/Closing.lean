import PromptStream.Proofs.Engine.Changes
import PromptStream.Proofs.Engine.Drain

/-!
# Work that only closes

The frames that are left when the last generation of a prompt has started take nothing up any
more: guards, lists and templates of which nothing is left, and the generation itself
(`Frame.Closing`).  A step of such work leaves such work, asks no connector, and there is less
of it (`closes_step`), whether the completion brings texts, fails, or is cut off by a failure
below.  So a machine with nothing else on its stack comes to its end, and its connectors are
what they were (`exists_drain_of_closing`).
-/

namespace PromptStream

variable {φ ν : Type}

/-! ## Closing frames -/

/-- Frames that take up no input. -/
inductive Frame.Closing : Frame φ → Prop where
  | guard (failed : Bool) : Closing (.guard failed)
  | items (props : Props) (index : Nat) : Closing (.items props index [])
  | binder (props : Props) : Closing (.binder props [] [])
  | generation (g : Generation) (props : Props) (feed : Feed Delta) :
      Closing (.generation g props feed)

/-- The most steps that such a frame still takes. -/
def Frame.budget : Frame φ → Nat
  | .generation g _ signals => signals.length + if g.done then 1 else 2
  | _ => 1

/-- The most steps that a stack of such frames still takes. -/
def budget : List (Frame φ) → Nat
  | [] => 0
  | f :: rest => f.budget + budget rest

/-- What is left of some closing work: less of it, with the same connectors. -/
structure Closes (w : World φ ν) (n : Nat) (m : Machine φ ν) : Prop where
  closing : ∀ f ∈ m.stack, f.Closing
  connectors : m.world.connectors = w.connectors
  less : budget m.stack < n

section Closing

variable {f : Frame φ} {stack rest : List (Frame φ)} {w v : World φ ν} {n : Nat}

theorem Frame.budget_pos (f : Frame φ) : 0 < f.budget := by
  unfold budget
  split
  next => split <;> omega
  next => exact Nat.one_pos

theorem budget_mark (stack : List (Frame φ)) : budget (stack.map Frame.mark) = budget stack := by
  induction stack with
  | nil => rfl
  | cons f rest ih =>
      have same : f.mark.budget = f.budget := by cases f <;> rfl
      rw [List.map_cons, budget, budget, ih, same]

theorem Frame.Closing.mark (h : f.Closing) : f.mark.Closing := by
  cases h with
  | guard failed => exact .guard true
  | items props index => exact .items props index
  | binder props => exact .binder props
  | generation g props feed => exact .generation g props feed

/-- The work below a failed sequence is a part of all the work. -/
theorem budget_of_belowFailed {below : List (Frame φ)}
    (failed : Frame.belowFailed stack = some below) : budget below ≤ budget stack := by
  obtain ⟨above, rfl⟩ := isSuffix_of_belowFailed failed
  clear failed
  induction above with
  | nil => exact Nat.le_refl _
  | cons f above ih => exact Nat.le_trans ih (Nat.le_add_left _ _)

theorem closes_deliver (result : Except Fault Element) (closing : ∀ f ∈ stack, f.Closing)
    (same : w.connectors = v.connectors) (less : budget stack < n) :
    Closes v n (Run.settle (deliver result stack w)).2 := by
  unfold deliver
  split
  next below failed =>
    refine ⟨fun f mem => ?_, same, Nat.lt_of_le_of_lt (budget_of_belowFailed failed) less⟩
    exact closing f ((isSuffix_of_belowFailed failed).subset mem)
  next =>
    cases result with
    | ok e => exact ⟨closing, same, less⟩
    | error f =>
        refine ⟨fun g mem => ?_, same, (budget_mark stack).symm ▸ less⟩
        obtain ⟨g, inside, rfl⟩ := List.mem_map.1 mem
        exact (closing g inside).mark

theorem closes_deliverFresh (fresh : Option String) (g : Generation) (props : Props)
    (feed : Feed Delta) (closing : ∀ f ∈ rest, f.Closing) (same : w.connectors = v.connectors)
    (less : budget (.generation g props feed :: rest) < n) :
    Closes v n (Run.settle (deliverFresh fresh g props feed rest w)).2 := by
  have all : ∀ f ∈ Frame.generation g props feed :: rest, f.Closing :=
    List.forall_mem_cons.2 ⟨.generation g props feed, closing⟩
  cases fresh with
  | none => exact ⟨all, same, less⟩
  | some s => exact closes_deliver (.ok ⟨s, .llm, props.context.role⟩) all same less

theorem connectors_emitDelta (w : World φ ν) (name : String) (fresh : Option String) :
    (emitDelta w name fresh).connectors = w.connectors := by
  cases fresh <;> rfl

theorem connectors_heardDelta (fresh : Option String) (g : Generation) (props : Props)
    (w : World φ ν) : (heardDelta fresh g props w).connectors = w.connectors := by
  unfold heardDelta
  split
  next => exact connectors_emitDelta w g.name fresh
  next => exact connectors_emitDelta w g.name fresh

/-- A generation ends with its completion, or goes on with what is left of it. -/
theorem closes_stepGeneration (g : Generation) (props : Props) (feed : Feed Delta)
    (closing : ∀ f ∈ rest, f.Closing) (w : World φ ν) :
    Closes w (budget (.generation g props feed :: rest))
      (Run.settle (stepGeneration g props feed rest w)).2 := by
  cases isDone : g.done with
  | true =>
      rw [stepGeneration_of_done props feed rest w isDone]
      exact ⟨closing, rfl, Nat.lt_add_of_pos_left (Frame.budget_pos _)⟩
  | false =>
      have size : ∀ (g' : Generation) (feed' : Feed Delta),
          feed'.length + (if g'.done then 1 else 2) < feed.length + 2 →
          budget (.generation g' props feed' :: rest)
            < budget (.generation g props feed :: rest) := by
        intro g' feed' less
        rw [budget, budget, Frame.budget, Frame.budget, isDone]
        exact Nat.add_lt_add_right less _
      match feed with
      | [] =>
          rw [stepGeneration_nil props rest w isDone, recordGeneration_close]
          exact closes_deliverFresh _ _ props [] closing (connectors_heardDelta _ _ props w)
            (size _ _ (by simp [close_done]))
      | .item d :: more =>
          rw [stepGeneration_item props more rest w d isDone]
          exact closes_deliverFresh _ _ props more closing (connectors_heardDelta _ _ props w)
            (size _ _ (by rw [List.length_cons]; split <;> omega))
      | .failed f :: more =>
          rw [stepGeneration_failed props more rest w f isDone]
          exact closes_deliver _ (List.forall_mem_cons.2 ⟨.generation _ props more, closing⟩) rfl
            (size _ _ (by rw [List.length_cons, if_pos rfl]; omega))
      | .pending :: more =>
          rw [stepGeneration_pending props more rest w isDone]
          exact ⟨List.forall_mem_cons.2 ⟨.generation g props more, closing⟩, rfl,
            size _ _ (by rw [List.length_cons, isDone, if_neg Bool.false_ne_true]; omega)⟩

/-- A step of closing work leaves less of it and asks no connector. -/
theorem closes_step (host : Host φ ν) (closing : ∀ g ∈ f :: rest, g.Closing) (w : World φ ν) :
    Closes w (budget (f :: rest)) (Run.settle (Machine.step host ⟨f :: rest, w⟩)).2 := by
  obtain ⟨first, later⟩ := List.forall_mem_cons.1 closing
  have less : budget rest < budget (f :: rest) := Nat.lt_add_of_pos_left f.budget_pos
  cases first with
  | guard failed => exact ⟨later, rfl, less⟩
  | items props index => exact ⟨later, rfl, less⟩
  | binder props => exact ⟨later, rfl, less⟩
  | generation g props feed => exact closes_stepGeneration g props feed later w

/-- Closing work comes to its end, and nobody is asked on the way. -/
theorem exists_drain_of_closing (host : Host φ ν) {m : Machine φ ν}
    (closing : ∀ f ∈ m.stack, f.Closing) :
    ∃ n, (Consumer.recorder.drain host n m).2.stack = [] ∧
      (Consumer.recorder.drain host n m).2.world.connectors = m.world.connectors := by
  generalize size : budget m.stack = n
  induction n using Nat.strongRecOn generalizing m with
  | ind n ih =>
      obtain ⟨stack, w⟩ := m
      cases stack with
      | nil => exact ⟨0, rfl, rfl⟩
      | cons f rest =>
          have left := closes_step host closing w
          obtain ⟨k, ended, same⟩ := ih _ (size ▸ left.less) left.closing rfl
          refine ⟨k + 1, ?_⟩
          rw [Consumer.drain, Consumer.take_recorder]
          exact ⟨ended, same.trans left.connectors⟩

end Closing

end PromptStream
