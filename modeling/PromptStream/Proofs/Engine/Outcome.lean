import PromptStream.Proofs.Engine.StepBelow
import PromptStream.Proofs.Engine.WholeTree

/-!
# What a machine comes to

A machine that is drained up to its first failure comes to a resolution (`Consumer.outcome`):
the elements that it hands out, and whether it has ended, has failed or still goes on.  No
reference to the shape of its input is needed for that.

On top of other work it does the same and then goes on with that work
(`Follows.onto`), so inputs that are run by themselves may stand in for the recursion in
the lemmas about templates, loops and maps (`sequenceFaithful_alone`).
-/

namespace PromptStream

variable {φ ν : Type}

open Resolution

namespace Consumer

/-- What a machine comes to within a number of steps, up to its first failure. -/
def outcome (c : Consumer φ ν) (host : Host φ ν) : Nat → Machine φ ν → Resolution φ ν
  | 0, ⟨[], w⟩ => nothing w
  | 0, ⟨_ :: _, _⟩ => unfinished
  | n + 1, m =>
      match Machine.step host m with
      | .more m => outcome c host n m
      | .item (.ok e) m => (one c e m.world).andThen fun w => outcome c host n ⟨m.stack, w⟩
      | .item (.error f) m => failing f m.world
      | .pending m => outcome c host n ⟨m.stack, c.waits m.world⟩
      | .ended m => nothing m.world

/-- What an input comes to by itself, run as a sequence of its own. -/
def alone (c : Consumer φ ν) (host : Host φ ν) (n : Nat) : Resolver φ ν := fun i props _ w =>
  c.outcome host n ⟨Frame.guarded i props, w⟩

end Consumer

/-! ## Draining a machine -/

namespace Consumer

variable {c : Consumer φ ν} {host : Host φ ν}

/-- A machine with a guard at its bottom hands out what it comes to. -/
theorem drain_eq_handedOut {m : Machine φ ν} (guarded : EndsAtGuard (fun _ => True) m.stack)
    (n : Nat) : (c.drain host n m).1 = (c.outcome host n m).handedOut := by
  induction n generalizing m with
  | zero =>
      obtain ⟨stack, w⟩ := m
      cases stack <;> rfl
  | succ n ih =>
      have kept := Run.poll_one_guarded host trivial guarded
      rw [Run.poll_one] at kept
      rw [drain, outcome]
      cases step : Machine.step host m with
      | more m' =>
          rw [step] at kept
          exact ih kept.stays
      | item result m' =>
          rw [step] at kept
          cases result with
          | ok e =>
              exact congrArg (.ok e :: ·) (ih (m := ⟨m'.stack, c.receives e m'.world⟩) kept.stays)
          | error f => exact congrArg (.error f :: ·) (drain_of_marked (kept.marked f rfl) n)
      | pending m' =>
          rw [step] at kept
          exact ih kept.stays
      | ended m' =>
          obtain ⟨none, rfl⟩ := step_eq_ended step
          exact congrArg Prod.fst (drain_of_stack_nil none n)

/-- It comes to its end without a failure exactly if a drain leaves it so. -/
theorem outcome_eq_ended_iff {n : Nat} {m : Machine φ ν} {items : List Element}
    {w : World φ ν} :
    c.outcome host n m = ⟨items, .ended w⟩ ↔ c.drain host n m = (items.map .ok, ⟨[], w⟩) := by
  induction n generalizing m items with
  | zero =>
      obtain ⟨stack, v⟩ := m
      cases stack with
      | nil => cases items <;> simp [outcome, drain, nothing]
      | cons top above => simp [outcome, drain, unfinished]
  | succ n ih =>
      rw [drain, outcome]
      cases step : Machine.step host m with
      | more m' => exact ih
      | item result m' =>
          cases result with
          | ok e =>
              cases items with
              | nil => simp [take, one, andThen]
              | cons e' items =>
                  have later :
                      c.outcome host n ⟨m'.stack, c.receives e m'.world⟩ = ⟨items, _⟩ ↔ _ := ih
                  simp only [take, one, andThen]
                  generalize c.outcome host n ⟨m'.stack, c.receives e m'.world⟩ = r at later ⊢
                  generalize c.drain host n ⟨m'.stack, c.receives e m'.world⟩ = d at later ⊢
                  obtain ⟨said, ending⟩ := r
                  obtain ⟨handed, left⟩ := d
                  simp only [Resolution.mk.injEq, Prod.mk.injEq] at later
                  simp [and_assoc, later]
          | error f => cases items <;> simp [take, failing]
      | pending m' => exact ih
      | ended m' =>
          obtain ⟨none, rfl⟩ := step_eq_ended step
          obtain ⟨stack, v⟩ := m'
          cases none
          rw [take, drain_of_stack_nil rfl]
          cases items <;> simp [nothing]

end Consumer

/-! ## A machine on top of other work -/

/-- The frames that a failure leaves are marked. -/
theorem map_mark_of_step_error {host : Host φ ν} {m m' : Machine φ ν} {f : Fault}
    (step : Machine.step host m = .item (.error f) m') : m'.stack.map Frame.mark = m'.stack := by
  obtain ⟨stack, w⟩ := m
  have twice : ∀ stack : List (Frame φ), (stack.map Frame.mark).map Frame.mark
      = stack.map Frame.mark := by
    intro stack
    rw [List.map_map]
    refine List.map_congr_left fun g _ => ?_
    cases g <;> rfl
  cases stack with
  | nil => cases step
  | cons g rest =>
      have above := step_above host rest w g
      rw [step] at above
      generalize same : Step.item (.error f) m' = s at above
      cases above with
      | more => cases same
      | @deliver result p w' =>
          unfold deliver at same
          split at same
          · cases same
          · cases result with
            | ok e => cases same
            | error f =>
                cases same
                exact twice _
      | pending => cases same

namespace Follows

/-- On top of other work, a machine comes to what it comes to alone. -/
theorem onto (c : Consumer φ ν) (host : Host φ ν) {rest : List (Frame φ)}
    (intact : Frame.belowFailed rest = none) (n : Nat) (m : Machine φ ν) :
    Follows c host n (m.onto rest) rest (c.outcome host n m) := by
  induction n generalizing m with
  | zero =>
      obtain ⟨stack, w⟩ := m
      cases stack with
      | nil => exact here
      | cons top above => exact .unfinished 0 top above w (Nat.le_refl 0) rfl
  | succ n ih =>
      obtain ⟨stack, w⟩ := m
      cases stack with
      | nil => exact here
      | cons top above =>
          have same := step_onto intact host (m := ⟨top :: above, w⟩) (List.cons_ne_nil _ _)
          rw [Consumer.outcome]
          cases step : Machine.step host ⟨top :: above, w⟩ with
          | more m' =>
              rw [step] at same
              exact of_more same (ih m')
          | item result m' =>
              rw [step] at same
              cases result with
              | ok e =>
                  refine of_take [e] ?_ (ih ⟨m'.stack, c.receives e m'.world⟩)
                  rw [same]
                  rfl
              | error f =>
                  refine .failed 1 m'.stack ?_
                  rw [List.map_append, map_mark_of_step_error step, Consumer.drain, same]
                  rfl
          | pending m' =>
              rw [step] at same
              exact of_pending same (ih ⟨m'.stack, c.waits m'.world⟩)
          | ended m' => cases (step_eq_ended step).1

end Follows

/-- A machine that has come to its end comes to the work below it. -/
theorem Consumer.exists_drain_onto {c : Consumer φ ν} {host : Host φ ν} {rest : List (Frame φ)}
    (intact : Frame.belowFailed rest = none) {n : Nat} {m : Machine φ ν} {items : List Element}
    {w : World φ ν} (ended : c.drain host n m = (items.map .ok, ⟨[], w⟩)) :
    ∃ k, c.drain host k (m.onto rest) = (items.map .ok, ⟨rest, w⟩) := by
  have follows := Follows.onto c host intact n m
  rw [outcome_eq_ended_iff.2 ended] at follows
  cases follows with
  | ended k drained => exact ⟨k, drained⟩

/-- A machine that comes to its end on top of other work comes to its own end first, and the
steps that are left are those of the work below. -/
theorem Consumer.exists_split_drain {c : Consumer φ ν} {host : Host φ ν} {rest : List (Frame φ)}
    (intact : Frame.belowFailed rest = none) {n : Nat} {m : Machine φ ν} {items : List Element}
    {w : World φ ν} (ended : c.drain host n (m.onto rest) = (items.map .ok, ⟨[], w⟩)) :
    ∃ k first v later, k ≤ n ∧ c.drain host n m = (first.map .ok, ⟨[], v⟩) ∧
      c.drain host (n - k) ⟨rest, v⟩ = (later.map .ok, ⟨[], w⟩) ∧ items = first ++ later := by
  obtain ⟨first, v, k, comes, drained⟩ := (Follows.onto c host intact n m).exists_ended ended
  have alone := outcome_eq_ended_iff.1 comes
  rcases Nat.le_total k n with le | le
  · obtain ⟨d, rfl⟩ := Nat.exists_eq_add_of_le le
    rw [drain_add, drained] at ended
    obtain ⟨joined, left⟩ := Prod.mk.inj ended
    obtain ⟨before, later, rfl, same, handed⟩ := List.map_eq_append_iff.1 joined.symm
    obtain rfl := (List.map_inj_right fun _ _ eq => Except.ok.inj eq).1 same
    refine ⟨k, before, v, later, le, alone, ?_, rfl⟩
    rw [Nat.add_sub_cancel_left]
    exact Prod.ext handed.symm left
  · -- Nothing is left to do below.
    obtain ⟨d, rfl⟩ := Nat.exists_eq_add_of_le le
    rw [drain_of_ended ended d] at drained
    obtain ⟨same, left⟩ := Prod.mk.inj drained
    cases left
    obtain rfl := (List.map_inj_right fun _ _ eq => Except.ok.inj eq).1 same
    refine ⟨n, items, w, [], Nat.le_refl n, alone, ?_, (List.append_nil _).symm⟩
    exact drain_of_stack_nil rfl _

/-- Inputs that are run by themselves are followed. -/
theorem sequenceFaithful_alone (c : Consumer φ ν) (host : Host φ ν) (n : Nat) :
    SequenceFaithful c host n (c.alone host n) := fun i props _ w intact =>
  Follows.onto c host intact n ⟨Frame.guarded i props, w⟩

end PromptStream
