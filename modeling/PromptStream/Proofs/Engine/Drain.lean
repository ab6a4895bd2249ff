import PromptStream.Proofs.Engine.AfterFailure
import PromptStream.Proofs.Engine.Resolution

/-!
# Draining a machine

`Consumer.drain` does a number of steps and keeps what the consumer is handed; the
polls of a run are the drain of a consumer that records what it receives
(`polls_eq_drain`).

A machine *follows* a resolution (`Follows`) if a drain of it hands out the elements
of the resolution and leaves the work below in the way in which the resolution ends.
What follows a resolution is put together like the resolution itself: a step in front
(`Follows.of_more` and its like), and one part after another (`Follows.andThen`).
-/

namespace PromptStream

variable {φ ν : Type}

namespace Consumer

/-- What the consumer is handed by a step, and the machine once it has it. -/
def take (c : Consumer φ ν) : Step φ ν → List (Except Fault Element) × Machine φ ν
  | .more m => ([], m)
  | .item (.ok e) m => ([.ok e], ⟨m.stack, c.receives e m.world⟩)
  | .item (.error f) m => ([.error f], m)
  | .pending m => ([], ⟨m.stack, c.waits m.world⟩)
  | .ended m => ([], m)

/-- What the consumer is handed by a number of steps. -/
def drain (c : Consumer φ ν) (host : Host φ ν) :
    Nat → Machine φ ν → List (Except Fault Element) × Machine φ ν
  | 0, m => ([], m)
  | n + 1, m =>
      let first := c.take (Machine.step host m)
      let later := drain c host n first.2
      (first.1 ++ later.1, later.2)

/-- The consumer that adds to the prompt what it receives. -/
def recorder : Consumer φ ν := ⟨fun e w => w.consume e, id⟩

section Drain

variable {c : Consumer φ ν} {host : Host φ ν} {m : Machine φ ν}

theorem drain_add (c : Consumer φ ν) (host : Host φ ν) (n k : Nat) (m : Machine φ ν) :
    c.drain host (n + k) m
      = ((c.drain host n m).1 ++ (c.drain host k (c.drain host n m).2).1,
        (c.drain host k (c.drain host n m).2).2) := by
  induction n generalizing m with
  | zero =>
      rw [Nat.zero_add]
      rfl
  | succ n ih =>
      rw [Nat.succ_add, drain, drain, ih]
      simp only [List.append_assoc]

theorem drain_stem (c : Consumer φ ν) (host : Host φ ν) {n k : Nat} (le : n ≤ k)
    (m : Machine φ ν) :
    (c.drain host n m).1 <+: (c.drain host k m).1 := by
  obtain ⟨later, rfl⟩ := Nat.exists_eq_add_of_le le
  rw [drain_add]
  exact List.prefix_append _ _

theorem drain_of_stack_nil (none : m.stack = []) (n : Nat) : c.drain host n m = ([], m) := by
  obtain ⟨stack, w⟩ := m
  cases none
  induction n with
  | zero => rfl
  | succ n ih =>
      rw [drain]
      exact ih

theorem take_recorder (s : Step φ ν) :
    recorder.take s = ((Run.settle s).1.item?.toList, (Run.settle s).2) := by
  cases s with
  | item result m => cases result <;> rfl
  | _ => rfl

/-- A poll is a drain of at least one step, if it may do one. -/
theorem poll_succ_eq_drain (host : Host φ ν) (fuel : Nat) (m : Run φ ν) :
    ∃ n, recorder.drain host (n + 1) m
      = ((Run.poll host (fuel + 1) m).1.item?.toList, (Run.poll host (fuel + 1) m).2) := by
  have single : ∀ m : Run φ ν, recorder.drain host 1 m
      = ((Run.poll host 1 m).1.item?.toList, (Run.poll host 1 m).2) := by
    intro m
    rw [drain, take_recorder, ← Run.poll_one]
    exact Prod.ext (List.append_nil _) rfl
  induction fuel generalizing m with
  | zero => exact ⟨0, single m⟩
  | succ fuel ih =>
      rw [Run.poll_succ]
      split
      next unanswered =>
        obtain ⟨n, later⟩ := ih (Run.poll host 1 m).2
        refine ⟨n + 1, ?_⟩
        rw [Nat.add_comm (n + 1), drain_add, single, later, unanswered]
        rfl
      next => exact ⟨0, single m⟩

theorem poll_eq_drain (host : Host φ ν) (fuel : Nat) (m : Run φ ν) :
    ∃ n, recorder.drain host n m
      = ((Run.poll host fuel m).1.item?.toList, (Run.poll host fuel m).2) := by
  cases fuel with
  | zero => exact ⟨0, rfl⟩
  | succ fuel =>
      obtain ⟨n, drained⟩ := poll_succ_eq_drain host fuel m
      exact ⟨n + 1, drained⟩

/-- The polls of a run are a drain of the consumer that records what it receives. -/
theorem polls_eq_drain (host : Host φ ν) (fuels : List Nat) (m : Run φ ν) :
    ∃ n, recorder.drain host n m
      = (PromptStream.handedOut (Run.polls host fuels m).1, (Run.polls host fuels m).2) := by
  induction fuels generalizing m with
  | nil => exact ⟨0, rfl⟩
  | cons fuel fuels ih =>
      obtain ⟨n, first⟩ := poll_eq_drain host fuel m
      obtain ⟨k, later⟩ := ih (Run.poll host fuel m).2
      refine ⟨n + k, ?_⟩
      rw [drain_add, first, later, Run.polls_cons]
      refine Prod.ext ?_ rfl
      simp only [PromptStream.handedOut, List.filterMap_cons]
      cases (Run.poll host fuel m).1.item? <;> rfl

/-- A machine comes to its end in one way only. -/
theorem drain_eq_of_ended {n k : Nat} {m' m'' : Machine φ ν}
    {items' items'' : List (Except Fault Element)} (first : c.drain host n m = (items', m'))
    (second : c.drain host k m = (items'', m'')) (ended' : m'.stack = [])
    (ended'' : m''.stack = []) : items' = items'' ∧ m' = m'' := by
  have longer : ∀ {n d : Nat} {items' : List (Except Fault Element)} {m' : Machine φ ν},
      c.drain host n m = (items', m') → m'.stack = [] →
      c.drain host (n + d) m = (items', m') := by
    intro n d items' m' drained ended
    rw [drain_add, drained, drain_of_stack_nil ended]
    exact Prod.ext (List.append_nil items') rfl
  have same := (longer first ended' (d := k)).symm.trans
    ((congrArg (c.drain host · m) (Nat.add_comm n k)).trans (longer second ended'' (d := n)))
  exact Prod.mk.inj same

/-- A run whose work is done after some steps comes to its end, once it is polled more
often than that. -/
theorem ended_mem_polls_of_drain {n : Nat} {m : Run φ ν}
    (ended : (recorder.drain host n m).2.stack = []) {fuels : List Nat}
    (positive : ∀ fuel ∈ fuels, 0 < fuel) (enough : n < fuels.length) :
    .ended ∈ (Run.polls host fuels m).1 := by
  induction fuels generalizing n m with
  | nil => exact absurd enough (Nat.not_lt_zero n)
  | cons fuel fuels ih =>
      obtain ⟨fuel, rfl⟩ := Nat.exists_eq_succ_of_ne_zero
        (Nat.ne_of_gt (positive fuel List.mem_cons_self))
      rw [Run.polls_cons]
      cases n with
      | zero =>
          have now : (Run.poll host (fuel + 1) m).1 = .ended := by
            obtain ⟨stack, w⟩ := m
            cases ended
            rfl
          rw [now]
          exact List.mem_cons_self
      | succ n =>
          -- The poll does at least one of the steps; the others are left.
          obtain ⟨d, first⟩ := poll_succ_eq_drain host fuel m
          have left : (recorder.drain host n (Run.poll host (fuel + 1) m).2).2.stack = [] := by
            have both : recorder.drain host (d + 1 + n) m
                = recorder.drain host (n + 1 + d) m := by
              congr 1
              omega
            rw [drain_add recorder host (d + 1) n, drain_add recorder host (n + 1) d, first,
              drain_of_stack_nil ended] at both
            rw [(Prod.mk.inj both).2]
            exact ended
          refine List.mem_cons_of_mem _ (ih left ?_ (Nat.lt_of_succ_lt_succ enough))
          exact fun fuel mem => positive fuel (List.mem_cons_of_mem _ mem)

/-- A machine whose bottom guard is marked hands out nothing. -/
theorem drain_of_marked (marked : EndsAtGuard (· = true) m.stack) (n : Nat) :
    (c.drain host n m).1 = [] := by
  have taken : ∀ s : Step φ ν, (Run.settle s).1.item? = none →
      (c.take s).1 = [] ∧ (c.take s).2.stack = (Run.settle s).2.stack := by
    intro s silent
    cases s with
    | item result m => cases result <;> cases silent
    | _ => exact ⟨rfl, rfl⟩
  induction n generalizing m with
  | zero => rfl
  | succ n ih =>
      have guarded := Run.poll_one_guarded host (by rfl) marked
      rw [Run.poll_one] at guarded
      obtain ⟨nothing, stack⟩ := taken _ (guarded.silent fun _ marked => marked)
      rw [drain, nothing]
      refine ih ?_
      rw [stack]
      exact guarded.stays

end Drain

end Consumer

/-! ## Following a resolution -/

/-- A machine hands out the elements of a resolution, and then it has come down to the
work below, or has failed there; or it is not down there after so many steps. -/
inductive Follows (c : Consumer φ ν) (host : Host φ ν) (fuel : Nat) (m : Machine φ ν)
    (rest : List (Frame φ)) : Resolution φ ν → Prop where
  | ended {items : List Element} {w : World φ ν} (n : Nat) :
      c.drain host n m = (items.map .ok, ⟨rest, w⟩) →
      Follows c host fuel m rest ⟨items, .ended w⟩
  | failed {items : List Element} {f : Fault} {w : World φ ν} (n : Nat)
      (pushed : List (Frame φ)) :
      c.drain host n m = (items.map .ok ++ [.error f], ⟨(pushed ++ rest).map Frame.mark, w⟩) →
      Follows c host fuel m rest ⟨items, .failed f w⟩
  | unfinished {items : List Element} (n : Nat) (top : Frame φ) (pushed : List (Frame φ))
      (w : World φ ν) :
      fuel ≤ n → c.drain host n m = (items.map .ok, ⟨top :: pushed ++ rest, w⟩) →
      Follows c host fuel m rest ⟨items, .unfinished⟩

namespace Follows

open Resolution

variable {c : Consumer φ ν} {host : Host φ ν} {fuel : Nat} {m m' : Machine φ ν}
  {stack rest : List (Frame φ)} {w : World φ ν} {r : Resolution φ ν}

theorem mono {less : Nat} (le : less ≤ fuel) (h : Follows c host fuel m rest r) :
    Follows c host less m rest r := by
  cases h with
  | ended n drained => exact .ended n drained
  | failed n pushed drained => exact .failed n pushed drained
  | unfinished n top pushed w enough drained =>
      exact .unfinished n top pushed w (Nat.le_trans le enough) drained

/-- The work below is reached at once. -/
theorem here : Follows c host fuel ⟨rest, w⟩ rest (nothing w) := .ended 0 rfl

/-- Steps in front, with the elements that they hand out. -/
theorem prepend (said : List Element) {d : Nat} (front : c.drain host d m = (said.map .ok, m'))
    (h : Follows c host fuel m' rest r) :
    Follows c host (fuel + d) m rest ⟨said ++ r.items, r.ending⟩ := by
  have shift : ∀ {n : Nat} {items : List (Except Fault Element)} {last : Machine φ ν},
      c.drain host n m' = (items, last) →
      c.drain host (d + n) m = (said.map .ok ++ items, last) := by
    intro n items last drained
    rw [Consumer.drain_add, front, drained]
  cases h with
  | ended n drained =>
      refine .ended (d + n) ?_
      rw [shift drained, List.map_append]
  | failed n pushed drained =>
      refine .failed (d + n) pushed ?_
      rw [shift drained, ← List.append_assoc, ← List.map_append]
  | unfinished n top pushed w enough drained =>
      refine .unfinished (d + n) top pushed w (by omega) ?_
      rw [shift drained, List.map_append]

theorem of_take (said : List Element)
    (taken : c.take (Machine.step host m) = (said.map .ok, m'))
    (h : Follows c host fuel m' rest r) :
    Follows c host (fuel + 1) m rest ⟨said ++ r.items, r.ending⟩ := by
  refine prepend said ?_ h
  rw [Consumer.drain, taken]
  exact Prod.ext (List.append_nil _) rfl

theorem of_more (step : Machine.step host m = .more m') (h : Follows c host fuel m' rest r) :
    Follows c host (fuel + 1) m rest r := by
  refine of_take [] ?_ h
  rw [step]
  rfl

theorem of_pending (step : Machine.step host m = .pending ⟨stack, w⟩)
    (h : Follows c host fuel ⟨stack, c.waits w⟩ rest r) :
    Follows c host (fuel + 1) m rest r := by
  refine of_take [] ?_ h
  rw [step]
  rfl

/-- An element is handed out while no sequence has failed. -/
theorem of_element {e : Element} {next : World φ ν → Resolution φ ν}
    (step : Machine.step host m = deliver (.ok e) stack w)
    (intact : Frame.belowFailed stack = none)
    (h : Follows c host fuel ⟨stack, c.receives e w⟩ rest (next (c.receives e w))) :
    Follows c host (fuel + 1) m rest ((one c e w).andThen next) := by
  refine of_take [e] ?_ h
  rw [step, deliver, intact]
  rfl

/-- So is a failure, which marks what is left. -/
theorem of_failure {f : Fault} (pushed : List (Frame φ))
    (step : Machine.step host m = deliver (.error f) (pushed ++ rest) w)
    (intact : Frame.belowFailed (pushed ++ rest) = none) :
    Follows c host fuel m rest (failing f w) := by
  refine .failed 1 pushed ?_
  rw [Consumer.drain, step, deliver, intact]
  rfl

/-- One part after another. -/
theorem andThen (above : List (Frame φ)) {next : World φ ν → Resolution φ ν}
    (first : Follows c host fuel m (above ++ rest) r)
    (second : ∀ w, Follows c host fuel ⟨above ++ rest, w⟩ rest (next w)) :
    Follows c host fuel m rest (r.andThen next) := by
  cases first with
  | ended n drained => exact mono (Nat.le_add_right fuel n) (prepend _ drained (second _))
  | failed n pushed drained =>
      refine .failed n (pushed ++ above) ?_
      rw [drained, List.append_assoc]
  | unfinished n top pushed w enough drained =>
      refine .unfinished n top (pushed ++ above) w enough (drained.trans ?_)
      rw [← List.cons_append, List.append_assoc]

/-- The guard of a sequence is left when the sequence has ended. -/
theorem pop (h : Follows c host fuel m (.guard false :: rest) r) :
    Follows c host fuel m rest r := by
  rw [← andThen_nothing r]
  refine andThen [.guard false] h fun w => ?_
  exact mono (Nat.le_succ fuel) (of_more rfl here)

end Follows

end PromptStream
