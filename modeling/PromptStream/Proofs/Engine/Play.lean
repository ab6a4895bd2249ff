import PromptStream.Engine.Run
import PromptStream.Proofs.Engine.Step

/-!
# Playing a run

A consumer makes moves: it polls a run, or writes something to the scene from
outside.  `play` makes some moves one after another and keeps the answers.

A poll is a chain of polls of one step each, all but the last of which give no
answer (`poll_succ`).  So what holds of a run is proved for polls of one step and
carried to whole plays once and for all: `play_invariant` for what every move
preserves, `ended_mem_polls` for runs that come to their end.
-/

namespace PromptStream

variable {φ ν : Type}

/-- The host of a run without author code. -/
def Host.none : Host Empty ν where
  call f := nomatch f
  poll f := nomatch f
  until? f := nomatch f
  item f := nomatch f
  perform f := nomatch f

/-- What a consumer does with a run. -/
inductive Move (ν : Type) where
  /-- It polls, with at most so many steps. -/
  | poll (fuel : Nat)
  /-- It writes to the scene from outside. -/
  | write (w : Write ν)

namespace Poll

/-- What an answer hands out, if it does. -/
def item? : Poll → Option (Except Fault Element)
  | .element e => some (.ok e)
  | .failed f => some (.error f)
  | _ => none

/-- The element of an answer. -/
def element? : Poll → Option Element
  | .element e => some e
  | _ => none

end Poll

/-- What some answers hand out, in order. -/
def handedOut (answers : List Poll) : List (Except Fault Element) := answers.filterMap Poll.item?

/-- The elements of some answers, in order. -/
def elementsOf (answers : List Poll) : List Element := answers.filterMap Poll.element?

/-- The elements among some items. -/
def okElements (items : List (Except Fault Element)) : List Element :=
  items.filterMap fun
    | .ok e => some e
    | .error _ => none

theorem elementsOf_eq (answers : List Poll) :
    elementsOf answers = okElements (handedOut answers) := by
  rw [elementsOf, okElements, handedOut, List.filterMap_filterMap]
  congr 1
  funext answer
  cases answer <;> rfl

theorem error_mem_handedOut_iff {answers : List Poll} {f : Fault} :
    .error f ∈ handedOut answers ↔ .failed f ∈ answers := by
  rw [handedOut, List.mem_filterMap]
  constructor
  · rintro ⟨answer, mem, same⟩
    cases answer with
    | failed g => cases same; exact mem
    | element e => cases same
    | pending => cases same
    | ended => cases same
    | unanswered => cases same
  · intro mem
    exact ⟨.failed f, mem, rfl⟩

/-- Answers that hand out elements alone hold no failure. -/
theorem not_failed_of_handedOut {answers : List Poll} {items : List Element}
    (handed : handedOut answers = items.map .ok) (f : Fault) : .failed f ∉ answers := by
  intro failed
  have mem := error_mem_handedOut_iff.2 failed
  rw [handed] at mem
  obtain ⟨e, -, same⟩ := List.mem_map.1 mem
  cases same

namespace Run

/-- Makes some moves and keeps the answers. -/
def play (host : Host φ ν) : List (Move ν) → Run φ ν → List Poll × Run φ ν
  | [], m => ([], m)
  | .poll fuel :: moves, m =>
      let next := play host moves (poll host fuel m).2
      ((poll host fuel m).1 :: next.1, next.2)
  | .write w :: moves, m => play host moves (m.write w)

/-- Polls once for each amount of fuel. -/
def polls (host : Host φ ν) (fuels : List Nat) (m : Run φ ν) : List Poll × Run φ ν :=
  play host (fuels.map .poll) m

theorem polls_cons (host : Host φ ν) (fuel : Nat) (fuels : List Nat) (m : Run φ ν) :
    polls host (fuel :: fuels) m
      = ((poll host fuel m).1 :: (polls host fuels (poll host fuel m).2).1,
        (polls host fuels (poll host fuel m).2).2) := rfl

/-- A poll is a poll of one step, followed by the rest of it if there was no
answer. -/
theorem poll_succ (host : Host φ ν) (fuel : Nat) (m : Run φ ν) :
    poll host (fuel + 1) m
      = if (poll host 1 m).1 = .unanswered then poll host fuel (poll host 1 m).2
        else poll host 1 m := by
  rw [poll, poll]
  cases Machine.step host m with
  | more m => rfl
  | item result m => cases result <;> rfl
  | pending m => rfl
  | ended m => rfl

/-- What the consumer gets from a single step, and the run once it has it. -/
def settle : Step φ ν → Poll × Run φ ν
  | .more m => (.unanswered, m)
  | .item result m => receive m result
  | .pending m => (.pending, m)
  | .ended m => (.ended, m)

theorem poll_one (host : Host φ ν) (m : Run φ ν) :
    poll host 1 m = settle (Machine.step host m) := by
  rw [poll]
  cases Machine.step host m <;> rfl

/-- Once a poll has an answer, more fuel changes nothing. -/
theorem poll_add_of_answered {host : Host φ ν} {fuel : Nat} {m : Run φ ν}
    (answered : (poll host fuel m).1 ≠ .unanswered) (more : Nat) :
    poll host (fuel + more) m = poll host fuel m := by
  induction fuel generalizing m with
  | zero => exact absurd rfl answered
  | succ fuel ih =>
      rw [poll_succ host fuel m] at answered ⊢
      rw [Nat.add_right_comm, poll_succ host (fuel + more) m]
      split
      next unanswered =>
        rw [if_pos unanswered] at answered
        exact ih answered
      next => rfl

/-! ## Invariants -/

section Invariant

variable {host : Host φ ν} {holds : List (Except Fault Element) → Run φ ν → Prop}

/-- What a single step preserves, a poll preserves. -/
theorem poll_invariant
    (step : ∀ items m, holds items m →
      holds (items ++ (poll host 1 m).1.item?.toList) (poll host 1 m).2)
    (fuel : Nat) {items : List (Except Fault Element)} {m : Run φ ν} (h : holds items m) :
    holds (items ++ (poll host fuel m).1.item?.toList) (poll host fuel m).2 := by
  induction fuel generalizing items m with
  | zero => simpa [poll, Poll.item?] using h
  | succ fuel ih =>
      have next := step items m h
      rw [poll_succ]
      split
      next unanswered =>
        rw [unanswered] at next
        exact ih (by simpa [Poll.item?] using next)
      next => exact next

/-- What single steps and outside writes preserve, a whole play preserves. -/
theorem play_invariant
    (step : ∀ items m, holds items m →
      holds (items ++ (poll host 1 m).1.item?.toList) (poll host 1 m).2)
    {moves : List (Move ν)}
    (write : ∀ w, .write w ∈ moves → ∀ items m, holds items m → holds items (Run.write m w))
    {items : List (Except Fault Element)} {m : Run φ ν} (h : holds items m) :
    holds (items ++ handedOut (play host moves m).1) (play host moves m).2 := by
  induction moves generalizing items m with
  | nil => simpa [play, handedOut] using h
  | cons move moves ih =>
      have writeLater : ∀ w, .write w ∈ moves → ∀ items m, holds items m →
          holds items (Run.write m w) :=
        fun w mem => write w (List.mem_cons_of_mem _ mem)
      cases move with
      | poll fuel =>
          have next := ih writeLater (poll_invariant step fuel h)
          have shift : handedOut (play host (.poll fuel :: moves) m).1
              = (poll host fuel m).1.item?.toList
                ++ handedOut (play host moves (poll host fuel m).2).1 := by
            rw [play, handedOut, List.filterMap_cons]
            cases (poll host fuel m).1.item? <;> rfl
          rw [shift, ← List.append_assoc]
          exact next
      | write w => exact ih writeLater (write w List.mem_cons_self items m h)

/-- The same for what does not depend on the items. -/
theorem play_preserves (holds : Run φ ν → Prop)
    (step : ∀ m, holds m → holds (poll host 1 m).2) {moves : List (Move ν)}
    (write : ∀ w, .write w ∈ moves → ∀ m, holds m → holds (Run.write m w))
    {m : Run φ ν} (h : holds m) : holds (play host moves m).2 :=
  @play_invariant _ _ host (fun _ => holds) (fun _ => step) moves (fun w mem _ => write w mem)
    [] m h

/-- What single steps preserve, any number of polls preserves. -/
theorem polls_invariant
    (step : ∀ items m, holds items m →
      holds (items ++ (poll host 1 m).1.item?.toList) (poll host 1 m).2)
    (fuels : List Nat) {items : List (Except Fault Element)} {m : Run φ ν} (h : holds items m) :
    holds (items ++ handedOut (polls host fuels m).1) (polls host fuels m).2 := by
  refine play_invariant step ?_ h
  intro w mem
  obtain ⟨fuel, -, same⟩ := List.mem_map.1 mem
  cases same

end Invariant

/-! ## Reaching the end -/

section Ending

variable {host : Host φ ν} (holds : Run φ ν → Prop) (left : Run φ ν → Nat)

/-- If every step ends the run or leaves less to do, so does every poll. -/
theorem poll_progress
    (step : ∀ m, holds m → holds (poll host 1 m).2 ∧
      ((poll host 1 m).1 = .ended ∨ left (poll host 1 m).2 < left m))
    {fuel : Nat} (positive : 0 < fuel) {m : Run φ ν} (h : holds m) :
    holds (poll host fuel m).2 ∧
      ((poll host fuel m).1 = .ended ∨ left (poll host fuel m).2 < left m) := by
  induction fuel generalizing m with
  | zero => exact absurd positive (Nat.lt_irrefl 0)
  | succ fuel ih =>
      obtain ⟨next, progress⟩ := step m h
      rw [poll_succ]
      split
      next unanswered =>
        have shorter : left (poll host 1 m).2 < left m := by
          rcases progress with ended | shorter
          · rw [unanswered] at ended
            cases ended
          · exact shorter
        cases fuel with
        | zero => exact ⟨next, .inr shorter⟩
        | succ fuel =>
            obtain ⟨last, progress⟩ := ih (Nat.succ_pos fuel) next
            refine ⟨last, progress.imp id fun evenShorter => ?_⟩
            exact Nat.lt_trans evenShorter shorter
      next => exact ⟨next, progress⟩

/-- A run whose steps leave less and less to do comes to its end, once it is
polled more often than there is left to do. -/
theorem ended_mem_polls
    (step : ∀ m, holds m → holds (poll host 1 m).2 ∧
      ((poll host 1 m).1 = .ended ∨ left (poll host 1 m).2 < left m))
    {fuels : List Nat} (positive : ∀ fuel ∈ fuels, 0 < fuel) {m : Run φ ν} (h : holds m)
    (enough : left m < fuels.length) : .ended ∈ (polls host fuels m).1 := by
  induction fuels generalizing m with
  | nil => exact absurd enough (Nat.not_lt_zero _)
  | cons fuel fuels ih =>
      obtain ⟨next, progress⟩ :=
        poll_progress holds left step (positive fuel List.mem_cons_self) h
      rw [polls_cons]
      rcases progress with ended | shorter
      · rw [ended]
        exact List.mem_cons_self
      · refine List.mem_cons_of_mem _ (ih ?_ next ?_)
        · exact fun fuel mem => positive fuel (List.mem_cons_of_mem _ mem)
        · rw [List.length_cons] at enough
          omega

end Ending

/-! ## After the end -/

/-- A poll that says that the run has ended leaves it without work. -/
theorem stack_of_poll_ended {host : Host φ ν} {fuel : Nat} {m : Run φ ν}
    (h : (poll host fuel m).1 = .ended) : (poll host fuel m).2.stack = [] := by
  induction fuel generalizing m with
  | zero => cases h
  | succ fuel ih =>
      rw [poll] at h ⊢
      cases step : Machine.step host m with
      | more m' =>
          rw [step] at h
          exact ih h
      | item result m' =>
          rw [step] at h
          cases result <;> cases h
      | pending m' =>
          rw [step] at h
          cases h
      | ended m' =>
          obtain ⟨none, rfl⟩ := step_eq_ended step
          exact none

/-- A run without work stays without work. -/
theorem poll_of_stack_nil (host : Host φ ν) (fuel : Nat) {m : Run φ ν} (none : m.stack = []) :
    (poll host fuel m).2 = m := by
  obtain ⟨stack, w⟩ := m
  cases none
  cases fuel <;> rfl

/-- Once some poll has said that the run has ended, no work is left. -/
theorem stack_of_ended_mem_play {host : Host φ ν} {moves : List (Move ν)} {m : Run φ ν}
    (h : .ended ∈ (play host moves m).1) : (play host moves m).2.stack = [] := by
  have stays : ∀ (moves : List (Move ν)) (m : Run φ ν), m.stack = [] →
      (play host moves m).2.stack = [] := by
    intro moves
    induction moves with
    | nil => exact fun m none => none
    | cons move moves ih =>
        intro m none
        cases move with
        | poll fuel =>
            refine ih _ ?_
            rw [poll_of_stack_nil host fuel none]
            exact none
        | write w => exact ih _ none
  induction moves generalizing m with
  | nil => cases h
  | cons move moves ih =>
      cases move with
      | poll fuel =>
          rcases List.mem_cons.1 h with now | later
          · exact stays moves _ (stack_of_poll_ended now.symm)
          · exact ih later
      | write w => exact ih h

theorem stack_of_ended_mem {host : Host φ ν} {fuels : List Nat} {m : Run φ ν}
    (h : .ended ∈ (polls host fuels m).1) : (polls host fuels m).2.stack = [] :=
  stack_of_ended_mem_play h

end Run

end PromptStream
