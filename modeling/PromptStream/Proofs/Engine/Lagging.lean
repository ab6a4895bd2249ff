import PromptStream.Proofs.Engine.Play

/-!
# Runs that lag behind

A run *lags* behind another if from time to time it does a step of which nobody hears before
it does what the other does.  If the number of these steps is bounded (`Lag`), then whatever a
consumer does with the two runs, it gets the same answers and both leave the same world; all
it may take is a little more fuel (`Lag.keepsUp`).

Two runs that do not lag at all give the same answers with the same fuel (`play_congr`).
-/

namespace PromptStream

variable {φ ν : Type}

namespace Move

/-- The move with more fuel. -/
def refuel (more : Nat) : Move ν → Move ν
  | .poll fuel => .poll (fuel + more)
  | .write w => .write w

end Move

namespace Run

/-- Whatever is done with two runs, they give the same answers and leave the same world, if
the slow one gets so much more fuel for every poll. -/
structure KeepsUp (host : Host φ ν) (more : Nat) (slow quick : Run φ ν) : Prop where
  of_slow : ∀ moves, .unanswered ∉ (play host moves slow).1 →
    (play host moves quick).1 = (play host moves slow).1 ∧
      (play host moves quick).2.world = (play host moves slow).2.world
  of_quick : ∀ moves, .unanswered ∉ (play host moves quick).1 →
    (play host (moves.map (Move.refuel more)) slow).1 = (play host moves quick).1 ∧
      (play host (moves.map (Move.refuel more)) slow).2.world = (play host moves quick).2.world

/-- A relation between two runs of which the first still has so many steps to do that the
second one lacks. -/
structure Lag (host : Host φ ν) (most : Nat) (lags : Nat → Run φ ν → Run φ ν → Prop) : Prop where
  world : ∀ {d slow quick}, lags d slow quick → slow.world = quick.world
  le : ∀ {d slow quick}, lags d slow quick → d ≤ most
  write : ∀ {d slow quick} (x : Write ν), lags d slow quick →
    lags d (slow.write x) (quick.write x)
  step : ∀ {d slow quick}, lags d slow quick →
    (∃ e m, d = e + 1 ∧ Machine.step host slow = .more m ∧ lags e m quick) ∨
    ((poll host 1 slow).1 = (poll host 1 quick).1 ∧
      lags d (poll host 1 slow).2 (poll host 1 quick).2)

namespace Lag

variable {host : Host φ ν} {most : Nat} {lags : Nat → Run φ ν → Run φ ν → Prop}
  (lag : Lag host most lags) {d : Nat} {slow quick : Run φ ν}

include lag

/-- A poll of the slow run that has an answer gets the same answer from the quick one. -/
theorem poll_of_slow {fuel : Nat} (h : lags d slow quick)
    (answered : (poll host fuel slow).1 ≠ .unanswered) :
    (poll host fuel quick).1 = (poll host fuel slow).1 ∧
      ∃ e, lags e (poll host fuel slow).2 (poll host fuel quick).2 := by
  induction fuel generalizing d slow quick with
  | zero => exact absurd rfl answered
  | succ fuel ih =>
      rcases lag.step h with ⟨e, m, rfl, step, next⟩ | ⟨same, next⟩
      · have extra : poll host (fuel + 1) slow = poll host fuel m := by rw [poll, step]
        rw [extra] at answered ⊢
        obtain ⟨answer, last⟩ := ih next answered
        rw [poll_add_of_answered (answer ▸ answered) 1]
        exact ⟨answer, last⟩
      · rw [poll_succ host fuel slow] at answered ⊢
        rw [poll_succ host fuel quick, ← same]
        split
        next unanswered =>
          rw [if_pos unanswered] at answered
          exact ih next answered
        next => exact ⟨same.symm, d, next⟩

/-- A poll of the quick run that has an answer gets the same answer from the slow one, after
the steps that it still has to do. -/
theorem poll_of_quick {fuel : Nat} (h : lags d slow quick)
    (answered : (poll host fuel quick).1 ≠ .unanswered) :
    (poll host (fuel + d) slow).1 = (poll host fuel quick).1 ∧
      ∃ e, lags e (poll host (fuel + d) slow).2 (poll host fuel quick).2 := by
  -- An extra step leaves fewer of them, any other takes fuel from both.
  induction d using Nat.strongRecOn generalizing fuel slow quick with
  | _ d fewer =>
    induction fuel generalizing slow quick with
    | zero => exact absurd rfl answered
    | succ fuel ih =>
        rcases lag.step h with ⟨e, m, rfl, step, next⟩ | ⟨same, next⟩
        · have extra : poll host (fuel + 1 + (e + 1)) slow = poll host (fuel + 1 + e) m := by
            rw [← Nat.add_assoc, poll, step]
          rw [extra]
          exact fewer e (Nat.lt_succ_self e) next answered
        · rw [poll_succ host fuel quick] at answered ⊢
          rw [Nat.add_right_comm, poll_succ host (fuel + d) slow, same]
          split
          next unanswered =>
            rw [if_pos unanswered] at answered
            exact ih next answered
          next => exact ⟨same, d, next⟩

theorem play_of_slow (moves : List (Move ν)) (h : lags d slow quick)
    (answered : .unanswered ∉ (play host moves slow).1) :
    (play host moves quick).1 = (play host moves slow).1 ∧
      (play host moves quick).2.world = (play host moves slow).2.world := by
  induction moves generalizing d slow quick with
  | nil => exact ⟨rfl, (lag.world h).symm⟩
  | cons move moves ih =>
      cases move with
      | write x => exact ih (lag.write x h) answered
      | poll fuel =>
          rw [play, List.mem_cons, not_or] at answered
          obtain ⟨answer, e, next⟩ := lag.poll_of_slow h (Ne.symm answered.1)
          obtain ⟨answers, world⟩ := ih next answered.2
          exact ⟨List.cons_eq_cons.2 ⟨answer, answers⟩, world⟩

theorem play_of_quick (moves : List (Move ν)) (h : lags d slow quick)
    (answered : .unanswered ∉ (play host moves quick).1) :
    (play host (moves.map (Move.refuel most)) slow).1 = (play host moves quick).1 ∧
      (play host (moves.map (Move.refuel most)) slow).2.world
        = (play host moves quick).2.world := by
  induction moves generalizing d slow quick with
  | nil => exact ⟨rfl, lag.world h⟩
  | cons move moves ih =>
      cases move with
      | write x => exact ih (lag.write x h) answered
      | poll fuel =>
          rw [play, List.mem_cons, not_or] at answered
          obtain ⟨answer, e, next⟩ := lag.poll_of_quick h (Ne.symm answered.1)
          have enough : poll host (fuel + most) slow = poll host (fuel + d) slow := by
            obtain ⟨more, rfl⟩ := Nat.exists_eq_add_of_le (lag.le h)
            rw [← Nat.add_assoc]
            exact poll_add_of_answered (answer ▸ Ne.symm answered.1) more
          rw [← enough] at answer next
          obtain ⟨answers, world⟩ := ih next answered.2
          exact ⟨List.cons_eq_cons.2 ⟨answer, answers⟩, world⟩

theorem keepsUp (h : lags d slow quick) : KeepsUp host most slow quick :=
  ⟨fun moves => lag.play_of_slow moves h, fun moves => lag.play_of_quick moves h⟩

end Lag

/-! ## Runs that do not lag -/

/-- Runs that answer every step alike answer every move alike. -/
theorem play_congr {host : Host φ ν} {alike : Run φ ν → Run φ ν → Prop}
    (step : ∀ {m m'}, alike m m' → (poll host 1 m).1 = (poll host 1 m').1 ∧
      alike (poll host 1 m).2 (poll host 1 m').2)
    (write : ∀ {m m'} (x : Write ν), alike m m' → alike (m.write x) (m'.write x))
    (moves : List (Move ν)) {m m' : Run φ ν} (h : alike m m') :
    (play host moves m).1 = (play host moves m').1 ∧
      alike (play host moves m).2 (play host moves m').2 := by
  have poll : ∀ fuel {m m'}, alike m m' → (Run.poll host fuel m).1 = (Run.poll host fuel m').1 ∧
      alike (Run.poll host fuel m).2 (Run.poll host fuel m').2 := by
    intro fuel
    induction fuel with
    | zero => exact fun h => ⟨rfl, h⟩
    | succ fuel ih =>
        intro m m' h
        obtain ⟨same, next⟩ := step h
        rw [poll_succ, poll_succ host fuel m', ← same]
        split
        next => exact ih next
        next => exact ⟨same, next⟩
  induction moves generalizing m m' with
  | nil => exact ⟨rfl, h⟩
  | cons move moves ih =>
      cases move with
      | write x => exact ih (write x h)
      | poll fuel =>
          obtain ⟨answer, next⟩ := poll fuel h
          obtain ⟨answers, last⟩ := ih next
          exact ⟨List.cons_eq_cons.2 ⟨answer, answers⟩, last⟩

end Run

end PromptStream
