import PromptStream.Proofs.Engine.ConsumedPrompt
import PromptStream.Proofs.Engine.QuietEnd

/-!
# After a failure

A run as a whole is a sequence that ends with its first failure: nothing is
handed out after that, whatever its consumer does, and the prompt stays
(`play_after_failure`).  The guard of the run lies at the bottom of its stack and
is marked by the failure (`EndsAtGuard`).

But a sequence that has failed is noticed only when the next item reaches it, so
the poll after a failure still does some of the work that is left.  It does
nothing but end the run exactly when that work is clean; otherwise it may run
author code, ask a connector, poll a stream, or find something pending.
-/

namespace PromptStream

variable {φ ν : Type}

/-! ## The guard at the bottom -/

/-- A stack without work, or with a guard at its bottom. -/
def EndsAtGuard (allowed : Bool → Prop) (stack : List (Frame φ)) : Prop :=
  ∀ f ∈ stack.getLast?, ∃ failed, f = .guard failed ∧ allowed failed

section Guards

variable {allowed : Bool → Prop} {f : Frame φ} {rest below : List (Frame φ)}

theorem EndsAtGuard.nil : EndsAtGuard allowed ([] : List (Frame φ)) := by
  intro f last
  cases last

/-- The topmost frames do not matter. -/
theorem EndsAtGuard.append (h : EndsAtGuard allowed (f :: rest)) (some : rest ≠ [])
    (pushed : List (Frame φ)) : EndsAtGuard allowed (pushed ++ rest) := by
  intro g last
  refine h g ?_
  rw [List.getLast?_cons_of_ne_nil some]
  rw [List.getLast?_append] at last
  cases found : rest.getLast? with
  | none => exact absurd (List.getLast?_eq_none_iff.1 found) some
  | some bottom =>
      rw [found] at last
      exact last

/-- What lies below a failed sequence has the same bottom. -/
theorem EndsAtGuard.of_belowFailed (h : EndsAtGuard allowed rest)
    (failed : Frame.belowFailed rest = some below) : EndsAtGuard allowed below := by
  induction rest with
  | nil => cases failed
  | cons f rest ih =>
      have tail : EndsAtGuard allowed rest := by
        by_cases some : rest = []
        · rw [some]
          exact .nil
        · exact h.append some []
      unfold Frame.belowFailed at failed
      split at failed
      next => cases failed
      next rest same =>
        cases same
        cases failed
        exact tail
      next g rest marked same =>
        cases same
        exact ih tail failed

/-- A failure marks the guard at the bottom. -/
theorem EndsAtGuard.mark (h : EndsAtGuard allowed rest) :
    EndsAtGuard (· = true) (rest.map Frame.mark) := by
  intro g last
  rw [List.getLast?_map] at last
  obtain ⟨f, found, rfl⟩ := Option.map_eq_some_iff.1 last
  obtain ⟨failed, rfl, -⟩ := h f found
  exact ⟨true, rfl, rfl⟩

/-- Above a marked guard some sequence has failed. -/
theorem EndsAtGuard.isSome_belowFailed (h : EndsAtGuard (· = true) rest) (some : rest ≠ []) :
    (Frame.belowFailed rest).isSome := by
  induction rest with
  | nil => exact absurd rfl some
  | cons f rest ih =>
      by_cases alone : rest = []
      · subst alone
        obtain ⟨failed, rfl, rfl⟩ := h f rfl
        rfl
      · unfold Frame.belowFailed
        split
        next same => cases same
        next => rfl
        next same =>
          cases same
          exact ih (h.append alone []) alone

end Guards

namespace Run

/-- What a step hands out with a guard at the bottom of the stack: the guard stays,
a failure marks it, and a guard that is marked lets nothing through. -/
structure Guarded (allowed : Bool → Prop) (answer : Poll) (m : Run φ ν) : Prop where
  stays : EndsAtGuard allowed m.stack
  marked : ∀ f, answer = .failed f → EndsAtGuard (· = true) m.stack
  silent : (∀ failed, allowed failed → failed = true) → answer.item? = none

section Steps

variable {allowed : Bool → Prop}

theorem Guarded.of_none {answer : Poll} {m : Run φ ν} (none : answer.item? = none)
    (h : EndsAtGuard allowed m.stack) : Guarded allowed answer m := by
  refine ⟨h, ?_, fun _ => none⟩
  rintro f rfl
  cases none

theorem Guarded.of_deliver (canFail : allowed true) {result : Except Fault Element}
    {stack : List (Frame φ)} {w : World φ ν} (h : EndsAtGuard allowed stack) (some : stack ≠ []) :
    Guarded allowed (settle (deliver result stack w)).1 (settle (deliver result stack w)).2 := by
  unfold deliver
  split
  next below failed => exact .of_none rfl (h.of_belowFailed failed)
  next intact =>
    have notSilent : ¬ ∀ failed, allowed failed → failed = true := by
      intro all
      have marked : EndsAtGuard (· = true) stack := by
        intro f last
        obtain ⟨failed, same, ok⟩ := h f last
        exact ⟨failed, same, all failed ok⟩
      have found := marked.isSome_belowFailed some
      rw [intact] at found
      cases found
    cases result with
    | ok e =>
        refine ⟨h, ?_, fun all => absurd all notSilent⟩
        intro f failed
        cases failed
    | error f =>
        refine ⟨?_, fun _ _ => h.mark, fun all => absurd all notSilent⟩
        intro g last
        obtain ⟨failed, same, rfl⟩ := h.mark g last
        exact ⟨true, same, canFail⟩

theorem poll_one_guarded (host : Host φ ν) (canFail : allowed true) {m : Run φ ν}
    (h : EndsAtGuard allowed m.stack) :
    Guarded allowed (poll host 1 m).1 (poll host 1 m).2 := by
  rw [poll_one]
  obtain ⟨stack, w⟩ := m
  cases stack with
  | nil => exact .of_none rfl .nil
  | cons f rest =>
      by_cases alone : rest = []
      · subst alone
        obtain ⟨failed, rfl, -⟩ := h f rfl
        exact .of_none rfl .nil
      · have above := step_above host rest w f
        generalize Machine.step host ⟨f :: rest, w⟩ = s at above ⊢
        cases above with
        | @more pushed w' => exact .of_none rfl (h.append alone pushed)
        | @deliver result pushed w' =>
            refine .of_deliver canFail (h.append alone pushed) ?_
            exact fun none => alone (List.append_eq_nil_iff.1 none).2
        | @pending pushed w' => exact .of_none rfl (h.append alone pushed)

end Steps

/-- A run starts with its guard at the bottom, and keeps it. -/
theorem play_endsAtGuard (host : Host φ ν) (llm : Llm) (input : Input φ) (params : Json)
    (w : World φ ν) (moves : List (Move ν)) :
    EndsAtGuard (fun _ => True) (play host moves (start llm input params w)).2.stack := by
  have first : EndsAtGuard (fun _ => True) (start llm input params w).stack := by
    intro f last
    cases last
    exact ⟨false, rfl, trivial⟩
  exact play_preserves (fun m => EndsAtGuard (fun _ => True) m.stack)
    (fun _ kept => (poll_one_guarded host trivial kept).stays) (fun _ _ _ kept => kept) first

/-- A poll that answers with a failure leaves the guard marked. -/
theorem marked_of_poll_failed {host : Host φ ν} {fuel : Nat} {m : Run φ ν} {f : Fault}
    (h : EndsAtGuard (fun _ => True) m.stack) (failed : (poll host fuel m).1 = .failed f) :
    EndsAtGuard (· = true) (poll host fuel m).2.stack := by
  induction fuel generalizing m with
  | zero => cases failed
  | succ fuel ih =>
      have step := poll_one_guarded host trivial h
      rw [poll_succ] at failed ⊢
      split at failed
      next unanswered =>
        rw [if_pos unanswered]
        exact ih step.stays failed
      next answered =>
        rw [if_neg answered]
        exact step.marked f failed

/-- Once its guard is marked, a run hands out nothing more, and the prompt stays. -/
theorem play_after_failure (host : Host φ ν) {m : Run φ ν} (h : EndsAtGuard (· = true) m.stack)
    (moves : List (Move ν)) :
    handedOut (play host moves m).1 = [] ∧
      (play host moves m).2.world.scene.prompt = m.world.scene.prompt := by
  let holds : List (Except Fault Element) → Run φ ν → Prop :=
    fun items m => items = [] ∧ EndsAtGuard (· = true) m.stack
  have step : ∀ items m, holds items m →
      holds (items ++ (poll host 1 m).1.item?.toList) (poll host 1 m).2 := by
    rintro items m ⟨rfl, kept⟩
    have guarded := poll_one_guarded host (by rfl) kept
    rw [guarded.silent fun _ marked => marked]
    exact ⟨rfl, guarded.stays⟩
  have start : holds [] m := ⟨rfl, h⟩
  have nothing : handedOut (play host moves m).1 = [] :=
    (play_invariant step (fun _ _ _ _ kept => kept) start).1
  refine ⟨nothing, ?_⟩
  rw [play_prompt, elementsOf_eq, nothing]
  exact List.append_nil _

end Run

/-- A run that has failed hands out nothing more, whatever its consumer does, and
its prompt stays.  The poll after the failure ends it without acting exactly when
the work that the failure has left is clean, and then changes nothing in the
world. -/
theorem endsQuietly_after_failure_iff (host : Host φ ν) (llm : Llm) (input : Input φ)
    (params : Json) (w : World φ ν) (moves : List (Move ν)) (fuel : Nat) (f : Fault)
    (failed : (Run.poll host fuel
      (Run.play host moves (Run.start llm input params w)).2).1 = .failed f) :
    let m := (Run.poll host fuel (Run.play host moves (Run.start llm input params w)).2).2
    (EndsQuietly host m ↔ Clean m.world m.stack) ∧
      (Clean m.world m.stack → ∃ enough, ∀ fuel, enough ≤ fuel →
        Run.poll host fuel m = (.ended, ⟨[], m.world⟩)) ∧
      ∀ later, handedOut (Run.play host later m).1 = [] ∧
        (Run.play host later m).2.world.scene.prompt = m.world.scene.prompt := by
  intro m
  have rooted := Run.play_endsAtGuard host llm input params w moves
  have marked : EndsAtGuard (· = true) m.stack := Run.marked_of_poll_failed rooted failed
  refine ⟨endsQuietly_iff, ?_, Run.play_after_failure host marked⟩
  intro clean
  exact (EndsQuietly.of_clean clean).poll

/-- Author code of two kinds: futures that are rejected, and functions that push an
item to a queue. -/
def Host.rejecting : Host Bool Empty where
  call _ _ _ := (.text "late", [.push "q" (.text "late")])
  poll _ _ _ := (some (.error (.deferred "boom")), [])
  until? _ _ _ _ := (true, [])
  item _ _ _ := (.null, [])
  perform _ _ _ := (.emit [], [])

/-- Behind a rejected future `null` is passed over and the text ends the failed
list, so the function behind them is never called. -/
theorem endsQuietly_after_rejection :
    let items : List (Input Bool) :=
      [.deferred (.fresh false), .null, .text "unseen", .function true]
    let first := Run.poll Host.rejecting 9
      (Run.play Host.rejecting [] (Run.start default (.list items) .null {})).2
    first.1 = .failed (.deferred "boom") ∧ EndsQuietly Host.rejecting first.2 ∧
      ∀ later, handedOut (Run.play Host.rejecting later first.2).1 = [] := by
  intro items first
  have failed : first.1 = .failed (.deferred "boom") := rfl
  obtain ⟨quiet, -, silent⟩ := endsQuietly_after_failure_iff Host.rejecting default (.list items)
    .null {} [] 9 (.deferred "boom") failed
  refine ⟨failed, quiet.2 ?_, fun later => (silent later).1⟩
  have passedOver : Silent first.2.world [.null] := by
    intro i mem
    rw [List.mem_singleton.1 mem]
    exact .null
  have run : Clean first.2.world [Frame.guard true] := .silent rfl (fun _ mem => nomatch mem) .nil
  exact .spoken rfl ⟨[.null], .text "unseen", [.function true], rfl, passedOver, .text _⟩ rfl run

/-- The poll after a failure may act.  The function behind a rejected future is
called, though its text is not handed out, and a wait behind it is pending. -/
theorem acts_after_rejection :
    let failing (next : Input Bool) : Poll × Run Bool Empty := Run.poll Host.rejecting 9
      (Run.start default (.list [.deferred (.fresh false), next]) .null {})
    let called := failing (.function true)
    let waiting := failing (.action (.wait "q"))
    called.1 = .failed (.deferred "boom") ∧
      called.2.world.scene.state.item? "q" 0 = none ∧
      (Run.poll Host.rejecting 9 called.2).1 = .ended ∧
      (Run.poll Host.rejecting 9 called.2).2.world.scene.state.item? "q" 0 = some (.text "late") ∧
      waiting.1 = .failed (.deferred "boom") ∧
      (Run.poll Host.rejecting 9 waiting.2).1 = .pending := by
  intro failing called waiting
  exact ⟨rfl, rfl, rfl, rfl, rfl, rfl⟩

end PromptStream
