import PromptStream.Proofs.Engine.Play
import PromptStream.Proofs.Engine.Step

/-!
# The consumed prompt

The prompt of a run is what its consumer has received, and a request holds
exactly that.  An element joins the prompt when the consumer receives it, which
ends the poll; so every request made during a poll holds what was received
before the poll began, however deep in the tree it is made.

No step changes the prompt (`World.Advances.prompt`), and a request is made with
the prompt of the moment (`World.Advances.asked`).  A poll is a chain of steps in
which only the last one hands out an element.
-/

namespace PromptStream

variable {φ ν : Type}

namespace Run

/-- What a poll does to the consumed prompt and to the connectors. -/
structure PollKeeps (m : Run φ ν) (answer : Poll) (m' : Run φ ν) : Prop where
  /-- The element of the answer joins the prompt. -/
  prompt : m'.world.scene.prompt = m.world.scene.prompt ++ answer.element?.toList
  /-- Requests hold the prompt from before the poll. -/
  asked : m.world.AskedWith m.world.scene.prompt m'.world

/-- A step that goes on or finds nothing hands out nothing. -/
theorem PollKeeps.of_advances {m n : Run φ ν} {answer : Poll} (none : answer.element? = none)
    (h : m.world.Advances n.world) : PollKeeps m answer n := by
  refine ⟨?_, h.asked⟩
  rw [none, h.prompt]
  exact (List.append_nil _).symm

/-- A delivered element joins the prompt when the consumer receives it, unless a
sequence has failed. -/
theorem PollKeeps.of_deliver {m : Run φ ν} {result : Except Fault Element}
    {stack : List (Frame φ)} {w : World φ ν} (h : m.world.Advances w) :
    PollKeeps m (settle (deliver result stack w)).1 (settle (deliver result stack w)).2 := by
  unfold deliver
  split
  next below _ => exact .of_advances (n := ⟨below, w⟩) rfl h
  next =>
    cases result with
    | ok e =>
        refine ⟨?_, h.asked.trans (World.AskedWith.of_eq rfl)⟩
        exact congrArg (· ++ [e]) h.prompt
    | error f => exact .of_advances (n := ⟨stack.map Frame.mark, w⟩) rfl h

theorem poll_one_keeps (host : Host φ ν) (m : Run φ ν) :
    PollKeeps m (poll host 1 m).1 (poll host 1 m).2 := by
  rw [poll_one]
  obtain ⟨stack, w⟩ := m
  cases stack with
  | nil => exact .of_advances rfl (World.Advances.refl w)
  | cons f rest =>
      have above := step_above host rest w f
      generalize Machine.step host ⟨f :: rest, w⟩ = s at above ⊢
      cases above with
      | more h => exact .of_advances rfl h
      | deliver h => exact .of_deliver h
      | pending h => exact .of_advances rfl h

theorem poll_keeps (host : Host φ ν) (fuel : Nat) (m : Run φ ν) :
    PollKeeps m (poll host fuel m).1 (poll host fuel m).2 := by
  induction fuel generalizing m with
  | zero => exact .of_advances rfl (World.Advances.refl m.world)
  | succ fuel ih =>
      have first := poll_one_keeps host m
      rw [poll_succ]
      split
      next unanswered =>
        -- The first step hands out nothing, so the rest of the poll starts from the same prompt.
        have same : (poll host 1 m).2.world.scene.prompt = m.world.scene.prompt := by
          have prompt := first.prompt
          rw [unanswered] at prompt
          exact prompt.trans (List.append_nil _)
        have later := ih (poll host 1 m).2
        refine ⟨?_, first.asked.trans ?_⟩
        · rw [later.prompt, same]
        · rw [← same]
          exact later.asked
      next => exact first

/-- Writing from outside leaves the prompt alone. -/
theorem write_prompt (m : Run φ ν) (w : Write ν) :
    (write m w).world.scene.prompt = m.world.scene.prompt := by
  cases w <;> rfl

/-- After any moves the prompt has grown by the elements received. -/
theorem play_prompt (host : Host φ ν) (moves : List (Move ν)) (m : Run φ ν) :
    (play host moves m).2.world.scene.prompt
      = m.world.scene.prompt ++ elementsOf (play host moves m).1 := by
  induction moves generalizing m with
  | nil => exact (List.append_nil _).symm
  | cons move moves ih =>
      cases move with
      | poll fuel =>
          simp only [play]
          rw [ih, (poll_keeps host fuel m).prompt, elementsOf, elementsOf, List.filterMap_cons,
            List.append_assoc]
          cases (poll host fuel m).1.element? <;> rfl
      | write w =>
          simp only [play]
          rw [ih, write_prompt]

end Run

/-- After any moves of its consumer, the prompt of a run is the list of elements
that the consumer has received, and every request that the next poll makes holds
exactly these elements. -/
theorem request_prompt_eq_received (host : Host φ ν) (llm : Llm) (input : Input φ)
    (params : Json) (connectors : List Connector) (streams : List (Option (Feed Element)))
    (futures : List (FutureCell φ)) (moves : List (Move ν)) :
    let start := Run.start llm input params
      { connectors := connectors, streams := streams, futures := futures }
    let played := Run.play host moves start
    played.2.world.scene.prompt = elementsOf played.1 ∧
      ∀ fuel, played.2.world.AskedWith (elementsOf played.1)
        (Run.poll host fuel played.2).2.world := by
  intro start played
  have prompt : played.2.world.scene.prompt = elementsOf played.1 := by
    have grown := Run.play_prompt host moves start
    rwa [show start.world.scene.prompt = [] from rfl, List.nil_append] at grown
  refine ⟨prompt, fun fuel => ?_⟩
  rw [← prompt]
  exact (Run.poll_keeps host fuel played.2).asked

end PromptStream
