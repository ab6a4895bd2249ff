import PromptStream.Proofs.Engine.PushTiming
import PromptStream.Proofs.Engine.Reaching

/-!
# Runs that are pushed to

What an input brings when the items of its queues are all there from the start, it brings
as well when they are pushed while it runs (`Brings.play`).  The run waits where an item is
missing, and once the items are there it ends: it starves only where the machine that is
settled with its queues starves too, and that machine comes to its end (`ends_of_settled`).
-/

namespace PromptStream

variable {φ ν : Type}

theorem Run.play_append (host : Host φ ν) (moves moves' : List (Move ν)) (m : Run φ ν) :
    Run.play host (moves ++ moves') m
      = ((Run.play host moves m).1 ++ (Run.play host moves' (Run.play host moves m).2).1,
        (Run.play host moves' (Run.play host moves m).2).2) := by
  induction moves generalizing m with
  | nil => rfl
  | cons move moves ih =>
      cases move with
      | poll fuel =>
          rw [List.cons_append, Run.play, Run.play, ih]
          rfl
      | write x => exact ih _

section Settled

variable {host : Host φ ν} {m : Run φ ν} {n : Nat}

/-- A wait that finds nothing finds nothing however often it asks. -/
theorem Machine.Starves.drain (starves : m.Starves) (host : Host φ ν) (n : Nat) :
    (Consumer.recorder.drain host n m).2.stack ≠ [] := by
  induction n generalizing m with
  | zero =>
      obtain ⟨key, props, index, rest, shape, -⟩ := starves
      rw [Consumer.drain, shape]
      exact List.cons_ne_nil _ _
  | succ n ih =>
      obtain ⟨stack, w⟩ := m
      obtain ⟨key, props, index, rest, rfl, missing⟩ := starves
      have step : Machine.step host ⟨.waiting key props index :: rest, w⟩ = .pending _ :=
        stepWaiting_of_none rest w missing
      rw [Consumer.drain, step]
      refine ih ⟨key, props, _, rest, rfl, ?_⟩
      change (w.awaiting key props index).scene.state.item? key (waitIndex w props index) = none
      rw [World.awaiting_state]
      exact missing

/-- A run ends if the machine that is settled with its own queues does. -/
theorem ends_of_settled (blind : host.Blind) (never : host.NeverPushes)
    (fixes : FixesTop m.world.scene.state m.stack) {q : Dict (List Json)}
    (own : m.world.scene.state.queue = q)
    (ended : (Consumer.recorder.drain host.withoutPushes n (m.settled q)).2.stack = []) :
    (Consumer.recorder.drain host n m).2.stack = [] := by
  induction n generalizing m with
  | zero => exact List.map_eq_nil_iff.1 ended
  | succ n ih =>
      have sameState : (m.settled q).world.scene.state = m.world.scene.state := by
        rw [← own]
        rfl
      by_cases starves : m.Starves
      · -- Then the settled machine starves as well, and never ends.
        refine absurd ended (Machine.Starves.drain ?_ _ _)
        obtain ⟨stack, w⟩ := m
        obtain ⟨key, props, index, rest, rfl, missing⟩ := starves
        refine ⟨key, props, none, rest.map Frame.unasked, rfl, ?_⟩
        rw [sameState]
        exact (congrArg _ (waitIndex_settled q rest w fixes)).trans missing
      · have within : m.world.Within q := by
          rw [← own]
          exact fun _ => List.prefix_rfl
        rw [Consumer.drain, step_settled blind fixes within starves, Consumer.take_settled,
          Consumer.take_recorder] at ended
        rw [Consumer.drain, Consumer.take_recorder]
        refine ih ?_ ?_ ended
        · rw [Run.settle_state, Run.settle_stack]
          exact fixesTop_step host fixes
        · rw [Run.settle_state]
          exact (queue_of_neverPushes never (step_changes host m)).trans own

end Settled

/-- What an input brings at the root, its run leaves, whenever the items are pushed.  Polled
often enough after the last one, the run comes to its end. -/
theorem Brings.play {host : Host φ ν} {llm : Llm} {input : Input φ} {params : Json}
    {w : World φ ν} {post : List Element → World φ ν → Prop} {moves : List (Move ν)}
    (blind : host.Blind) (never : host.NeverPushes) (fresh : w.scene = {})
    (pushes : OnlyPushes moves)
    (h : ∀ q, (∀ key, (w.settled q).scene.state.items key = pushed key moves) →
      Brings host.withoutPushes (Run.start llm input params (w.settled q)) input
        ⟨llm.context, params, none⟩ (w.settled q) post) :
    (∃ many, ∀ fuels : List Nat, (∀ fuel ∈ fuels, 0 < fuel) → many < fuels.length →
      .ended ∈ (Run.play host (moves ++ fuels.map .poll) (Run.start llm input params w)).1) ∧
    (.ended ∈ (Run.play host moves (Run.start llm input params w)).1 →
      ∃ q items, handedOut (Run.play host moves (Run.start llm input params w)).1
          = items.map .ok ∧
        post items
          ((Run.play host moves (Run.start llm input params w)).2.world.settled q)) := by
  generalize played : Run.play host moves (Run.start llm input params w) = now
  generalize own : now.2.world.scene.state.queue = q
  have tidy : w.scene.state.Tidy := fresh ▸ RunState.Tidy.empty
  have follows : SettlesAs host q (Run.start llm input params w) _
      (Run.play host moves (Run.start llm input params w)).2 :=
    play_follows_settled blind (.guarded _ _ _) tidy pushes q
  rw [played] at follows
  have items : ∀ key, (w.settled q).scene.state.items key = pushed key moves := by
    intro key
    have left := Run.play_items never pushes (Run.start llm input params w) key
    have before : (Run.start llm input params w).world.scene.state.items key = [] :=
      congrArg (fun s : Scene ν => s.state.items key) fresh
    rw [played, before, List.nil_append] at left
    rw [← left, ← own]
    rfl
  have within : now.2.world.Within q := by
    rw [← own]
    exact fun _ => List.prefix_rfl
  obtain ⟨k, drained⟩ := follows.drained within
  obtain ⟨said, w', holds, left⟩ := h q items [.guard false] [] rfl (.refl _ _)
  have closed : Reaches host.withoutPushes (Run.start llm input params (w.settled q)) ([] ++ said)
      ⟨[], w'⟩ := left.more rfl
  obtain ⟨n, finished⟩ := closed
  refine ⟨⟨n, fun fuels positive enough => ?_⟩, fun ended => ?_⟩
  · -- The settled machine has come as far as this run, and its end is still ahead.
    have ahead : (Consumer.recorder.drain host.withoutPushes n (now.2.settled q)).2.stack = [] := by
      have both := Consumer.drain_add .recorder host.withoutPushes k n
        ((Run.start llm input params w).settled q)
      have swapped := Consumer.drain_add .recorder host.withoutPushes n k
        ((Run.start llm input params w).settled q)
      rw [Nat.add_comm n k, both, drained] at swapped
      rw [(Prod.mk.inj swapped).2]
      change (Consumer.recorder.drain _ k (Consumer.recorder.drain _ n
        (Run.start llm input params (w.settled q))).2).2.stack = []
      rw [finished, Consumer.drain_of_stack_nil rfl]
    have ends := ends_of_settled blind never follows.fixes own ahead
    rw [Run.play_append, played]
    exact List.mem_append_right _ (Consumer.ended_mem_polls_of_drain ends positive enough)
  · have noWork : (now.2.settled q).stack = [] := by
      rw [← played] at ended ⊢
      exact List.map_eq_nil_iff.2 (Run.stack_of_ended_mem_play ended)
    obtain ⟨handed, same⟩ := Consumer.drain_eq_of_ended drained finished noWork rfl
    have world : now.2.world.settled q = w' := congrArg Machine.world same
    exact ⟨q, said, handed, world ▸ holds⟩

end PromptStream
