import PromptStream.Proofs.Engine.Settled

/-!
# The time of a push

When the items of its queues arrive makes no difference to a run.  Let a run have come to
its end under some moves, polls and pushes, and look at the queues that it has then.  The
items that it saw on its way were the first ones of these queues, at the same positions, so
up to then it did the steps of the machine that is settled with these queues
(`play_follows_settled`), which does not wait for anything.  That machine does not know of the
moves.  So any other moves under which the run comes to its end with the same items lead to
the same elements, requests, outputs and state, and to the same events but for those that
say that something is waited for (`same_run_of_same_queues`).

If author code pushes nothing, the items are those that the moves push.  If it does, its
pushes take part: what a function pushes may come before or after what is pushed from
outside (`other_element_of_later_push`).
-/

namespace PromptStream

variable {φ ν : Type}

/-! ## Moves that push -/

/-- The consumer polls and pushes, and does nothing else. -/
def OnlyPushes (moves : List (Move ν)) : Prop :=
  ∀ x, .write x ∈ moves → ∃ key item, x = .push key item

/-- Whether a move is a poll or a push. -/
def Move.pollsOrPushes : Move ν → Bool
  | .poll _ => true
  | .write x => x.pushes

theorem OnlyPushes.of_all {moves : List (Move ν)} (all : moves.all Move.pollsOrPushes = true) :
    OnlyPushes moves := by
  intro x mem
  have pushes := List.all_eq_true.1 all _ mem
  cases x with
  | push key item => exact ⟨key, item, rfl⟩
  | _ => cases pushes

/-- What some moves push to a queue, in order. -/
def pushed (key : String) (moves : List (Move ν)) : List Json :=
  moves.filterMap fun
    | .write (.push other item) => if other = key then some item else none
    | _ => none

section Queues

variable {host : Host φ ν}

/-- The polls of a run whose author code pushes nothing leave its queues alone. -/
theorem Run.poll_queue (never : host.NeverPushes) (fuel : Nat) (m : Run φ ν) :
    (Run.poll host fuel m).2.world.scene.state.queue = m.world.scene.state.queue := by
  have played : (Run.poll host fuel m).2 = (Run.play host [.poll fuel] m).2 := rfl
  rw [played]
  refine Run.play_preserves (fun n => n.world.scene.state.queue = m.world.scene.state.queue)
    ?_ ?_ rfl
  · intro n same
    rw [Run.poll_one, Run.settle_state]
    exact (queue_of_neverPushes never (step_changes host n)).trans same
  · intro x mem
    simp at mem

/-- So its queues hold what the moves push. -/
theorem Run.play_items (never : host.NeverPushes) {moves : List (Move ν)}
    (pushes : OnlyPushes moves) (m : Run φ ν) (key : String) :
    (Run.play host moves m).2.world.scene.state.items key
      = m.world.scene.state.items key ++ pushed key moves := by
  induction moves generalizing m with
  | nil => exact (List.append_nil _).symm
  | cons move moves ih =>
      have later : OnlyPushes moves := fun x mem => pushes x (List.mem_cons_of_mem _ mem)
      cases move with
      | poll fuel =>
          refine (ih later _).trans ?_
          rw [RunState.items_congr (Run.poll_queue never fuel m)]
          rfl
      | write x =>
          obtain ⟨other, item, rfl⟩ := pushes x List.mem_cons_self
          refine (ih later _).trans ?_
          change (m.world.scene.state.push other item).items key ++ _ = _
          by_cases same : other = key
          · subst same
            rw [RunState.items_push_self, List.append_assoc]
            simp [pushed]
          · rw [RunState.items_push_of_ne _ item same]
            simp [pushed, same]

end Queues

/-! ## The settled machine along a run -/

section Settled

variable {host : Host φ ν} {q : Dict (List Json)} {start m : Run φ ν}
  {items : List (Except Fault Element)}

/-- A run has come from `start` with the same elements as the machine that is settled with
some queues, if what its own queues hold is within them. -/
structure SettlesAs (host : Host φ ν) (q : Dict (List Json)) (start : Run φ ν)
    (items : List (Except Fault Element)) (m : Run φ ν) : Prop where
  fixes : FixesTop m.world.scene.state m.stack
  tidy : m.world.scene.state.Tidy
  drained : m.world.Within q → ∃ n,
    Consumer.recorder.drain host.withoutPushes n (start.settled q) = (items, m.settled q)

/-- A single poll: the settled machine does the same step, or none if an item is missing. -/
theorem SettlesAs.step (blind : host.Blind) (h : SettlesAs host q start items m) :
    SettlesAs host q start (items ++ (Run.poll host 1 m).1.item?.toList)
      (Run.poll host 1 m).2 := by
  have changes := step_changes host m
  rw [Run.poll_one]
  refine ⟨?_, ?_, fun within => ?_⟩
  · rw [Run.settle_state, Run.settle_stack]
    exact fixesTop_step host h.fixes
  · rw [Run.settle_state]
    exact tidy_of_changes changes h.tidy
  · have before : m.world.Within q := by
      intro key
      have grown := within key
      rw [Run.settle_state] at grown
      exact (items_prefix_of_changes changes key).trans grown
    obtain ⟨n, drained⟩ := h.drained before
    by_cases starves : m.Starves
    · obtain ⟨m', missing, same⟩ := step_settled_of_starves host q starves
      refine ⟨n, ?_⟩
      rw [missing, drained, ← same]
      exact Prod.ext (List.append_nil items).symm rfl
    · refine ⟨n + 1, ?_⟩
      rw [Consumer.drain_add, drained, Consumer.drain, Consumer.drain,
        step_settled blind h.fixes before starves, Consumer.take_settled, Consumer.take_recorder]
      simp only [List.append_nil]

/-- A push from outside: the settled machine has the item already. -/
theorem SettlesAs.push (h : SettlesAs host q start items m) (key : String) (item : Json) :
    SettlesAs host q start items (Run.write m (.push key item)) where
  fixes := h.fixes.of_loops rfl
  tidy := h.tidy.push key item
  drained within :=
    h.drained fun other => (RunState.items_prefix_push _ key item other).trans (within other)

theorem play_follows_settled (blind : host.Blind)
    (fixes : FixesTop start.world.scene.state start.stack) (tidy : start.world.scene.state.Tidy)
    {moves : List (Move ν)} (pushes : OnlyPushes moves) (q : Dict (List Json)) :
    SettlesAs host q start (handedOut (Run.play host moves start).1)
      (Run.play host moves start).2 := by
  have begun : SettlesAs host q start [] start := ⟨fixes, tidy, fun _ => ⟨0, rfl⟩⟩
  have written : ∀ x, .write x ∈ moves → ∀ items m, SettlesAs host q start items m →
      SettlesAs host q start items (Run.write m x) := by
    intro x mem items m h
    obtain ⟨key, item, rfl⟩ := pushes x mem
    exact h.push key item
  exact Run.play_invariant (fun _ _ h => h.step blind) written begun

end Settled

/-! ## Any two schedules -/

/-- Two schedules under which a run ends and its queues hold the same, as they do in
particular when author code pushes nothing and the schedules push the same items to every
queue, lead to the same elements and failures, the same requests, the same outputs and state
and the same events, but for what is waited for. -/
theorem same_run_of_same_queues (host : Host φ ν) (blind : host.Blind) (llm : Llm)
    (input : Input φ) (params : Json) (world : World φ ν) (fresh : world.scene = {})
    (moves moves' : List (Move ν)) (pushes : OnlyPushes moves) (pushes' : OnlyPushes moves') :
    let played := Run.play host moves (Run.start llm input params world)
    let played' := Run.play host moves' (Run.start llm input params world)
    let s := played.2.world.scene
    let s' := played'.2.world.scene
    (host.NeverPushes ∧ ∀ key, pushed key moves = pushed key moves')
        ∨ (∀ key, s.state.items key = s'.state.items key) →
      .ended ∈ played.1 → .ended ∈ played'.1 →
      handedOut played.1 = handedOut played'.1 ∧
        played.2.world.connectors = played'.2.world.connectors ∧
        s.outputs = s'.outputs ∧ s.state = s'.state ∧ s.prompt = s'.prompt ∧
        s.events.filter (fun e => !e.waits) = s'.events.filter fun e => !e.waits := by
  intro played played' s s' alike ended ended'
  have items : ∀ key, s.state.items key = s'.state.items key := by
    rcases alike with ⟨never, same⟩ | items
    · intro key
      exact (Run.play_items never pushes _ key).trans
        ((congrArg _ (same key)).trans (Run.play_items never pushes' _ key).symm)
    · exact items
  have tidy : world.scene.state.Tidy := fresh ▸ RunState.Tidy.empty
  -- Both runs follow the machine that is settled with the queues of the first one.
  have follows : SettlesAs host s.state.queue (Run.start llm input params world) _ played.2 :=
    play_follows_settled blind (.guarded _ _ _) tidy pushes s.state.queue
  have follows' : SettlesAs host s.state.queue (Run.start llm input params world) _ played'.2 :=
    play_follows_settled blind (.guarded _ _ _) tidy pushes' s.state.queue
  have within : played.2.world.Within s.state.queue := fun _ => List.prefix_rfl
  have within' : played'.2.world.Within s.state.queue := by
    intro key
    rw [← items key]
    exact List.prefix_rfl
  obtain ⟨n, drained⟩ := follows.drained within
  obtain ⟨k, drained'⟩ := follows'.drained within'
  have noWork : (played.2.settled s.state.queue).stack = [] :=
    List.map_eq_nil_iff.2 (Run.stack_of_ended_mem_play ended)
  have noWork' : (played'.2.settled s.state.queue).stack = [] :=
    List.map_eq_nil_iff.2 (Run.stack_of_ended_mem_play ended')
  obtain ⟨handed, same⟩ := Consumer.drain_eq_of_ended drained drained' noWork noWork'
  -- What settling leaves alone is the same in both worlds.
  have world := congrArg Machine.world same
  have scene : s.settled s.state.queue = s'.settled s.state.queue := congrArg World.scene world
  have loops := congrArg (fun s : Scene ν => s.state.loops) scene
  have queue : s.state.queue = s'.state.queue := follows.tidy.queue_ext follows'.tidy items
  have state : s.state = s'.state := congrArg₂ RunState.mk loops queue
  refine ⟨handed, (congrArg World.connectors world :), (congrArg Scene.outputs scene :), state,
    (congrArg Scene.prompt scene :), ?_⟩
  rw [← Scene.events_settled s.state.queue, ← Scene.events_settled s.state.queue, scene]

/-- A loop of two waits, once with the items pushed before the run and once with each pushed
when it is waited for, between pushes to another queue. -/
theorem same_run_of_two_schedules :
    let loop : Input Empty := .action (.loop "l" (.action (.wait "q")) { maxIterations := some 2 })
    let early : List (Move Empty) :=
      [.write (.push "q" (.text "a")), .write (.push "r" (.text "x")),
        .write (.push "q" (.text "b")), .poll 40, .poll 40, .poll 40]
    let late : List (Move Empty) :=
      [.poll 40, .write (.push "q" (.text "a")), .poll 40, .poll 40,
        .write (.push "r" (.text "x")), .poll 40, .write (.push "q" (.text "b")), .poll 40,
        .poll 40]
    let played := Run.play .none early (Run.start default loop .null {})
    let played' := Run.play .none late (Run.start default loop .null {})
    .ended ∈ played.1 ∧ .ended ∈ played'.1 ∧ played.1 ≠ played'.1 ∧
      handedOut played.1 = handedOut played'.1 ∧
      played.2.world.scene.outputs = played'.2.world.scene.outputs ∧
      played.2.world.scene.state = played'.2.world.scene.state := by
  intro loop early late
  have first : (Run.play .none early (Run.start default loop .null {})).1
      = [.element ⟨"a", .parameter, .user⟩, .element ⟨"b", .parameter, .user⟩, .ended] := rfl
  have second : (Run.play .none late (Run.start default loop .null {})).1
      = [.pending, .element ⟨"a", .parameter, .user⟩, .pending, .pending,
          .element ⟨"b", .parameter, .user⟩, .ended] := by decide +kernel
  have ended : .ended ∈ (Run.play .none early (Run.start default loop .null {})).1 := by
    simp [first]
  have ended' : .ended ∈ (Run.play .none late (Run.start default loop .null {})).1 := by
    simp [second]
  have differ : (Run.play .none early (Run.start default loop .null {})).1
      ≠ (Run.play .none late (Run.start default loop .null {})).1 := by
    rw [first, second]
    decide
  have pushes : OnlyPushes early := .of_all rfl
  have pushes' : OnlyPushes late := .of_all rfl
  have never : (Host.none : Host Empty Empty).NeverPushes := fun _ _ => Host.none_asks _
  have same : ∀ key, pushed key early = pushed key late := by
    intro key
    simp only [pushed, early, late, List.filterMap_cons, List.filterMap_nil]
  obtain ⟨handed, -, outputs, state, -⟩ :=
    same_run_of_same_queues .none Host.none_blind default loop .null {}
    rfl early late pushes pushes' (.inl ⟨never, same⟩) ended ended'
  exact ⟨ended, ended', differ, handed, outputs, state⟩

/-- A function pushes to a queue, and then an item of it is waited for.  An item that is
pushed before the run comes first; the same one pushed later is never reached. -/
theorem other_element_of_later_push :
    let input : Input Unit :=
      .list [.function (), .action (.wait "q"), .action (.wait "r")]
    let host : Host Unit Empty := {
      call := fun _ _ _ => (.null, [.push "q" (.text "f")])
      poll := fun _ _ _ => (none, [])
      until? := fun _ _ _ _ => (false, [])
      item := fun _ _ _ => (.null, [])
      perform := fun _ _ _ => (.emit [], []) }
    let early : List (Move Empty) :=
      [.write (.push "q" (.text "x")), .write (.push "r" (.text "y")), .poll 40, .poll 40, .poll 40]
    let late : List (Move Empty) :=
      [.poll 40, .write (.push "q" (.text "x")), .write (.push "r" (.text "y")), .poll 40, .poll 40]
    let played := Run.play host early (Run.start default input .null {})
    let played' := Run.play host late (Run.start default input .null {})
    host.Blind ∧ (∀ key, pushed key early = pushed key late) ∧
      .ended ∈ played.1 ∧ .ended ∈ played'.1 ∧
      elementsOf played.1 = [⟨"x", .parameter, .user⟩, ⟨"y", .parameter, .user⟩] ∧
      elementsOf played'.1 = [⟨"f", .parameter, .user⟩, ⟨"y", .parameter, .user⟩] := by
  intro input host early late played played'
  have first : played.1
      = [.element ⟨"x", .parameter, .user⟩, .element ⟨"y", .parameter, .user⟩, .ended] := rfl
  have second : played'.1
      = [.element ⟨"f", .parameter, .user⟩, .element ⟨"y", .parameter, .user⟩, .ended] := rfl
  refine ⟨⟨?_, ?_, ?_, ?_, ?_⟩, fun _ => rfl, ?_, ?_, ?_, ?_⟩
  all_goals first | exact fun _ _ _ _ => rfl | exact fun _ _ _ _ _ => rfl | skip
  · simp [first]
  · simp [second]
  · rw [first]
    rfl
  · rw [second]
    rfl

end PromptStream
