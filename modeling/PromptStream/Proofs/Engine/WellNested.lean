import PromptStream.Proofs.Engine.TraceGrammar

/-!
# Well-nested runs

While nothing fails, the trace of a run is the beginning of a well-nested one that the
frames on its stack may still complete (`Run.Nests`).  At the end no frame is left, so the
trace is well nested itself (`wellNested_of_ended`).

The deltas of the trace are what models said.  To tell this from what outside streams hand
on in the name of a model, a run is observed along with the frame that hands out each of its
elements (`Run.told`).
-/

namespace PromptStream

variable {φ ν : Type}

/-! ## Where elements come from -/

namespace Run

variable {host : Host φ ν}

/-- The element that a poll hands out, if any, and whether an outside stream supplied it. -/
def told? (host : Host φ ν) : Nat → Run φ ν → Option (Element × Bool)
  | 0, _ => none
  | fuel + 1, m =>
      match Machine.step host m with
      | .more next => told? host fuel next
      | .item (.ok e) _ => some (e, m.stack.head?.any Frame.isFeed)
      | _ => none

/-- The elements that some moves make a run hand out, and which of them an outside stream
supplied. -/
def told (host : Host φ ν) : List (Move ν) → Run φ ν → List (Element × Bool)
  | [], _ => []
  | .poll fuel :: moves, m => (told? host fuel m).toList ++ told host moves (poll host fuel m).2
  | .write w :: moves, m => told host moves (m.write w)

theorem map_told? (fuel : Nat) (m : Run φ ν) :
    (told? host fuel m).map Prod.fst = (poll host fuel m).1.element? := by
  induction fuel generalizing m with
  | zero => rfl
  | succ fuel ih =>
      rw [told?, poll]
      cases Machine.step host m with
      | more m => exact ih m
      | item result m => cases result <;> rfl
      | pending m => rfl
      | ended m => rfl

/-- They are the elements of the answers. -/
theorem map_told (moves : List (Move ν)) (m : Run φ ν) :
    (told host moves m).map Prod.fst = elementsOf (play host moves m).1 := by
  induction moves generalizing m with
  | nil => rfl
  | cons move moves ih =>
      cases move with
      | poll fuel =>
          rw [told, play, List.map_append, ih, elementsOf, elementsOf, List.filterMap_cons,
            ← map_told?]
          cases told? host fuel m <;> rfl
      | write w => exact ih (m.write w)

theorem told?_succ (fuel : Nat) (m : Run φ ν) :
    told? host (fuel + 1) m
      = if (poll host 1 m).1 = .unanswered then told? host fuel (poll host 1 m).2
        else told? host 1 m := by
  rw [told?, told?, poll_one]
  cases Machine.step host m with
  | more m => rfl
  | item result m => cases result <;> rfl
  | pending m => rfl
  | ended m => rfl

section Invariant

variable {holds : List (Element × Bool) → Run φ ν → Prop}

/-- What a single step preserves that does not fail, a poll preserves that does not fail. -/
theorem poll_told
    (step : ∀ told m, holds told m → (∀ f, (poll host 1 m).1 ≠ .failed f) →
      holds (told ++ (told? host 1 m).toList) (poll host 1 m).2)
    (fuel : Nat) {told : List (Element × Bool)} {m : Run φ ν} (h : holds told m)
    (fine : ∀ f, (poll host fuel m).1 ≠ .failed f) :
    holds (told ++ (told? host fuel m).toList) (poll host fuel m).2 := by
  induction fuel generalizing told m with
  | zero => simpa [poll, told?] using h
  | succ fuel ih =>
      rw [poll_succ] at fine ⊢
      rw [told?_succ]
      split at fine
      next unanswered =>
        rw [if_pos unanswered, if_pos unanswered]
        have next := step told m h (by simp [unanswered])
        have silent : told? host 1 m = none := by
          have handed : (told? host 1 m).map Prod.fst = (poll host 1 m).1.element? := map_told? 1 m
          rw [unanswered] at handed
          exact Option.map_eq_none_iff.1 handed
        rw [silent, Option.toList_none, List.append_nil] at next
        exact ih next fine
      next answered =>
        rw [if_neg answered, if_neg answered]
        exact step told m h fine

/-- And a whole play in which nothing fails. -/
theorem play_told
    (step : ∀ told m, holds told m → (∀ f, (poll host 1 m).1 ≠ .failed f) →
      holds (told ++ (told? host 1 m).toList) (poll host 1 m).2)
    (write : ∀ told m w, holds told m → holds told (Run.write m w))
    {moves : List (Move ν)} {told : List (Element × Bool)} {m : Run φ ν} (h : holds told m)
    (fine : ∀ f, .failed f ∉ (play host moves m).1) :
    holds (told ++ Run.told host moves m) (play host moves m).2 := by
  induction moves generalizing told m with
  | nil => simpa [play, Run.told] using h
  | cons move moves ih =>
      cases move with
      | poll fuel =>
          rw [Run.told, ← List.append_assoc]
          refine ih (poll_told step fuel h fun f failed => ?_) fun f failed => ?_
          · exact fine f (failed ▸ List.mem_cons_self)
          · exact fine f (List.mem_cons_of_mem _ failed)
      | write w => exact ih (write told m w h) fine

end Invariant

end Run

/-- The texts that models said, without what outside streams supplied. -/
def modelTexts (told : List (Element × Bool)) : List String :=
  (told.filter fun x => x.1.source = .llm ∧ x.2 = false).map fun x => x.1.content

theorem modelTexts_append (told later : List (Element × Bool)) :
    modelTexts (told ++ later) = modelTexts told ++ modelTexts later := by
  rw [modelTexts, List.filter_append, List.map_append]
  rfl

theorem modelTexts_singleton (f : Frame φ) (e : Element) :
    modelTexts [(e, f.isFeed)] = f.spoken e := by
  rw [modelTexts, Frame.spoken]
  split <;> simp_all

/-! ## Traces that can be completed -/

/-- Nothing has failed, and the trace since some events can be completed by what the frames
on the stack may still report.  Its deltas are the texts that models said. -/
structure Run.Nests (before : List Event) (told : List (Element × Bool)) (m : Run φ ν) :
    Prop where
  sound : ∀ f ∈ m.stack, f.Sound
  trace : ∃ trace, m.world.scene.events = before ++ trace ∧
    (∀ es, Leaves m.stack es → WellNested (trace ++ es)) ∧ deltaTexts trace = modelTexts told

namespace Run.Nests

variable {before : List Event} {told : List (Element × Bool)}

theorem start (i : Input φ) (props : Props) (w : World φ ν) :
    Run.Nests w.scene.events [] ⟨Frame.guarded i props, w⟩ where
  sound f mem := (Frame.guarded_free i props f mem).2
  trace := ⟨[], (List.append_nil _).symm,
    fun _ left => wellNested_of_free (fun f mem => (Frame.guarded_free i props f mem).1) left, rfl⟩

/-- The frames that go on may complete what the trace has become. -/
theorem goOn {f : Frame φ} {rest p : List (Frame φ)} {w w' : World φ ν}
    (h : Run.Nests before told ⟨f :: rest, w⟩) {reported : List Event}
    (goes : f.GoesOn reported p) (events : w'.scene.events = w.scene.events ++ reported)
    {new : List (Element × Bool)} (said : deltaTexts reported = modelTexts new) :
    Run.Nests before (told ++ new) ⟨p ++ rest, w'⟩ := by
  obtain ⟨trace, sofar, completes, texts⟩ := h.trace
  refine ⟨fun g mem => ?_, trace ++ reported, ?_, fun es left => ?_, ?_⟩
  · rcases List.mem_append.1 mem with mem | mem
    · exact goes.sound g mem
    · exact h.sound g (List.mem_cons_of_mem _ mem)
  · rw [events, sofar, List.append_assoc]
  · obtain ⟨now, later, rfl, here, there⟩ := leaves_append.1 left
    have whole := completes _ ⟨_, later, rfl, goes.leaves now here, there⟩
    rwa [List.append_assoc, ← List.append_assoc reported]
  · rw [deltaTexts, List.filterMap_append, modelTexts_append, ← texts, ← said]
    rfl

/-- A step that does not fail. -/
theorem step {host : Host φ ν} {m : Run φ ν} (h : m.Nests before told)
    (between : ∀ f ∈ m.stack.head?, f.StopsBetween)
    (fine : ∀ f, (Run.poll host 1 m).1 ≠ .failed f) :
    (Run.poll host 1 m).2.Nests before (told ++ (Run.told? host 1 m).toList) := by
  obtain ⟨stack, w⟩ := m
  cases stack with
  | nil => simpa [Run.poll, Run.told?, Machine.step] using h
  | cons f rest =>
      have tells : f.Tells rest (f.reports host w) (Machine.step host ⟨f :: rest, w⟩) :=
        tells_step (fun g mem => h.sound g (List.mem_cons_of_mem _ mem))
          (h.sound f List.mem_cons_self) (between f rfl)
      have events := events_step host rest w f
      rw [Run.poll_one] at fine ⊢
      rw [Run.told?]
      generalize Machine.step host ⟨f :: rest, w⟩ = s at tells events fine
      cases tells with
      | more goes silent => exact h.goOn goes events silent
      | @element e p w' goes said =>
          have received : (w'.consume e).scene.events
              = w.scene.events ++ f.reports host w := events
          exact h.goOn goes received (said.trans (modelTexts_singleton f e).symm)
      | failed => exact absurd rfl (fine _)
      | pending goes silent => exact h.goOn goes events silent

theorem write {m : Run φ ν} (h : m.Nests before told) (x : Write ν) :
    (Run.write m x).Nests before told := by
  obtain ⟨trace, sofar, completes, texts⟩ := h.trace
  exact ⟨h.sound, trace, (World.events_writeAll m.world [x]).trans sofar, completes, texts⟩

end Run.Nests

/-! ## Whole runs -/

/-- A frame on top of a run of a tree starts a generation only with a stop that the tree
may come to hold. -/
theorem Tree.Holds.stopsBetween {t : Tree φ ν} {m : Run φ ν} (h : t.Holds m)
    (stops : ∀ {p name options stop}, t.Has p (.action (.generate name options)) →
      options.stop = some stop → stop.OnBoundaries) :
    ∀ f ∈ m.stack.head?, f.StopsBetween := by
  intro f top
  obtain ⟨stack, w⟩ := m
  obtain ⟨p, leads⟩ := h.leads
  cases leads with
  | nothing => cases top
  | frame leads works sees =>
      cases top
      cases works with
      | @input i props fromFunction has =>
          unfold Frame.StopsBetween
          split
          next same =>
            cases same
            exact fun stop active => stops has active
          next => trivial
      | _ => trivial

/-- In every run of a tree of built-in actions that comes to its end without a failure,
whatever the consumer and the outside do, the events form a well-nested trace, and its
deltas are, in order, the texts that models said and no outside stream supplied.  All that
is asked of a stop is that its matches begin between two characters, as those of every
regular expression do. -/
theorem wellNested_of_ended (t : Tree φ ν) (regular : t.Regular)
    (stops : ∀ {p name options stop}, t.Has p (.action (.generate name options)) →
      options.stop = some stop → stop.OnBoundaries) (moves : List (Move ν))
    (ended : .ended ∈ (Run.play t.host moves t.run).1)
    (fine : ∀ f, .failed f ∉ (Run.play t.host moves t.run).1) :
    let played := Run.play t.host moves t.run
    let told := Run.told t.host moves t.run
    told.map Prod.fst = elementsOf played.1 ∧
    ∃ trace, played.2.world.scene.events = t.world.scene.events ++ trace ∧ WellNested trace ∧
      deltaTexts trace
        = (told.filter fun x => x.1.source = .llm ∧ x.2 = false).map fun x => x.1.content := by
  intro played told
  have step : ∀ (told : List (Element × Bool)) (m : Run φ ν),
      t.Holds m ∧ m.Nests t.world.scene.events told →
      (∀ f, (Run.poll t.host 1 m).1 ≠ .failed f) →
      t.Holds (Run.poll t.host 1 m).2 ∧
        (Run.poll t.host 1 m).2.Nests t.world.scene.events
          (told ++ (Run.told? t.host 1 m).toList) := by
    rintro told m ⟨holds, nests⟩ fine
    refine ⟨?_, nests.step (holds.stopsBetween stops) fine⟩
    rw [Run.poll_one]
    exact (Tree.step_keeps regular holds.leads holds.futures).settle
  have nests := (Run.play_told step (fun _ m x h => ⟨⟨h.1.leads, h.1.futures⟩, h.2.write x⟩)
    ⟨t.holds_start, Run.Nests.start t.input t.props t.world⟩ fine).2
  obtain ⟨trace, events, completes, texts⟩ := nests.trace
  have whole := completes []
  rw [Run.stack_of_ended_mem_play ended, List.append_nil] at whole
  exact ⟨Run.map_told moves t.run, trace, events, whole rfl, texts⟩

/-- An outside stream in the name of a model, and a loop around a generation with a stop and
a wait.  What the stream supplied is no delta. -/
theorem wellNested_of_ended_of_stopped_chat :
    let stop := Stop.ofPattern ⟨"c", .one (.range 99 99)⟩
    let answer : Input Empty := .action (.generate "answer" { stop := some stop })
    let turn : Input Empty := .list [answer, .action (.wait "q")]
    let loop : Input Empty := .action (.loop "l" turn { maxIterations := some 1 })
    let t : Tree Empty Empty := {
      host := .none
      input := .list [.stream 0, loop]
      props := { context := (default : Llm).context }
      world := {
        connectors := [.scripted [[⟨0, "ab"⟩, ⟨0, "cd"⟩]]]
        streams := [some [.item ⟨"s", .llm, .user⟩]] } }
    let moves := [.poll 30, .poll 30, .poll 30, .poll 30, .write (.push "q" (.text "hi")),
      .poll 30, .poll 30]
    let played := Run.play t.host moves t.run
    (t.Regular ∧ .ended ∈ played.1 ∧ ∀ f, .failed f ∉ played.1) ∧
    ∃ trace, played.2.world.scene.events = trace ∧ WellNested trace ∧
      deltaTexts trace = ["a", "b"] := by
  intro stop answer turn loop t moves played
  have input : t.input.Regular := by
    refine .list fun i mem => ?_
    simp only [List.mem_cons, List.not_mem_nil, or_false] at mem
    rcases mem with rfl | rfl
    · exact .stream 0
    · refine .loop (.list fun i mem => ?_)
      simp only [List.mem_cons, List.not_mem_nil, or_false] at mem
      rcases mem with rfl | rfl
      · exact .generate _ _
      · exact .wait "q"
  have regular : t.Regular := Tree.regular_of_inputs input nofun nofun nofun nofun
  have held : ∀ {p i}, t.Has p i →
      i ∈ [t.input, .stream 0, loop, turn, answer, .action (.wait "q")] := by
    intro p i has
    induction has with
    | root => exact List.mem_cons_self
    | item _ found ih =>
        have mem := List.mem_of_getElem? found
        simp only [t, loop, turn, answer, List.mem_cons, Input.list.injEq, reduceCtorEq,
          List.not_mem_nil, or_false, false_or] at ih
        rcases ih with rfl | rfl
        · simp only [List.mem_cons, List.not_mem_nil, or_false] at mem
          rcases mem with rfl | rfl <;> simp [t, loop, turn, answer]
        · simp only [List.mem_cons, List.not_mem_nil, or_false] at mem
          rcases mem with rfl | rfl <;> simp [t, loop, turn, answer]
    | slot _ _ _ ih => simp [t, loop, turn, answer] at ih
    | body _ _ ih =>
        simp only [t, loop, turn, answer, List.mem_cons, Input.action.injEq, Action.loop.injEq,
          reduceCtorEq, List.not_mem_nil, or_false, false_or] at ih
        obtain ⟨rfl, rfl, rfl⟩ := ih
        simp [turn, answer]
    | mapped _ _ _ ih => simp [t, loop, turn, answer] at ih
    | returned _ _ _ _ ih => simp [t, loop, turn, answer] at ih
    | brought _ _ _ _ ih => simp [t, loop, turn, answer] at ih
    | shared _ _ ih => simp [t, loop, turn, answer] at ih
  have stops : ∀ {p name options stop}, t.Has p (.action (.generate name options)) →
      options.stop = some stop → stop.OnBoundaries := by
    intro p name options stop' has active
    have mem := held has
    simp only [t, loop, turn, answer, List.mem_cons, Input.action.injEq, Action.generate.injEq,
      reduceCtorEq, List.not_mem_nil, or_false, false_or] at mem
    obtain ⟨-, rfl⟩ := mem
    cases active
    exact Stop.onBoundaries_ofPattern _
  have answers : played.1 = [.element ⟨"s", .llm, .user⟩, .element ⟨"a", .llm, .user⟩,
      .element ⟨"b", .llm, .user⟩, .pending, .element ⟨"hi", .parameter, .user⟩, .ended] := by
    decide +kernel
  have told : Run.told t.host moves t.run = [(⟨"s", .llm, .user⟩, true),
      (⟨"a", .llm, .user⟩, false), (⟨"b", .llm, .user⟩, false),
      (⟨"hi", .parameter, .user⟩, false)] := by
    decide +kernel
  have ended : .ended ∈ played.1 := by simp [answers]
  have fine : ∀ f, .failed f ∉ played.1 := by simp [answers]
  obtain ⟨-, trace, events, nested, texts⟩ :=
    wellNested_of_ended t regular stops moves ended fine
  refine ⟨⟨regular, ended, fine⟩, trace, events, nested, ?_⟩
  rw [texts, told]
  decide

end PromptStream
