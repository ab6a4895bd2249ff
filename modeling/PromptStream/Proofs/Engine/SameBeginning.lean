import PromptStream.Proofs.Engine.GenerationRun
import PromptStream.Proofs.Generation.HeldBack

/-!
# Completions with the same beginning

A generation asks its completion for one signal after another (`Run.asks` counts how often),
and what it does depends on nothing but the signals that it was brought.  So two runs of a
generation whose completions begin alike go through the same phases in step, as long as the
common beginning lasts (`Alike.step`).

If a generation does not go on with the common beginning, because a stop cuts it or a failure
comes, then the runs never ask for more than that.  So polls get the same answers from both
and leave the same scene behind, and both runs ask equally often (`Alike.polls`), whatever
comes later in either completion.
-/

namespace PromptStream

variable {φ ν : Type}

open Generation (Took)

/-! ## Asking a completion -/

namespace Run

/-- Whether the next step asks a completion for a signal. -/
def listens (m : Run φ ν) : Bool :=
  match m.stack with
  | .generation g _ _ :: _ => !g.done
  | _ => false

/-- How often a poll asks completions for a signal. -/
def asks (host : Host φ ν) : Nat → Run φ ν → Nat
  | 0, _ => 0
  | fuel + 1, m =>
      m.listens.toNat + match Machine.step host m with
        | .more m => asks host fuel m
        | _ => 0

/-- How often some polls ask completions for a signal. -/
def asksAll (host : Host φ ν) : List Nat → Run φ ν → Nat
  | [], _ => 0
  | fuel :: fuels, m => asks host fuel m + asksAll host fuels (poll host fuel m).2

theorem asks_succ (host : Host φ ν) (fuel : Nat) (m : Run φ ν) :
    asks host (fuel + 1) m
      = m.listens.toNat
        + if (poll host 1 m).1 = .unanswered then asks host fuel (poll host 1 m).2 else 0 := by
  rw [asks, poll_one]
  cases Machine.step host m with
  | more m => rfl
  | item result m => cases result <;> rfl
  | pending m => rfl
  | ended m => rfl

/-! ## Runs in step -/

section InStep

variable {host : Host φ ν} {alike : Nat → Run φ ν → Run φ ν → Prop}
  (step : ∀ k m m', alike k m m' → m.listens = m'.listens ∧
    (poll host 1 m).1 = (poll host 1 m').1 ∧
    alike (k + m.listens.toNat) (poll host 1 m).2 (poll host 1 m').2)
  {k : Nat} {m m' : Run φ ν}

include step

/-- Runs that stay in step for a single step do so for a poll. -/
theorem poll_in_step (fuel : Nat) (h : alike k m m') :
    (poll host fuel m).1 = (poll host fuel m').1 ∧ asks host fuel m = asks host fuel m' ∧
      alike (k + asks host fuel m) (poll host fuel m).2 (poll host fuel m').2 := by
  induction fuel generalizing k m m' with
  | zero => exact ⟨rfl, rfl, h⟩
  | succ fuel ih =>
      obtain ⟨listens, answers, next⟩ := step k m m' h
      rw [poll_succ, poll_succ host fuel m', asks_succ, asks_succ, ← answers, ← listens]
      split
      next unanswered =>
        obtain ⟨later, asked, last⟩ := ih next
        rw [← Nat.add_assoc]
        exact ⟨later, congrArg _ asked, last⟩
      next => exact ⟨answers, rfl, next⟩

/-- So they do for any number of polls. -/
theorem polls_in_step (fuels : List Nat) (h : alike k m m') :
    (polls host fuels m).1 = (polls host fuels m').1 ∧
      asksAll host fuels m = asksAll host fuels m' ∧
      alike (k + asksAll host fuels m) (polls host fuels m).2 (polls host fuels m').2 := by
  induction fuels generalizing k m m' with
  | nil => exact ⟨rfl, rfl, h⟩
  | cons fuel fuels ih =>
      obtain ⟨answer, asked, next⟩ := poll_in_step step fuel h
      obtain ⟨answers, askedLater, last⟩ := ih next
      rw [polls_cons, polls_cons, asksAll, asksAll, ← Nat.add_assoc, answer, answers]
      exact ⟨rfl, by rw [asked, askedLater], last⟩

end InStep

end Run

/-! ## Two runs of a generation -/

/-- What a delta leaves in the scene is known from the scene before it. -/
theorem heardDelta_scene_congr {w w' : World φ ν} (same : w.scene = w'.scene)
    (fresh : Option String) (g : Generation) (props : Props) (role : Role) :
    ((heardDelta fresh g props w).receiveFresh role fresh).scene
      = ((heardDelta fresh g props w').receiveFresh role fresh).scene := by
  unfold heardDelta
  cases fresh <;> split <;>
    simp [emitDelta, recordGeneration, World.receiveFresh, World.emit, World.record,
      World.consume, same]

namespace Run

variable (host : Host φ ν) {g : Generation} (props : Props) (feed : Feed Delta) (v : World φ ν)

theorem listens_of_generation (goesOn : g.done = false) (rest : List (Frame φ)) :
    listens ⟨.generation g props feed :: rest, v⟩ = true :=
  congrArg not goesOn

theorem poll_one_item (d : Delta) (goesOn : g.done = false) :
    poll host 1 ⟨[.generation g props (.item d :: feed), .guard false], v⟩
      = ((g.absorb d).1.elim .unanswered fun s => .element (saidElement props.context.role s),
        ⟨[.generation (g.absorb d).2 props feed, .guard false],
          (heardDelta (g.absorb d).1 (g.absorb d).2 props v).receiveFresh props.context.role
            (g.absorb d).1⟩) := by
  have step : Machine.step host ⟨[.generation g props (.item d :: feed), .guard false], v⟩
      = deliverFresh (g.absorb d).1 (g.absorb d).2 props feed [.guard false]
          (heardDelta (g.absorb d).1 (g.absorb d).2 props v) :=
    stepGeneration_item props feed [.guard false] v d goesOn
  rw [poll_one, step]
  cases (g.absorb d).1 <;> rfl

theorem poll_one_failed (f : Fault) (goesOn : g.done = false) :
    poll host 1 ⟨[.generation g props (.failed f :: feed), .guard false], v⟩
      = (.failed f, ⟨[.generation { g with done := true } props feed, .guard true], v⟩) := by
  have step : Machine.step host ⟨[.generation g props (.failed f :: feed), .guard false], v⟩
      = deliver (.error f) [.generation { g with done := true } props feed, .guard false] v :=
    stepGeneration_failed props feed [.guard false] v f goesOn
  rw [poll_one, step]
  rfl

theorem poll_one_pending (goesOn : g.done = false) :
    poll host 1 ⟨[.generation g props (.pending :: feed), .guard false], v⟩
      = (.pending, ⟨[.generation g props feed, .guard false], v⟩) := by
  have step : Machine.step host ⟨[.generation g props (.pending :: feed), .guard false], v⟩
      = .pending ⟨[.generation g props feed, .guard false], v⟩ :=
    stepGeneration_pending props feed [.guard false] v goesOn
  rw [poll_one, step]
  rfl

end Run

/-- The stacks of two runs whose generation is over.  They differ in what is left of the
completions. -/
inductive Leaving (props : Props) : List (Frame φ) → List (Frame φ) → Prop where
  | generation {g : Generation} {failed : Bool} {left left' : Feed Delta} : g.done = true →
      Leaving props [.generation g props left, .guard failed]
        [.generation g props left', .guard failed]
  | guard {failed : Bool} : Leaving props [.guard failed] [.guard failed]
  | nothing : Leaving props [] []

/-- Two runs of a generation whose completions have a common beginning, after each has asked
for so many signals. -/
inductive Alike (name : String) (options : GenerationOptions) (props : Props)
    (common later later' : Feed Delta) : Nat → Run φ ν → Run φ ν → Prop where
  | unstarted {w w' : World φ ν} : w.scene = w'.scene →
      completionOf name options props w = common ++ later →
      completionOf name options props w' = common ++ later' →
      Alike name options props common later later' 0 (Run.ofGeneration name options props w)
        (Run.ofGeneration name options props w')
  | listening {heard coming : Feed Delta} {said : List String} {g : Generation}
      {v v' : World φ ν} : common = heard ++ coming →
      Took (freshGeneration name options props) heard said g → g.done = false →
      v.scene = v'.scene →
      Alike name options props common later later' heard.length
        ⟨[.generation g props (coming ++ later), .guard false], v⟩
        ⟨[.generation g props (coming ++ later'), .guard false], v'⟩
  | finished {heard : Feed Delta} {stack stack' : List (Frame φ)} {v v' : World φ ν} :
      heard <+: common → ¬ (freshGeneration name options props).GoesOnWith heard →
      Leaving props stack stack' → v.scene = v'.scene →
      Alike name options props common later later' heard.length ⟨stack, v⟩ ⟨stack', v'⟩

/-- The most steps that a run still takes, if its generation is over by the end of the common
beginning. -/
def stepsAhead (common later : Feed Delta) : List (Frame φ) → Nat
  | [] => 0
  | .guard _ :: _ => 1
  | .generation g _ feed :: _ => if g.done then 2 else feed.length + 3 - later.length
  | _ => common.length + 4

theorem stepsAhead_listening {common later coming : Feed Delta} {signal : Signal Delta}
    {g : Generation} {props : Props} {rest : List (Frame φ)} (goesOn : g.done = false) :
    stepsAhead common later (.generation g props (signal :: (coming ++ later)) :: rest)
      = coming.length + 4 := by
  rw [stepsAhead, if_neg (ne_true_of_eq_false goesOn), List.length_cons, List.length_append]
  omega

/-- A generation that has heard more leaves less to do. -/
theorem stepsAhead_generation_lt {common later coming : Feed Delta} {g : Generation}
    {props : Props} {rest stack : List (Frame φ)}
    (before : coming.length + 4 ≤ stepsAhead common later stack) :
    stepsAhead common later (.generation g props (coming ++ later) :: rest)
      < stepsAhead common later stack := by
  rw [stepsAhead, List.length_append]
  split <;> omega

namespace Alike

variable {name : String} {options : GenerationOptions} {props : Props}
  {common later later' : Feed Delta} {k : Nat} {m m' : Run φ ν}

theorem scene (h : Alike name options props common later later' k m m') :
    m.world.scene = m'.world.scene := by
  cases h with
  | unstarted same _ _ => exact same
  | listening _ _ _ same => exact same
  | finished _ _ _ same => exact same

/-- The runs ask for nothing beyond the common beginning. -/
theorem asked_le (h : Alike name options props common later later' k m m') :
    k ≤ common.length := by
  cases h with
  | unstarted => exact Nat.zero_le _
  | listening shape => simp [shape]
  | finished stem => exact stem.length_le

/-- If a generation goes on with all of a beginning but its last signal, it has asked for that
one too when it is over. -/
theorem asked_eq {pre left : Feed Delta} {signal : Signal Delta}
    (goesOn : (freshGeneration name options props).GoesOnWith pre)
    (h : Alike name options props (pre ++ [signal]) later later' k m m')
    (winding : Winding props left m.stack) : k = pre.length + 1 := by
  cases h with
  | unstarted => cases winding
  | listening shape took running =>
      cases winding with
      | generation done =>
          rw [running] at done
          cases done
  | @finished heard _ _ _ _ stem never =>
      rcases List.prefix_concat_iff.1 stem with rfl | earlier
      · simp
      · exact absurd (goesOn.of_isPrefix earlier) never

/-! ### A step -/

/-- What two runs have heard alike, they go on with alike. -/
theorem next {heard coming : Feed Delta} {signal : Signal Delta} {said : List String}
    {g : Generation} {v v' : World φ ν} (shape : common = (heard ++ [signal]) ++ coming)
    (took : Took (freshGeneration name options props) (heard ++ [signal]) said g)
    (same : v.scene = v'.scene) :
    Alike name options props common later later' (heard.length + 1)
      ⟨[.generation g props (coming ++ later), .guard false], v⟩
      ⟨[.generation g props (coming ++ later'), .guard false], v'⟩ := by
  have count : heard.length + 1 = (heard ++ [signal]).length := by simp
  rw [count]
  cases done : g.done with
  | false => exact .listening shape took done same
  | true =>
      refine .finished ⟨coming, shape.symm⟩ ?_ (.generation done) same
      intro goesOn
      rw [goesOn.goesOn took] at done
      cases done

/-- A step does the same to both runs.  It ends them or leaves less to do, however much of a
completion comes after the common beginning. -/
theorem step (host : Host φ ν)
    (stops : ¬ (freshGeneration name options props).GoesOnWith common)
    (h : Alike name options props common later later' k m m') :
    m.listens = m'.listens ∧ (Run.poll host 1 m).1 = (Run.poll host 1 m').1 ∧
      Alike name options props common later later' (k + m.listens.toNat) (Run.poll host 1 m).2
        (Run.poll host 1 m').2 ∧
      ((Run.poll host 1 m).1 = .ended ∨
        stepsAhead common later (Run.poll host 1 m).2.stack < stepsAhead common later m.stack) := by
  cases h with
  | @unstarted w w' same begins begins' =>
      have asked : (worldAfter name options props w []).scene
          = (worldAfter name options props w' []).scene := by
        refine (World.complete_scene _ _ _).trans (Eq.trans ?_ (World.complete_scene _ _ _).symm)
        exact congrArg (Scene.emit · _) same
      rw [poll_one_unstarted, poll_one_unstarted, begins, begins']
      refine ⟨rfl, rfl, ?_, .inr (stepsAhead_generation_lt (Nat.le_refl _))⟩
      change Alike name options props common later later' ([] : Feed Delta).length _ _
      exact .listening rfl .start rfl asked
  | @listening heard coming said g v v' shape took goesOn same =>
      rw [Run.listens_of_generation props _ v goesOn, Run.listens_of_generation props _ v' goesOn]
      match coming with
      | [] =>
          rw [List.append_nil] at shape
          exact absurd ⟨said, g, shape ▸ took, goesOn⟩ stops
      | .item d :: coming =>
          rw [List.cons_append, List.cons_append, Run.poll_one_item host props _ v d goesOn,
            Run.poll_one_item host props _ v' d goesOn]
          refine ⟨rfl, rfl, ?_, .inr (stepsAhead_generation_lt ?_)⟩
          · exact next (by rw [shape, List.append_cons]) (took.item d goesOn)
              (heardDelta_scene_congr same _ _ props _)
          · exact (stepsAhead_listening goesOn).ge
      | .failed f :: coming =>
          rw [List.cons_append, List.cons_append, Run.poll_one_failed host props _ v f goesOn,
            Run.poll_one_failed host props _ v' f goesOn]
          refine ⟨rfl, rfl, ?_, .inr (stepsAhead_generation_lt ?_)⟩
          · have count : heard.length + 1 = (heard ++ [Signal.failed f]).length := by simp
            rw [Bool.toNat_true, count]
            exact .finished ⟨coming, by rw [shape, List.append_assoc]; rfl⟩
              (Generation.not_goesOnWith_of_failed _ heard f) (.generation rfl) same
          · exact (stepsAhead_listening goesOn).ge
      | .pending :: coming =>
          rw [List.cons_append, List.cons_append, Run.poll_one_pending host props _ v goesOn,
            Run.poll_one_pending host props _ v' goesOn]
          refine ⟨rfl, rfl, ?_, .inr (stepsAhead_generation_lt ?_)⟩
          · exact next (by rw [shape, List.append_cons]) (took.pending goesOn) same
          · exact (stepsAhead_listening goesOn).ge
  | @finished heard stack stack' v v' stem never leaving same =>
      cases leaving with
      | @generation g failed left left' done =>
          have spent : ∀ (feed : Feed Delta) (u : World φ ν), Run.poll host 1
              ⟨[.generation g props feed, .guard failed], u⟩
                = (.unanswered, ⟨[.guard failed], u⟩) := by
            intro feed u
            have step : Machine.step host ⟨[.generation g props feed, .guard failed], u⟩
                = .more ⟨[.guard failed], u⟩ :=
              stepGeneration_of_done props feed [.guard failed] u done
            rw [Run.poll_one, step]
            rfl
          have silent : ∀ (feed : Feed Delta) (u : World φ ν),
              Run.listens ⟨[.generation g props feed, .guard failed], u⟩ = false :=
            fun _ _ => congrArg not done
          rw [spent, spent, silent, silent]
          exact ⟨rfl, rfl, .finished stem never .guard same, .inr (by simp [stepsAhead, done])⟩
      | guard => exact ⟨rfl, rfl, .finished stem never .nothing same, .inr Nat.zero_lt_one⟩
      | nothing => exact ⟨rfl, rfl, .finished stem never .nothing same, .inl rfl⟩

/-! ### Polls -/

section Polls

variable (host : Host φ ν) (stops : ¬ (freshGeneration name options props).GoesOnWith common)

include stops

/-- Polls get the same answers from both runs and make both ask equally often. -/
theorem polls (fuels : List Nat) (h : Alike name options props common later later' k m m') :
    (Run.polls host fuels m).1 = (Run.polls host fuels m').1 ∧
      Run.asksAll host fuels m = Run.asksAll host fuels m' ∧
      Alike name options props common later later' (k + Run.asksAll host fuels m)
        (Run.polls host fuels m).2 (Run.polls host fuels m').2 :=
  Run.polls_in_step (fun _ _ _ alike => ⟨(alike.step host stops).1, (alike.step host stops).2.1,
    (alike.step host stops).2.2.1⟩) fuels h

/-- Both runs come to their end after so many polls as the common beginning asks for. -/
theorem ended_mem_polls (h : Alike name options props common later later' k m m')
    {fuels : List Nat} (positive : ∀ fuel ∈ fuels, 0 < fuel)
    (enough : stepsAhead common later m.stack < fuels.length) :
    .ended ∈ (Run.polls host fuels m).1 := by
  refine Run.ended_mem_polls
    (fun m => ∃ k m', Alike name options props common later later' k m m')
    (fun m => stepsAhead common later m.stack) ?_ positive ⟨k, m', h⟩ enough
  rintro m ⟨k, m', alike⟩
  obtain ⟨-, -, next, progress⟩ := alike.step host stops
  exact ⟨⟨_, _, next⟩, progress⟩

end Polls

end Alike

end PromptStream
