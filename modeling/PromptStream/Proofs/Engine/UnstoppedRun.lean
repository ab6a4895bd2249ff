import PromptStream.Proofs.Engine.GenerationRun
import PromptStream.Proofs.Generation.Unstopped

/-!
# Runs of a generation without a stop

A run of a generation that nothing stops takes in its whole completion.  If the
completion does not fail, the run records the gathered texts and has emitted the first
of them (`polls_of_healthy`).  If it fails, the run ends with that failure and leaves
the outputs as they were (`polls_of_failing`).
-/

namespace PromptStream

variable {φ ν : Type}

open Generation (Took Ended gathered)

/-- The first failure that a feed brings. -/
def Feed.failure? {α : Type} (feed : Feed α) : Option Fault :=
  feed.findSome? fun
    | .failed f => some f
    | _ => none

theorem Feed.failure?_append {α : Type} {before : Feed α} (healthy : ∀ f, .failed f ∉ before)
    (f : Fault) (after : Feed α) : Feed.failure? (before ++ .failed f :: after) = some f := by
  have nothing : Feed.failure? before = none := by
    refine List.findSome?_eq_none_iff.2 fun signal mem => ?_
    cases signal with
    | failed g => exact absurd mem (healthy g)
    | item a => rfl
    | pending => rfl
  rw [Feed.failure?] at nothing ⊢
  rw [List.findSome?_append, nothing]
  rfl

theorem error_not_mem_saidItems (role : Role) (said : List String) (f : Fault) :
    .error f ∉ saidItems role said := by
  intro mem
  obtain ⟨s, -, same⟩ := List.mem_map.1 mem
  cases same

/-- The polls of a run met no failure, emitted a text, and recorded a value. -/
structure Run.Gives (name : String) (props : Props) (w : World φ ν) (played : List Poll × Run φ ν)
    (text : String) (value : OutputValue) : Prop where
  healthy : ∀ f, .failed f ∉ played.1
  emitted : Prompt.text (elementsOf played.1) = text
  recorded : w.scene.outputs.Written props.context.outputAddress name value
    played.2.world.scene.outputs

section Unstopped

variable {name : String} {options : GenerationOptions} {props : Props} {w : World φ ν}

theorem worldAfter_outputs (said : List String) :
    (worldAfter name options props w said).scene.outputs = w.scene.outputs := by
  refine (World.sayAll_outputs _ _ said).trans ?_
  rw [askConnector, World.complete_scene]
  rfl

/-- A run whose completion does not fail hands out no failure. -/
theorem Phase.error_not_mem {items : List (Except Fault Element)} {m : Run φ ν}
    (h : Phase name options props w items m)
    (healthy : ∀ f, .failed f ∉ completionOf name options props w) (f : Fault) :
    .error f ∉ items := by
  intro mem
  cases h with
  | unstarted => cases mem
  | speaking => exact error_not_mem_saidItems _ _ f mem
  | recorded => exact error_not_mem_saidItems _ _ f mem
  | @failed heard left said g f' stack shape took goesOn winding =>
      refine healthy f' ?_
      rw [shape]
      exact List.mem_append_right _ List.mem_cons_self

variable (free : options.effectiveStop props.nextLiteral = none)

include free

theorem freshGeneration_of_free : freshGeneration name options props = .fresh name none := by
  rw [freshGeneration, free]

/-- A run that records a result has taken in its whole completion, without a failure. -/
theorem Phase.gathers {heard left : Feed Delta} {said : List String} {g : Generation}
    (feed : completionOf name options props w = heard ++ left)
    (ended : Ended (freshGeneration name options props) heard left said g) :
    (∀ f, .failed f ∉ completionOf name options props w) ∧
      g.texts = gathered (completionOf name options props w) ∧
      String.join said = choiceText 0 (completionOf name options props w) := by
  rw [freshGeneration_of_free free] at ended
  obtain ⟨rfl, texts, healthy, lead⟩ := ended.gathers
  rw [List.append_nil] at feed
  rw [feed]
  exact ⟨healthy, texts, lead⟩

/-- A completion that fails is heard up to its first failure. -/
theorem Phase.fails {heard left before after : Feed Delta} {said : List String} {g : Generation}
    {f f' : Fault} (feed : completionOf name options props w = heard ++ .failed f' :: left)
    (took : Took (freshGeneration name options props) heard said g)
    (failing : completionOf name options props w = before ++ .failed f :: after)
    (healthy : ∀ f, .failed f ∉ before) : f' = f := by
  rw [freshGeneration_of_free free] at took
  obtain ⟨-, -, heardHealthy⟩ := took.gathers
  have first := congrArg Feed.failure? (feed.symm.trans failing)
  rw [Feed.failure?_append heardHealthy, Feed.failure?_append healthy] at first
  exact Option.some.inj first

variable (host : Host φ ν) (fuels : List Nat)

/-- A generation whose completion does not fail ends without a failure.  It has emitted
what the completion brings for the first choice, and it records the gathered texts. -/
theorem Run.polls_of_healthy (healthy : ∀ f, .failed f ∉ completionOf name options props w) :
    let feed := completionOf name options props w
    let played := Run.polls host fuels (Run.ofGeneration name options props w)
    .ended ∈ played.1 →
      Run.Gives name props w played (choiceText 0 feed) (.ofTexts (gathered feed)) := by
  intro feed played atEnd
  have phase : Phase name options props w (handedOut played.1) played.2 := Phase.polls host fuels
  have noFailure := phase.error_not_mem healthy
  obtain ⟨heard, left, said, g, shape, ended, items, world⟩ :=
    phase.ended (Run.stack_of_ended_mem atEnd) noFailure
  obtain ⟨-, texts, lead⟩ := Phase.gathers free shape ended
  refine ⟨fun f failed => noFailure f (error_mem_handedOut_iff.2 failed), ?_, ?_⟩
  · rw [elementsOf_eq, items, okElements_saidItems, Prompt.text_saidElements]
    exact lead
  · have named : g.name = name := ended.name
    rw [world, ← texts, ← Generation.value_eq_ofTexts]
    exact recorded_written said named

/-- A generation whose completion fails never records anything, and it ends with the
first failure of the completion. -/
theorem Run.polls_of_failing {before after : Feed Delta} {f : Fault}
    (failing : completionOf name options props w = before ++ .failed f :: after)
    (healthy : ∀ f, .failed f ∉ before) :
    let played := Run.polls host fuels (Run.ofGeneration name options props w)
    played.2.world.scene.outputs = w.scene.outputs ∧
      (.ended ∈ played.1 → ∃ es : List Element, handedOut played.1 = es.map .ok ++ [.error f]) := by
  intro played
  have phase : Phase name options props w (handedOut played.1) played.2 := Phase.polls host fuels
  have atEnd : .ended ∈ played.1 → played.2.stack = [] := Run.stack_of_ended_mem
  generalize handedOut played.1 = items at phase ⊢
  generalize played.2 = m at phase atEnd ⊢
  cases phase with
  | unstarted => exact ⟨rfl, fun ended => nomatch atEnd ended⟩
  | speaking => exact ⟨worldAfter_outputs _, fun ended => nomatch atEnd ended⟩
  | @recorded heard left said g stack shape ended winding =>
      obtain ⟨never, -, -⟩ := Phase.gathers free shape ended
      refine absurd ?_ (never f)
      rw [failing]
      exact List.mem_append_right _ List.mem_cons_self
  | @failed heard left said g f' stack shape took goesOn winding =>
      obtain rfl := Phase.fails free shape took failing healthy
      refine ⟨worldAfter_outputs _, fun _ => ⟨said.map (saidElement props.context.role), ?_⟩⟩
      rw [saidItems, List.map_map]
      rfl

end Unstopped

end PromptStream
