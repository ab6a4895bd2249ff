import PromptStream.Proofs.Engine.UnstoppedRun
import PromptStream.Proofs.Generation.Room
import PromptStream.Proofs.Text.Occurrence

/-!
# Runs of a generation of several choices

A run of a generation without a stop hands out the deltas of the first choice, one element
for each, and records one text for every choice.  All that it hands out, reports and
records is known from what the completion brings for each choice, so the way in which the
choices are interleaved makes no difference (`Run.choices_of_healthy`).  A stop that
matches nothing in the first choice cuts the others in the recorded result.
-/

namespace PromptStream

variable {φ ν : Type}

open Generation (AllFit Took Ended shownTexts)

/-- The polls of a run met no failure, handed out some elements, reported some events, and
recorded a value. -/
structure Run.Yields (name : String) (props : Props) (w : World φ ν)
    (played : List Poll × Run φ ν) (elements : List Element) (events : List Event)
    (value : OutputValue) : Prop where
  healthy : ∀ f, .failed f ∉ played.1
  handedOut : elementsOf played.1 = elements
  reported : played.2.world.scene.events = w.scene.events ++ events
  recorded : w.scene.outputs.Written props.context.outputAddress name value
    played.2.world.scene.outputs

/-- What a generation reports that said some texts of a first choice. -/
def generationEvents (name : String) (props : Props) (said : List String) (lead : String)
    (choices : Nat) : List Event :=
  .generationStarted name props.context.outputAddress props.context.role
    :: said.map (fun s => .generationDelta name s)
    ++ [.generationFinished name lead choices]

section Runs

variable {name : String} {options : GenerationOptions} {props : Props} {w : World φ ν}

/-- A run whose completion does not fail, and in which no stop matches the first choice,
takes in all of its completion and leaves a text for every choice. -/
theorem Run.yields_of_passes (host : Host φ ν) (fuels : List Nat)
    (healthy : ∀ f, .failed f ∉ completionOf name options props w)
    (passes : ∀ s, options.effectiveStop props.nextLiteral = some s →
      s.Passes (completionOf name options props w)) :
    let feed := completionOf name options props w
    let played := Run.polls host fuels (Run.ofGeneration name options props w)
    .ended ∈ played.1 → ∃ said g, Ended (freshGeneration name options props) feed [] said g ∧
      Run.Yields name props w played (said.map (saidElement props.context.role))
        (generationEvents name props said (choiceText 0 feed) (topChoice feed + 1))
        (.ofChoices (topChoice feed) fun choice =>
          Stop.recorded (options.effectiveStop props.nextLiteral) choice
            (choiceText choice feed)) := by
  intro feed played atEnd
  have phase : Phase name options props w (handedOut played.1) played.2 := Phase.polls host fuels
  have noFailure := phase.error_not_mem healthy
  obtain ⟨heard, left, said, g, shape, ended, items, world⟩ :=
    phase.ended (Run.stack_of_ended_mem atEnd) noFailure
  rw [shape] at passes
  obtain ⟨rfl, lead, choices, value⟩ := Ended.of_passes passes ended
  rw [List.append_nil] at shape
  rw [show feed = heard from shape]
  have named : g.name = name := ended.name
  refine ⟨said, g, ended, ?_, ?_, ?_, ?_⟩
  · exact fun f failed => noFailure f (error_mem_handedOut_iff.2 failed)
  · rw [elementsOf_eq, items, okElements_saidItems]
  · rw [world, recorded_events, named, lead, choices, List.append_assoc]
    rfl
  · rw [world, ← value]
    exact recorded_written said named

/-- Without a stop a run hands out the deltas of the first choice that are not empty, and
records a text for every choice. -/
theorem Run.yields_of_free (host : Host φ ν) (fuels : List Nat)
    (free : options.effectiveStop props.nextLiteral = none)
    (healthy : ∀ f, .failed f ∉ completionOf name options props w) :
    let feed := completionOf name options props w
    let played := Run.polls host fuels (Run.ofGeneration name options props w)
    let said := shownTexts (choiceTexts 0 feed)
    .ended ∈ played.1 → Run.Yields name props w played (said.map (saidElement props.context.role))
      (generationEvents name props said (choiceText 0 feed) (topChoice feed + 1))
      (.ofChoices (topChoice feed) fun choice => choiceText choice feed) := by
  intro feed played said atEnd
  have passes : ∀ s, options.effectiveStop props.nextLiteral = some s → s.Passes feed :=
    fun s active => absurd (free.symm.trans active) (Option.some_ne_none s).symm
  obtain ⟨said', g, ended, yields⟩ := Run.yields_of_passes host fuels healthy passes atEnd
  rw [freshGeneration_of_free free] at ended
  obtain rfl : said' = said := ended.said_eq
  simp only [free, Stop.recorded_none] at yields
  exact yields

end Runs

/-- A generation whose completion does not fail and does not give a choice the largest number of
all, polled in any way until it ends.  There is room for every choice that is named, and enough
polls come to the end.

Without a stop its elements are the deltas of the first choice that are not empty, one for
each, in order, and the result is the text of the first choice if no other was named, and
else a list with a text for every choice up to the largest that was named, empty where
nothing was brought.  Any other completion that brings the same deltas for each choice
leads to the same elements, events and result.

With a stop that matches nothing in the first choice as it grows, the result is the same
but for the other choices, each of which is cut where the stop first matches. -/
theorem Run.choices_of_healthy (host : Host φ ν) (name : String) (options : GenerationOptions)
    (props : Props) (w : World φ ν) (fuels : List Nat)
    (healthy : ∀ f, .failed f ∉ completionOf name options props w)
    (countable : (completionOf name options props w).Countable) :
    let feed := completionOf name options props w
    let played := Run.polls host fuels (Run.ofGeneration name options props w)
    let said := shownTexts (choiceTexts 0 feed)
    let elements := said.map (saidElement props.context.role)
    let events := generationEvents name props said (choiceText 0 feed) (topChoice feed + 1)
    let value := OutputValue.ofChoices (topChoice feed) fun choice => choiceText choice feed
    (options.effectiveStop props.nextLiteral = none →
      (.ended ∈ played.1 → Run.Yields name props w played elements events value) ∧
      ∀ (host' : Host φ ν) (w' : World φ ν) (fuels' : List Nat),
        let feed' := completionOf name options props w'
        let played' := Run.polls host' fuels' (Run.ofGeneration name options props w')
        (∀ f, .failed f ∉ feed') → (∀ choice, choiceTexts choice feed' = choiceTexts choice feed) →
        .ended ∈ played'.1 → Run.Yields name props w' played' elements events value) ∧
    (∀ stop, options.effectiveStop props.nextLiteral = some stop → stop.Passes feed →
      .ended ∈ played.1 →
        (∀ f, .failed f ∉ played.1) ∧
        w.scene.outputs.Written props.context.outputAddress name
          (.ofChoices (topChoice feed) fun choice =>
            Stop.recorded (some stop) choice (choiceText choice feed))
          played.2.world.scene.outputs) ∧
    AllFit (freshGeneration name options props) feed ∧
    ((∀ fuel ∈ fuels, 0 < fuel) → feed.length + 4 < fuels.length → .ended ∈ played.1) := by
  intro feed played said elements events value
  refine ⟨fun free => ⟨Run.yields_of_free host fuels free healthy, ?_⟩, ?_,
    Generation.allFit_of_countable name _ countable, Phase.ended_mem_polls host⟩
  · intro host' w' fuels' feed' played' healthy' same atEnd
    have texts : ∀ choice, choiceText choice feed' = choiceText choice feed :=
      fun choice => congrArg String.join (same choice)
    have yields : Run.Yields name props w' played'
        ((shownTexts (choiceTexts 0 feed')).map (saidElement props.context.role))
        (generationEvents name props (shownTexts (choiceTexts 0 feed')) (choiceText 0 feed')
          (topChoice feed' + 1))
        (.ofChoices (topChoice feed') fun choice => choiceText choice feed') :=
      Run.yields_of_free host' fuels' free healthy' atEnd
    simp only [same, texts, topChoice_eq same] at yields
    exact yields
  · intro stop active passes atEnd
    have passesOnly : ∀ s, options.effectiveStop props.nextLiteral = some s → s.Passes feed :=
      fun s other => Option.some.inj (active.symm.trans other) ▸ passes
    obtain ⟨_, _, -, yields⟩ := Run.yields_of_passes host fuels healthy passesOnly atEnd
    rw [active] at yields
    exact ⟨yields.healthy, yields.recorded⟩

/-- Three choices in two orders, of which the second is never heard of; and the same with a
stop that matches in the third one only. -/
theorem Run.choices_of_healthy_of_gap :
    let reply : List Delta := [⟨2, "x"⟩, ⟨0, "a"⟩, ⟨0, ""⟩, ⟨2, "y"⟩, ⟨0, "b"⟩]
    let reply' : List Delta := [⟨0, "a"⟩, ⟨2, "x"⟩, ⟨2, "y"⟩, ⟨0, ""⟩, ⟨0, "b"⟩]
    let stop : Stop := ⟨"y", fun s => firstOccurrence? ['y'] s.toList⟩
    let props : Props := ⟨⟨.assistant, none, [], [], ⟨⟨0, "scripted"⟩, true⟩, none⟩, .null, none⟩
    let world (reply : List Delta) : World Empty Empty := { connectors := [.scripted [reply]] }
    let play (options : GenerationOptions) (reply : List Delta) :=
      Run.polls Host.none (List.replicate 10 9)
        (Run.ofGeneration "pick" options props (world reply))
    let elements : List Element := [⟨"a", .llm, .assistant⟩, ⟨"b", .llm, .assistant⟩]
    let events : List Event := [.generationStarted "pick" [] .assistant,
      .generationDelta "pick" "a", .generationDelta "pick" "b", .generationFinished "pick" "ab" 3]
    let value : OutputValue := .textList ["ab", "", "xy"]
    Run.Yields "pick" props (world reply) (play {} reply) elements events value ∧
      (play {} reply).2.world.scene.outputs.lookup? ["pick"] = some value ∧
      Run.Yields "pick" props (world reply') (play {} reply') elements events value ∧
      (play {} reply').2.world.scene.outputs.lookup? ["pick"] = some value ∧
      (play { stop := some stop } reply).2.world.scene.outputs.lookup? ["pick"]
        = some (.textList ["ab", "", "x"]) := by
  intro reply reply' stop props world play elements events value
  have healthy : ∀ ds : List Delta, ∀ f, .failed f ∉ (ds.map .item : Feed Delta) := by
    intro ds f mem
    obtain ⟨d, -, same⟩ := List.mem_map.1 mem
    cases same
  have countable : Feed.Countable (reply.map .item) := by decide
  have positive : ∀ fuel ∈ List.replicate 10 9, 0 < fuel := by simp
  obtain ⟨free, -, -, ends⟩ := Run.choices_of_healthy Host.none "pick" {} props (world reply)
    (List.replicate 10 9) (healthy reply) countable
  obtain ⟨yields, interleaved⟩ := free rfl
  obtain ⟨-, stopped, -, ends'⟩ := Run.choices_of_healthy Host.none "pick" { stop := some stop }
    props (world reply) (List.replicate 10 9) (healthy reply) countable
  have alike : ∀ choice,
      choiceTexts choice (reply'.map .item) = choiceTexts choice (reply.map .item)
    | 0 => rfl
    | 1 => rfl
    | 2 => rfl
    | _ + 3 => rfl
  have atEnd : .ended ∈ (play {} reply').1 :=
    Phase.ended_mem_polls Host.none positive (by decide +kernel)
  have passes : stop.Passes (reply.map .item) := by decide +kernel
  have first : Run.Yields "pick" props (world reply) (play {} reply) elements events value :=
    yields (ends positive (by decide +kernel))
  have second : Run.Yields "pick" props (world reply') (play {} reply') elements events value :=
    interleaved Host.none (world reply') (List.replicate 10 9) (healthy reply') alike atEnd
  refine ⟨first, first.recorded.lookup?_root, second, second.recorded.lookup?_root, ?_⟩
  have cut : (List.range 3).map (fun choice =>
      Stop.recorded (some stop) choice (choiceText choice (reply.map .item)))
        = ["ab", "", "x"] := by decide +kernel
  have left := (stopped stop rfl passes (ends' positive (by decide +kernel))).2.lookup?_root
  exact left.trans (congrArg (some ∘ OutputValue.textList) cut)

end PromptStream
