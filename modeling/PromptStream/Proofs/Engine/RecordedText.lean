import PromptStream.Proofs.Engine.GenerationRun
import PromptStream.Proofs.Generation.Room

/-!
# Emitted and recorded text

What a generation emits is what it records.  For every completion, and every stop
whose matches begin between two characters, the elements that the consumer
received, the deltas that were reported, the text of the final report and the
recorded value all hold the same text.  At every moment the emitted text is a
stem of what has arrived for the first choice.

An element that was emitted is never empty, and it carries the source and the
role of its generation.
-/

namespace PromptStream

variable {φ ν : Type}

open Generation (AllFit)

/-- Which signals of a completion are still left when a run has some stack; once
the generation is off the stack, nothing more is said. -/
def LeftOn (feed left : Feed Delta) : List (Frame φ) → Prop
  | .input _ _ _ :: _ => left = feed
  | .generation _ _ waiting :: _ => left = waiting
  | _ => True

theorem Winding.leftOn {props : Props} {left : Feed Delta} {stack : List (Frame φ)}
    (h : Winding props left stack) (feed : Feed Delta) : LeftOn feed left stack := by
  cases h with
  | generation => exact rfl
  | guard => trivial
  | nothing => trivial

section Phases

variable {name : String} {options : GenerationOptions} {props : Props} {w : World φ ν}

/-- In every phase the texts that were said are not empty, and together they are
a stem of what has arrived for the first choice. -/
theorem Phase.said (between : ∀ stop, options.effectiveStop props.nextLiteral = some stop →
      stop.OnBoundaries)
    {items : List (Except Fault Element)} {m : Run φ ν} (h : Phase name options props w items m) :
    ∃ said, okElements items = said.map (saidElement props.context.role) ∧ "" ∉ said ∧
      ∃ heard left, completionOf name options props w = heard ++ left ∧
        LeftOn (completionOf name options props w) left m.stack ∧
        (String.join said).toList <+: (choiceText 0 heard).toList := by
  cases h with
  | unstarted => exact ⟨[], rfl, List.not_mem_nil, [], _, rfl, rfl, List.nil_prefix⟩
  | @speaking heard left said g feed took goesOn =>
      obtain ⟨nonempty, running | finished⟩ := took.running_or_finished between
      · exact ⟨said, okElements_saidItems _ _, nonempty, heard, left, feed, rfl, running.stem⟩
      · exact ⟨said, okElements_saidItems _ _, nonempty, heard, left, feed, rfl, finished.stem⟩
  | @recorded heard left said g stack feed ended winding =>
      obtain ⟨nonempty, finished⟩ := ended.finished between
      exact ⟨said, okElements_saidItems _ _, nonempty, heard, left, feed, winding.leftOn _,
        finished.stem⟩
  | @failed heard left said g f stack feed took goesOn winding =>
      have elements : okElements (saidItems props.context.role said ++ [.error f])
          = said.map (saidElement props.context.role) := by
        rw [okElements, List.filterMap_append]
        exact (List.append_nil _).trans (okElements_saidItems _ _)
      have arrived : choiceText 0 (heard ++ [.failed f]) = choiceText 0 heard := by
        rw [choiceText_append]
        exact String.append_empty
      refine ⟨said, elements, ?_⟩
      obtain ⟨nonempty, running | finished⟩ := took.running_or_finished between
      · refine ⟨nonempty, heard ++ [.failed f], left, ?_, winding.leftOn _, ?_⟩
        · rw [feed, List.append_assoc]
          rfl
        · rw [arrived]
          exact running.stem
      · rw [finished.done] at goesOn
        cases goesOn

end Phases

/-- However a generation is polled, every element that it emitted is a non-empty
text of the model in the role of its context, and at every moment the emitted
text is a stem of what has arrived for the first choice.  If the run has come to
its end without a failure, the emitted text has been reported piece by piece and
then as a whole, and the recorded value holds it.  If no choice has the largest
number of all, there is room for every choice, and a run that is polled often enough
does come to its end. -/
theorem recorded_text_eq_emitted (host : Host φ ν) (name : String) (options : GenerationOptions)
    (props : Props) (w : World φ ν)
    (between : ∀ stop, options.effectiveStop props.nextLiteral = some stop → stop.OnBoundaries)
    (fuels : List Nat) :
    let feed := completionOf name options props w
    let played := Run.polls host fuels (Run.ofGeneration name options props w)
    let emitted := elementsOf played.1
    (∀ e ∈ emitted, e.content ≠ "" ∧ e.source = .llm ∧ e.role = props.context.role) ∧
      (∃ heard left, feed = heard ++ left ∧ LeftOn feed left played.2.stack ∧
        (Prompt.text emitted).toList <+: (choiceText 0 heard).toList) ∧
      (.ended ∈ played.1 → (∀ f, .failed f ∉ played.1) →
        ∃ (value : OutputValue) (choices : Nat),
          value.firstText = Prompt.text emitted ∧
          w.scene.outputs.Written props.context.outputAddress name value
            played.2.world.scene.outputs ∧
          played.2.world.scene.events
            = w.scene.events
              ++ .generationStarted name props.context.outputAddress props.context.role
                :: emitted.map (fun e => .generationDelta name e.content)
              ++ [.generationFinished name (Prompt.text emitted) choices]) ∧
      (feed.Countable → AllFit (freshGeneration name options props) feed ∧
        ((∀ fuel ∈ fuels, 0 < fuel) → feed.length + 4 < fuels.length → .ended ∈ played.1)) := by
  intro feed played emitted
  have phase : Phase name options props w (handedOut played.1) played.2 := Phase.polls host fuels
  obtain ⟨said, elements, nonempty, moment⟩ := phase.said between
  have emittedEq : emitted = said.map (saidElement props.context.role) :=
    (elementsOf_eq _).trans elements
  have text : Prompt.text emitted = String.join said := by
    rw [emittedEq, Prompt.text_saidElements]
  refine ⟨?_, ?_, ?_, fun countable =>
    ⟨Generation.allFit_of_countable name _ countable, Phase.ended_mem_polls host⟩⟩
  · intro e mem
    rw [emittedEq] at mem
    obtain ⟨s, spoken, rfl⟩ := List.mem_map.1 mem
    exact ⟨fun empty => nonempty (empty ▸ spoken), rfl, rfl⟩
  · rw [text]
    exact moment
  · intro ended noFailure
    have noError : ∀ f, .error f ∉ handedOut played.1 :=
      fun f failed => noFailure f (error_mem_handedOut_iff.1 failed)
    obtain ⟨heard, left, said', g, -, complete, items, world⟩ :=
      phase.ended (Run.stack_of_ended_mem ended) noError
    have same : said'.map (saidElement props.context.role) = emitted := by
      rw [← okElements_saidItems, ← items]
      exact (elementsOf_eq _).symm
    have lead : g.lead = Prompt.text emitted := by
      obtain ⟨-, finished⟩ := complete.finished between
      rw [← same, Prompt.text_saidElements]
      exact String.toList_inj.1 finished.lead
    refine ⟨g.value, g.choices, ?_, ?_, ?_⟩
    · rw [Generation.value_firstText, lead]
    · rw [world]
      exact recorded_written said' complete.name
    · rw [world, recorded_events, complete.name, lead, ← same, List.map_map]
      rfl

/-- A match that begins inside emitted text cuts what follows it: of `xyz` only
`x` is recorded, as it was emitted. -/
theorem recorded_text_eq_emitted_of_late_match :
    let stop : Stop := ⟨"", fun s => if s = "xyz" then some 0 else none⟩
    let props : Props := ⟨⟨.assistant, none, [], [], ⟨⟨0, "scripted"⟩, true⟩, none⟩, .null, none⟩
    let w : World Empty Empty :=
      { connectors := [.scripted [[⟨0, "x"⟩, ⟨1, "q"⟩, ⟨0, "yz"⟩]]] }
    let played := Run.polls Host.none [9, 9]
      (Run.ofGeneration "answer" { stop := some stop } props w)
    elementsOf played.1 = [⟨"x", .llm, .assistant⟩] ∧
      ∃ (value : OutputValue) (choices : Nat), value.firstText = "x" ∧
        played.2.world.scene.outputs.lookup? ["answer"] = some value ∧
        played.2.world.scene.events
          = [.generationStarted "answer" [] .assistant, .generationDelta "answer" "x",
            .generationFinished "answer" "x" choices] := by
  intro stop props w played
  have between : ∀ active, some stop = some active → active.OnBoundaries := by
    rintro active ⟨⟩ s start found
    have atStart : start = 0 := by
      by_cases whole : s = "xyz"
      · simpa [stop, whole] using found.symm
      · simp [stop, whole] at found
    rw [atStart, isBoundary, floorBoundary, takeBytes_zero]
    rfl
  have answers : played.1 = [.element ⟨"x", .llm, .assistant⟩, .ended] := by decide +kernel
  have emitted : elementsOf played.1 = [⟨"x", .llm, .assistant⟩] := by rw [answers]; rfl
  have ended : .ended ∈ played.1 := by simp [answers]
  have noFailure : ∀ f, .failed f ∉ played.1 := by simp [answers]
  obtain ⟨-, -, recorded, -⟩ := recorded_text_eq_emitted Host.none "answer" { stop := some stop }
    props w between [9, 9]
  obtain ⟨value, choices, text, outputs, events⟩ := recorded ended noFailure
  refine ⟨emitted, value, choices, ?_, outputs.lookup?_root, ?_⟩
  · exact text.trans (congrArg Prompt.text emitted)
  · rw [events, emitted]
    rfl

end PromptStream
