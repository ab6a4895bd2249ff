import PromptStream.Proofs.Engine.SameBeginning
import PromptStream.Proofs.Engine.UnstoppedRun
import PromptStream.Proofs.Generation.Room
import PromptStream.Proofs.Text.Occurrence

/-!
# Generations that fail

A completion that fails before a stop has matched ends a generation with that failure.  What
was said before is what is released of the text up to the failure, and the failure follows
it.  After that the completion is not asked again, and nothing was recorded or reported as
finished: the run leaves the events of its start and of what it said, and nothing else
(`Run.failed_generation`).
-/

namespace PromptStream

variable {φ ν : Type}

open Generation (AllFit Took Ended)

/-- What comes before a failure begins what comes before the first failure. -/
theorem isPrefix_of_healthy {heard left before after : Feed Delta} {f : Fault}
    (all : heard ++ left = before ++ .failed f :: after) (healthy : ∀ f, .failed f ∉ heard) :
    heard <+: before := by
  rcases List.append_eq_append_iff.1 all with ⟨more, rfl, -⟩ | ⟨more, rfl, tail⟩
  · exact List.prefix_append heard more
  · cases more with
    | nil => simp
    | cons signal more =>
        cases (List.cons.inj tail).1
        exact absurd (by simp) (healthy f)

/-- The texts that a generation says, the failure that ends it, and the events that it
reports: the polls of a run gave a beginning of that, and recorded nothing. -/
structure Run.Breaking (name : String) (props : Props) (w : World φ ν) (said : List String)
    (f : Fault) (played : List Poll × Run φ ν) : Prop where
  handedOut : handedOut played.1 <+: saidItems props.context.role said ++ [.error f]
  outputs : played.2.world.scene.outputs = w.scene.outputs
  reported : ∃ events, events <+: .generationStarted name props.context.outputAddress
      props.context.role :: said.map (fun s => .generationDelta name s) ∧
    played.2.world.scene.events = w.scene.events ++ events

section Runs

variable {name : String} {options : GenerationOptions} {props : Props} {w : World φ ν}
  {before after : Feed Delta} {f : Fault} {said : List String} {g : Generation}

/-- The phases of a run whose completion fails while the generation goes on. -/
theorem Phase.of_failing {items : List (Except Fault Element)} {m : Run φ ν}
    (h : Phase name options props w items m)
    (failing : completionOf name options props w = before ++ .failed f :: after)
    (took : Took (freshGeneration name options props) before said g) (goesOn : g.done = false) :
    m = Run.ofGeneration name options props w ∧ items = [] ∨
      (∃ earlier, earlier <+: said ∧ items = saidItems props.context.role earlier ∧
        m.stack ≠ [] ∧ m.world = worldAfter name options props w earlier) ∨
      items = saidItems props.context.role said ++ [.error f] ∧
        Winding props after m.stack ∧ m.world = worldAfter name options props w said := by
  have wentOn : ∀ heard, heard <+: before →
      (freshGeneration name options props).GoesOnWith heard :=
    fun heard stem => Generation.GoesOnWith.of_isPrefix ⟨said, g, took, goesOn⟩ stem
  cases h with
  | unstarted => exact .inl ⟨rfl, rfl⟩
  | @speaking heard left earlier g' feed took' goesOn' =>
      refine .inr (.inl ⟨earlier, ?_, rfl, List.cons_ne_nil _ _, rfl⟩)
      obtain ⟨more, rfl⟩ := isPrefix_of_healthy (feed.symm.trans failing) took'.healthy
      obtain ⟨said', g'', took'', stem, -⟩ := took.of_append
      obtain ⟨rfl, -⟩ := took'.unique took''
      exact stem
  | @recorded heard left earlier g' stack feed ended winding =>
      have whole := feed.symm.trans failing
      cases ended with
      | cut _ took' done =>
          rw [(wentOn heard (isPrefix_of_healthy whole took'.healthy)).goesOn took'] at done
          cases done
      | closed took' _ =>
          refine absurd ?_ (took'.healthy f)
          rw [← List.append_nil heard, whole]
          simp
  | @failed heard left said' g' f' stack feed took' goesOn' winding =>
      have whole := feed.symm.trans failing
      obtain rfl : heard = before := by
        have stem := isPrefix_of_healthy whole took'.healthy
        have stem' := isPrefix_of_healthy whole.symm took.healthy
        exact stem.eq_of_length_le stem'.length_le
      obtain ⟨rfl, -⟩ := took.unique took'
      obtain ⟨same, rfl⟩ := List.cons.inj (List.append_cancel_left whole)
      cases same
      exact .inr (.inr ⟨rfl, winding, rfl⟩)

/-- Once the failure was handed out, so was all that was said before it, and the run winds up. -/
theorem Phase.of_error_mem {items : List (Except Fault Element)} {m : Run φ ν}
    (h : Phase name options props w items m)
    (failing : completionOf name options props w = before ++ .failed f :: after)
    (took : Took (freshGeneration name options props) before said g) (goesOn : g.done = false)
    (mem : .error f ∈ items) :
    items = saidItems props.context.role said ++ [.error f] ∧ Winding props after m.stack := by
  rcases h.of_failing failing took goesOn with
    ⟨-, none⟩ | ⟨earlier, -, healthy, -, -⟩ | ⟨whole, winding, -⟩
  · rw [none] at mem
    cases mem
  · rw [healthy] at mem
    exact absurd mem (error_not_mem_saidItems _ _ f)
  · exact ⟨whole, winding⟩

/-- A run that has come to its end has handed out the failure. -/
theorem Phase.error_mem_of_stack_nil {items : List (Except Fault Element)} {m : Run φ ν}
    (h : Phase name options props w items m)
    (failing : completionOf name options props w = before ++ .failed f :: after)
    (took : Took (freshGeneration name options props) before said g) (goesOn : g.done = false)
    (noWork : m.stack = []) : .error f ∈ items := by
  rcases h.of_failing failing took goesOn with
    ⟨run, -⟩ | ⟨earlier, -, -, work, -⟩ | ⟨whole, -, -⟩
  · rw [run] at noWork
    cases noWork
  · exact absurd noWork work
  · exact whole ▸ List.mem_append_right _ List.mem_cons_self

/-- A winding run needs three steps at most to its end. -/
theorem Run.poll_of_winding (host : Host φ ν) {left : Feed Delta} {stack : List (Frame φ)}
    (h : Winding props left stack) (w : World φ ν) {fuel : Nat} (enough : 3 ≤ fuel) :
    poll host fuel ⟨stack, w⟩ = (.ended, ⟨[], w⟩) := by
  obtain ⟨fuel, rfl⟩ := Nat.exists_eq_add_of_le' enough
  cases h with
  | @generation g failed done =>
      have step : Machine.step host ⟨[.generation g props left, .guard failed], w⟩
          = .more ⟨[.guard failed], w⟩ := stepGeneration_of_done props left [.guard failed] w done
      rw [poll, step]
      rfl
  | guard => rfl
  | nothing => rfl

/-- What the polls of a run gave and left behind whose completion fails. -/
theorem Phase.breaking {played : List Poll × Run φ ν}
    (h : Phase name options props w (handedOut played.1) played.2)
    (failing : completionOf name options props w = before ++ .failed f :: after)
    (took : Took (freshGeneration name options props) before said g) (goesOn : g.done = false) :
    Run.Breaking name props w said f played := by
  rcases h.of_failing failing took goesOn with
    ⟨run, items⟩ | ⟨earlier, stem, items, -, world⟩ | ⟨items, -, world⟩
  · refine ⟨?_, ?_, [], List.nil_prefix, ?_⟩
    · rw [items]
      exact List.nil_prefix
    · rw [run]
      rfl
    · rw [run, List.append_nil]
      rfl
  · refine ⟨?_, ?_, _, (List.prefix_cons_inj _).2 (stem.map _), ?_⟩
    · rw [items]
      exact (stem.map _).trans (List.prefix_append _ _)
    · rw [world, worldAfter_outputs]
    · rw [world, worldAfter_events]
  · refine ⟨items ▸ List.prefix_refl _, ?_, _, List.prefix_refl _, ?_⟩
    · rw [world, worldAfter_outputs]
    · rw [world, worldAfter_events]

end Runs

/-- A generation whose completion fails before a stop has matched, polled in any way.

It says texts that are not empty and that make up what is released of the first choice as far
as it was brought before the failure.  Any polls of it hand out a beginning of these texts
and then exactly this failure, record nothing, report nothing but the start and the texts,
and ask for no signal after the failure.  Once the failure was handed out, all the texts were
handed out before it, every signal up to the failure was asked for, and a poll of three steps
finds the end and changes nothing.  If no choice has the largest number of all, there is room for
every choice that is named before the failure, and enough polls come to that point. -/
theorem Run.failed_generation (name : String) (options : GenerationOptions) (props : Props)
    (w : World φ ν) {before after : Feed Delta} {f : Fault}
    (failing : completionOf name options props w = before ++ .failed f :: after)
    (healthy : ∀ f, .failed f ∉ before)
    (passes : ∀ stop, options.effectiveStop props.nextLiteral = some stop → stop.Passes before) :
    let stop := options.effectiveStop props.nextLiteral
    let heard := (choiceText 0 before).toList
    ∃ said : List String,
      ("" ∉ said ∧ (String.join said).toList = Stop.released stop heard ∧
        (String.join said).toList <+: heard ∧
        byteLength heard ≤ byteLength (String.join said).toList + Stop.holdback stop + 3) ∧
      ∀ (host : Host φ ν) (fuels : List Nat),
        let start := Run.ofGeneration name options props w
        let played := Run.polls host fuels start
        Run.Breaking name props w said f played ∧
        Run.asksAll host fuels start ≤ before.length + 1 ∧
        (.failed f ∈ played.1 →
          handedOut played.1 = saidItems props.context.role said ++ [.error f] ∧
          Run.asksAll host fuels start = before.length + 1 ∧
          ∀ fuel, 3 ≤ fuel → Run.poll host fuel played.2 = (.ended, ⟨[], played.2.world⟩)) ∧
        (before.Countable → AllFit (freshGeneration name options props) before ∧
          ((∀ fuel ∈ fuels, 0 < fuel) → before.length + 5 < fuels.length →
            .failed f ∈ played.1 ∧ .ended ∈ played.1)) := by
  intro stop heard
  have goesOnWith : (freshGeneration name options props).GoesOnWith before :=
    Generation.goesOnWith_of_passes name passes healthy
  obtain ⟨said, g, took, goesOn⟩ := goesOnWith
  obtain ⟨nonempty, text, -⟩ : "" ∉ said ∧ (String.join said).toList = Stop.released stop heard ∧
      Generation.Running g before (String.join said).toList := took.released passes
  refine ⟨said, ⟨nonempty, text, ?_, ?_⟩, fun host fuels => ?_⟩
  · rw [text]
    exact Stop.released_isPrefix stop heard
  · rw [text]
    exact Stop.byteLength_le_released_add stop heard
  intro start played
  have phase : Phase name options props w (handedOut played.1) played.2 := Phase.polls host fuels
  have begins : completionOf name options props w = (before ++ [.failed f]) ++ after := by
    rw [failing, List.append_assoc]
    rfl
  have stops := Generation.not_goesOnWith_of_failed (freshGeneration name options props) before f
  have alike : Alike name options props (before ++ [.failed f]) after after 0 start start :=
    .unstarted rfl begins begins
  have asked := (alike.polls host stops fuels).2.2
  rw [Nat.zero_add] at asked
  refine ⟨phase.breaking failing took goesOn, ?_, fun failed => ?_, fun countable =>
    ⟨Generation.allFit_of_countable name _ countable, fun positive enough => ?_⟩⟩
  · exact asked.asked_le.trans (by simp)
  · obtain ⟨items, winding⟩ :=
      phase.of_error_mem failing took goesOn (error_mem_handedOut_iff.2 failed)
    refine ⟨items, asked.asked_eq ⟨said, g, took, goesOn⟩ winding, fun fuel enough => ?_⟩
    exact Run.poll_of_winding host winding played.2.world enough
  · have long : stepsAhead (before ++ [.failed f]) after start.stack < fuels.length := by
      have first : stepsAhead (before ++ [.failed f]) after start.stack
          = (before ++ [Signal.failed f]).length + 4 := rfl
      rw [first, List.length_append]
      exact enough
    have atEnd := alike.ended_mem_polls host stops positive long
    have noWork : played.2.stack = [] := Run.stack_of_ended_mem atEnd
    have mem := phase.error_mem_of_stack_nil failing took goesOn noWork
    exact ⟨error_mem_handedOut_iff.1 mem, atEnd⟩

/-- A stop of three bytes holds back three; the failure comes in the middle, and the same text
was recorded elsewhere before. -/
theorem Run.failed_generation_of_held :
    let stop : Stop := ⟨"END", fun s => firstOccurrence? ['E', 'N', 'D'] s.toList⟩
    let f : Fault := .completion (.reported "down")
    let before : Feed Delta := [.item ⟨0, "one tw"⟩, .item ⟨1, "END"⟩, .pending, .item ⟨0, "o E"⟩]
    let after : Feed Delta := [.item ⟨0, "ND"⟩]
    let prior : Outputs := Outputs.insertAt [] [] "x" (.text "one")
    let props : Props := ⟨⟨.assistant, none, [], [], ⟨⟨0, "completion"⟩, true⟩, none⟩, .null, none⟩
    let w : World Empty Empty :=
      ⟨{ outputs := prior }, [.answering fun _ _ => before ++ .failed f :: after], [], []⟩
    let start := Run.ofGeneration "x" { stop := some stop } props w
    let played := Run.polls Host.none (List.replicate 10 9) start
    ∃ said : List String, String.join said = "one tw" ∧
      handedOut played.1 = saidItems .assistant said ++ [.error f] ∧
      Run.asksAll Host.none (List.replicate 10 9) start = 5 ∧
      played.2.world.scene.outputs = prior := by
  intro stop f before after prior props w start played
  have healthy : ∀ f, .failed f ∉ before := by simp [before]
  have passes : stop.Passes before := by decide +kernel
  have countable : before.Countable := by decide +kernel
  have failing : completionOf "x" { stop := some stop } props w = before ++ .failed f :: after :=
    rfl
  obtain ⟨said, ⟨-, text, -, -⟩, runs⟩ :=
    Run.failed_generation "x" { stop := some stop } props w failing healthy (passes.only rfl)
  obtain ⟨breaking, -, whole, ends⟩ := runs Host.none (List.replicate 10 9)
  have failed := ((ends countable).2 (by simp) (by decide)).1
  obtain ⟨items, asked, -⟩ := whole failed
  refine ⟨said, String.toList_inj.1 (text.trans ?_), items, asked, breaking.outputs⟩
  decide +kernel

end PromptStream
