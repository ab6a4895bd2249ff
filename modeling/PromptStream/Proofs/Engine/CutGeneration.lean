import PromptStream.Proofs.Engine.SameBeginning
import PromptStream.Proofs.Engine.UnstoppedRun
import PromptStream.Proofs.Generation.Room
import PromptStream.Proofs.Text.Occurrence

/-!
# Generations that are cut

A match of the stop ends a generation for good.  The signals up to the delta with which the
stop first matches decide everything: two runs whose completions begin with them, and go on in
any way, are the same to their consumer and to their connectors, and record the result that
was cut there (`Run.cut_generation`).
-/

namespace PromptStream

variable {φ ν : Type}

open Generation (AllFit Took Ended)

section Runs

variable {name : String} {options : GenerationOptions} {props : Props} {w : World φ ν}
  {pre : Feed Delta} {d : Delta} {stop : Stop} {start : Nat}

/-- A generation does not go on with a delta with which its stop first matches. -/
theorem not_goesOnWith_of_matched (name : String)
    (active : options.effectiveStop props.nextLiteral = some stop)
    (passes : stop.Passes pre) (first : d.choice = 0)
    (matched : stop.find? (choiceText 0 (pre ++ [.item d])) = some start) :
    ¬ (freshGeneration name options props).GoesOnWith (pre ++ [.item d]) := by
  rintro ⟨said, g, took, goesOn⟩
  obtain ⟨said', g', before, -, -, rfl⟩ := took.of_item
  rw [freshGeneration, active] at before
  rw [(before.cut passes first matched).1] at goesOn
  cases goesOn

/-- A run that has come to its end where the stop first matches has recorded what is left of
all that was heard up to there. -/
theorem Phase.of_cut {items : List (Except Fault Element)} {m : Run φ ν} {later : Feed Delta}
    (h : Phase name options props w items m) (noWork : m.stack = [])
    (active : options.effectiveStop props.nextLiteral = some stop) (passes : stop.Passes pre)
    (first : d.choice = 0)
    (matched : stop.find? (choiceText 0 (pre ++ [.item d])) = some start)
    (begins : completionOf name options props w = (pre ++ [.item d]) ++ later)
    (healthy : ∀ f, .failed f ∉ pre) :
    (∀ f, .error f ∉ items) ∧
      w.scene.outputs.Written props.context.outputAddress name
        (.ofChoices (topChoice (pre ++ [.item d])) fun choice =>
          stop.cutRecorded
            (max start (byteLength (Stop.released (some stop) (choiceText 0 pre).toList))) choice
            (choiceText choice (pre ++ [.item d])))
        m.world.scene.outputs := by
  have stops := not_goesOnWith_of_matched name active passes first matched
  have goesOn : (freshGeneration name options props).GoesOnWith pre :=
    Generation.goesOnWith_of_passes name (passes.only active) healthy
  -- What a run has taken in is all of the common beginning, or goes on.
  have within : ∀ {heard left : Feed Delta} {said : List String} {g : Generation},
      Took (freshGeneration name options props) heard said g →
      completionOf name options props w = heard ++ left →
      heard = pre ++ [.item d] ∨ heard <+: pre := by
    intro heard left said g took feed
    refine List.prefix_concat_iff.1 (took.isPrefix_of_not_goesOnWith ?_ ⟨later, begins.symm⟩ stops)
    exact ⟨left, feed.symm⟩
  cases h with
  | unstarted => cases noWork
  | speaking => cases noWork
  | @recorded heard left said g stack feed ended winding =>
      refine ⟨error_not_mem_saidItems _ _, ?_⟩
      have named : g.name = name := ended.name
      cases ended with
      | cut _ took done =>
          rcases within took feed with rfl | earlier
          · obtain ⟨said', g', before, -, -, rfl⟩ := took.of_item
            rw [freshGeneration, active] at before
            rw [← (before.cut passes first matched).2]
            exact recorded_written _ named
          · rw [(goesOn.of_isPrefix earlier).goesOn took] at done
            cases done
      | closed took going =>
          rcases within took feed with rfl | earlier
          · exact absurd ⟨_, _, took, going⟩ stops
          · have short := earlier.length_le
            have long := congrArg List.length (begins.symm.trans feed)
            simp only [List.length_append, List.length_singleton, List.length_nil] at long
            omega
  | @failed heard left said g f stack feed took going winding =>
      rcases within took feed with rfl | ⟨more, rfl⟩
      · exact absurd ⟨_, _, took, going⟩ stops
      · rw [begins, List.append_assoc, List.append_assoc] at feed
        have rest := List.append_cancel_left feed
        cases more with
        | nil => cases rest
        | cons signal more =>
            cases rest
            exact absurd (by simp) (healthy f)

end Runs

/-- Two runs of a generation in equal scenes, whose completions begin alike up to the delta of
the first choice with which the stop first matches, and which are polled alike.  The common
beginning does not give a choice the largest number of all, so there is room for every choice that
it names.

Whatever comes later in either completion, however much it is, the polls give the same
answers, leave the same scene behind, and ask for the same number of signals, of which none
lies beyond that delta; so any beginning that reaches it stands for a completion that never
ends.  Enough polls, and how many that is depends on the common beginning
alone, come to the end.  Unless a failure ended the runs before the delta, every signal up to
it was asked for then and none of the answers is a failure.  The recorded result has one text
for every choice up to the largest that was named so far: the first choice is cut where the
match begins, or where the text ends that was emitted before if that is later, and every other
choice where the stop first matches it. -/
theorem Run.cut_generation (host : Host φ ν) (name : String) (options : GenerationOptions)
    (props : Props) (w w' : World φ ν) {pre : Feed Delta} {d : Delta} {stop : Stop} {start : Nat}
    (active : options.effectiveStop props.nextLiteral = some stop) (passes : stop.Passes pre)
    (first : d.choice = 0)
    (matched : stop.find? (choiceText 0 (pre ++ [.item d])) = some start)
    (same : w.scene = w'.scene)
    (begins : pre ++ [.item d] <+: completionOf name options props w)
    (begins' : pre ++ [.item d] <+: completionOf name options props w')
    (countable : Feed.Countable (pre ++ [.item d])) (fuels : List Nat) :
    let common := pre ++ [.item d]
    let run := Run.ofGeneration name options props w
    let run' := Run.ofGeneration name options props w'
    let played := Run.polls host fuels run
    let played' := Run.polls host fuels run'
    let emitted := byteLength (Stop.released (some stop) (choiceText 0 pre).toList)
    (played.1 = played'.1 ∧ played.2.world.scene = played'.2.world.scene ∧
      Run.asksAll host fuels run = Run.asksAll host fuels run') ∧
    Run.asksAll host fuels run ≤ common.length ∧
    AllFit (freshGeneration name options props) common ∧
    ((∀ fuel ∈ fuels, 0 < fuel) → common.length + 4 < fuels.length → .ended ∈ played.1) ∧
    (.ended ∈ played.1 → (∀ f, .failed f ∉ pre) →
      Run.asksAll host fuels run = common.length ∧ (∀ f, .failed f ∉ played.1) ∧
      w.scene.outputs.Written props.context.outputAddress name
        (.ofChoices (topChoice common) fun choice =>
          stop.cutRecorded (max start emitted) choice (choiceText choice common))
        played.2.world.scene.outputs) := by
  intro common run run' played played' emitted
  have stops := not_goesOnWith_of_matched name active passes first matched
  obtain ⟨later, shape⟩ := begins
  obtain ⟨later', shape'⟩ := begins'
  have alike : Alike name options props common later later' 0 run run' :=
    .unstarted same shape.symm shape'.symm
  obtain ⟨answers, asks, asked⟩ := alike.polls host stops fuels
  rw [Nat.zero_add] at asked
  refine ⟨⟨answers, asked.scene, asks⟩, asked.asked_le,
    Generation.allFit_of_countable name _ countable, ?_, fun atEnd healthy => ?_⟩
  · exact fun positive enough => alike.ended_mem_polls host stops positive enough
  · have noWork : played.2.stack = [] := Run.stack_of_ended_mem atEnd
    have phase : Phase name options props w (handedOut played.1) played.2 :=
      Phase.polls host fuels
    obtain ⟨noFailure, outputs⟩ :=
      phase.of_cut noWork active passes first matched shape.symm healthy
    have goesOn : (freshGeneration name options props).GoesOnWith pre :=
      Generation.goesOnWith_of_passes name (passes.only active) healthy
    have winding : Winding props [] played.2.stack := noWork ▸ .nothing
    refine ⟨(asked.asked_eq goesOn winding).trans (by simp [common]), fun f failed => ?_, outputs⟩
    exact noFailure f (error_mem_handedOut_iff.2 failed)

/-- A match that begins before the end of the emitted text, in a completion that fails after
it and in one that goes on. -/
theorem Run.cut_generation_of_emitted :
    let stop : Stop := ⟨".+!", fun s => if '!' ∈ s.toList.tail then some 0 else none⟩
    let pre : Feed Delta := [.item ⟨0, "hello w"⟩, .item ⟨2, "no! no"⟩, .item ⟨1, "yes"⟩]
    let d : Delta := ⟨0, "orld! And"⟩
    let props : Props := ⟨⟨.assistant, none, [], [], ⟨⟨0, "completion"⟩, true⟩, none⟩, .null, none⟩
    let world (later : Feed Delta) : World Empty Empty :=
      { connectors := [.answering fun _ _ => (pre ++ [.item d]) ++ later] }
    let run (later : Feed Delta) := Run.ofGeneration "x" { stop := some stop } props (world later)
    let played (later : Feed Delta) := Run.polls Host.none (List.replicate 10 9) (run later)
    let failing : Feed Delta := [.failed (.completion (.reported "down"))]
    let goingOn : Feed Delta := [.item ⟨0, " more"⟩, .item ⟨1, "!"⟩, .pending]
    (played failing).1 = (played goingOn).1 ∧
      Run.asksAll Host.none (List.replicate 10 9) (run failing) = 4 ∧
      Run.asksAll Host.none (List.replicate 10 9) (run goingOn) = 4 ∧
      (played goingOn).2.world.scene.outputs.lookup? ["x"]
        = some (.textList ["hell", "yes", ""]) := by
  intro stop pre d props world run played failing goingOn
  have passes : stop.Passes pre := by decide +kernel
  have matched : stop.find? (choiceText 0 (pre ++ [.item d])) = some 0 := by decide +kernel
  have healthy : ∀ f, .failed f ∉ pre := by simp [pre]
  have countable : Feed.Countable (pre ++ [.item d]) := by decide +kernel
  obtain ⟨⟨answers, scene, asks⟩, -, -, ends, cut⟩ := Run.cut_generation Host.none "x"
    { stop := some stop } props (world failing) (world goingOn) rfl passes rfl matched rfl
    (List.prefix_append _ _) (List.prefix_append _ _) countable (List.replicate 10 9)
  obtain ⟨asked, -, outputs⟩ := cut (ends (by simp) (by decide)) healthy
  have texts : (List.range 3).map (fun choice => stop.cutRecorded
        (max 0 (byteLength (Stop.released (some stop) (choiceText 0 pre).toList))) choice
        (choiceText choice (pre ++ [.item d])))
      = ["hell", "yes", ""] := by decide +kernel
  refine ⟨answers, asked, asks.symm.trans asked, ?_⟩
  rw [← scene]
  exact outputs.lookup?_root.trans (congrArg (some ∘ OutputValue.textList) texts)

end PromptStream
