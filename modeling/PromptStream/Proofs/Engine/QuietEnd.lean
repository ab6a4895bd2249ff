import PromptStream.Proofs.Engine.Quiet

/-!
# Clean work ends quietly

A run ends quietly exactly when its stack is clean (`endsQuietly_iff`).  One
direction follows the run backwards, a step at a time.  The other is by induction
on why the work is clean: a mute input can be put on top of work that ends
quietly (`Mute.passes`), and a speaking one on top of work that ends quietly below
its innermost failed sequence (`Speaks.breaks`).
-/

namespace PromptStream

variable {φ ν : Type}

section Ending

variable {host : Host φ ν} {w : World φ ν} {rest : List (Frame φ)} {props : Props}

/-- The run ends quietly with an input if it does without it. -/
def Passes (host : Host φ ν) (w : World φ ν) (i : Input φ) : Prop :=
  ∀ props fromFunction rest, EndsQuietly host ⟨rest, w⟩ →
    EndsQuietly host ⟨.input i props fromFunction :: rest, w⟩

/-- The run ends quietly with an input if it does below the innermost failed
sequence. -/
def Breaks (host : Host φ ν) (w : World φ ν) (i : Input φ) : Prop :=
  ∀ props fromFunction rest below, Frame.belowFailed rest = some below →
    EndsQuietly host ⟨below, w⟩ → EndsQuietly host ⟨.input i props fromFunction :: rest, w⟩

/-- Work that ends quietly after some inputs. -/
abbrev EndsAfter (host : Host φ ν) (w : World φ ν) :=
  Resumes (Passes host w) (Breaks host w) fun stack => EndsQuietly host ⟨stack, w⟩

/-- A step that hands out an item ends the innermost failed sequence. -/
theorem EndsQuietly.of_deliver {m : Run φ ν} {result : Except Fault Element}
    {stack below : List (Frame φ)} (idle : m.acts = false)
    (step : Machine.step host m = deliver result stack w)
    (failed : Frame.belowFailed stack = some below) (ends : EndsQuietly host ⟨below, w⟩) :
    EndsQuietly host m := by
  refine .step (n := ⟨below, w⟩) idle ?_ ends
  rw [step]
  simp only [deliver, failed]

/-- A text is not passed over. -/
theorem not_passes_text (s : String) : ¬ Passes host w (.text s) := by
  intro passes
  cases passes default false [] (.done w) with
  | step _ step _ => cases step

theorem EndsQuietly.items {index : Nat} {items : List (Input φ)}
    (h : EndsAfter host w items rest) :
    EndsQuietly host ⟨.items props index items :: rest, w⟩ := by
  induction items generalizing index with
  | nil => exact .step rfl rfl h.of_nil
  | cons i items ih =>
      refine .step rfl rfl ?_
      rcases h.of_cons with ⟨passes, later⟩ | ⟨breaks, below, failed, ends⟩
      · exact passes _ _ _ (ih later)
      · exact breaks _ _ _ below failed ends

theorem EndsQuietly.templateRest {literals : List String} {slots : List (Slot φ)}
    (h : EndsAfter host w (slots.head?.join.toList ++ templateInputs literals.tail slots.tail) rest)
    (later : EndsAfter host w (templateInputs literals.tail slots.tail) rest →
      EndsQuietly host ⟨.binder props literals.tail slots.tail :: rest, w⟩) :
    EndsQuietly host ⟨templateRest props literals slots rest, w⟩ := by
  rcases templateRest_cases props literals slots rest with ⟨i, filled, stack⟩ | ⟨absent, stack⟩
  · rw [filled] at h
    rw [stack]
    rcases Resumes.of_cons h with ⟨passes, more⟩ | ⟨breaks, below, failed, ends⟩
    · exact passes _ _ _ (.step rfl rfl (later more))
    · exact breaks _ _ _ below failed ends
  · rw [absent] at h
    rw [stack]
    exact later h

/-- The step of a template in which something is left. -/
theorem EndsQuietly.binder_of_left {literals : List String} {slots : List (Slot φ)}
    (left : ¬ (literals = [] ∧ slots = []))
    (h : EndsAfter host w (templateInputs literals slots) rest)
    (later : EndsAfter host w (templateInputs literals.tail slots.tail) rest →
      EndsQuietly host ⟨.binder props literals.tail slots.tail :: rest, w⟩) :
    EndsQuietly host ⟨.binder props literals slots :: rest, w⟩ := by
  have step : Machine.step host ⟨.binder props literals slots :: rest, w⟩ = _ :=
    stepBinder_of_left props rest w left
  rw [templateInputs_of_left left] at h
  cases head : literals.head? with
  | none =>
      rw [head] at h step
      exact .step rfl step (.templateRest h later)
  | some literal =>
      rw [head] at h step
      dsimp only [Option.elim_some] at h step
      by_cases empty : literal.isEmpty
      · rw [literalInputs, if_pos empty] at h
        rw [if_pos empty] at step
        exact .step rfl step (.templateRest h later)
      · rw [literalInputs, if_neg empty] at h
        rw [if_neg empty] at step
        rcases Resumes.of_cons h with ⟨passes, -⟩ | ⟨-, below, failed, ends⟩
        · exact absurd passes (not_passes_text literal)
        · rw [← belowFailed_templateRest literals slots] at failed
          exact .of_deliver rfl step failed ends

theorem EndsQuietly.binder {literals : List String} {slots : List (Slot φ)}
    (h : EndsAfter host w (templateInputs literals slots) rest) :
    EndsQuietly host ⟨.binder props literals slots :: rest, w⟩ := by
  by_cases left : literals = [] ∧ slots = []
  · obtain ⟨rfl, rfl⟩ := left
    exact .step rfl rfl h.of_nil
  · refine .binder_of_left left h fun more => ?_
    exact EndsQuietly.binder more
termination_by literals.length + slots.length
decreasing_by
  simp only [List.length_tail]
  have some : literals.length ≠ 0 ∨ slots.length ≠ 0 := by
    rcases Nat.eq_zero_or_pos literals.length with noLiteral | some
    · refine .inr fun noSlot => left ⟨?_, ?_⟩
      · exact List.eq_nil_of_length_eq_zero noLiteral
      · exact List.eq_nil_of_length_eq_zero noSlot
    · exact .inl (Nat.ne_of_gt some)
  omega

/-- A shared future that is not to be resolved any more does not act. -/
theorem acts_awaitShared {cell : Nat} {props : Props}
    (idle : ∀ future polls, w.futures[cell]? ≠ some (.unresolved future polls)) :
    Run.acts ⟨.awaitShared cell props :: rest, w⟩ = false := by
  rw [Run.acts, List.head?_cons, Option.any_some, Frame.acts]
  split
  next future polls found => exact absurd found (idle future polls)
  next => rfl

/-! ## Inputs -/

theorem Mute.passes {i : Input φ} (h : Mute w i) : Passes host w i := by
  induction h with
  | null => exact fun _ _ _ ends => .step rfl rfl ends
  | @taken cell taken =>
      intro props fromFunction rest ends
      have idle : Run.acts ⟨.input (.stream cell) props fromFunction :: rest, w⟩ = false := by
        simp [Run.acts, Frame.acts, Input.acts, taken]
      have step : Machine.step host ⟨.input (.stream cell) props fromFunction :: rest, w⟩
          = .more ⟨rest, w⟩ := by
        simp only [Machine.step, stepInput, taken]
      exact .step idle step ends
  | list _ ih =>
      intro props fromFunction rest ends
      exact .step rfl rfl (.items (.inl ⟨ih, .step rfl rfl ends⟩))
  | template _ ih =>
      intro props fromFunction rest ends
      exact .step rfl rfl (.binder (.inl ⟨ih, .step rfl rfl ends⟩))
  | @unknown cell unknown =>
      intro props fromFunction rest ends
      have step : Machine.step host ⟨.awaitShared cell props :: rest, w⟩ = .more ⟨rest, w⟩ := by
        simp only [Machine.step, stepShared, unknown]
      exact .step rfl rfl (.step (acts_awaitShared (by simp [unknown])) step ends)
  | @resolved cell i found _ ih =>
      intro props fromFunction rest ends
      have step : Machine.step host ⟨.awaitShared cell props :: rest, w⟩
          = .more ⟨.input i props false :: rest, w⟩ := by
        simp only [Machine.step, stepShared, found, stepResolved]
      exact .step rfl rfl (.step (acts_awaitShared (by simp [found])) step (ih _ _ _ ends))

theorem Speaks.breaks {i : Input φ} (h : Speaks w i) : Breaks host w i := by
  induction h with
  | number x =>
      intro props fromFunction rest below failed ends
      have step : Machine.step host ⟨.input (.number x) props fromFunction :: rest, w⟩
          = deliver (.ok (scalar (formatNumber x) props fromFunction)) rest w := by
        simp only [Machine.step, stepInput]
      exact .of_deliver rfl step failed ends
  | text s =>
      intro props fromFunction rest below failed ends
      have step : Machine.step host ⟨.input (.text s) props fromFunction :: rest, w⟩
          = deliver (.ok (scalar s props fromFunction)) rest w := by
        simp only [Machine.step, stepInput]
      exact .of_deliver rfl step failed ends
  | list whole silent _ ih =>
      intro props fromFunction rest below failed ends
      refine .step rfl rfl (.items (.inr ⟨⟨_, _, _, whole, ?_, ih⟩, below, failed, ends⟩))
      exact fun j mem => (silent j mem).passes
  | template whole silent _ ih =>
      intro props fromFunction rest below failed ends
      refine .step rfl rfl (.binder (.inr ⟨⟨_, _, _, whole, ?_, ih⟩, below, failed, ends⟩))
      exact fun j mem => (silent j mem).passes
  | @rejected cell f found =>
      intro props fromFunction rest below failed ends
      have step : Machine.step host ⟨.awaitShared cell props :: rest, w⟩
          = deliver (.error f) rest w := by
        simp only [Machine.step, stepShared, found, stepResolved]
      exact .step rfl rfl (.of_deliver (acts_awaitShared (by simp [found])) step failed ends)
  | @resolved cell i found _ ih =>
      intro props fromFunction rest below failed ends
      have step : Machine.step host ⟨.awaitShared cell props :: rest, w⟩
          = .more ⟨.input i props false :: rest, w⟩ := by
        simp only [Machine.step, stepShared, found, stepResolved]
      refine .step rfl rfl (.step (acts_awaitShared (by simp [found])) step ?_)
      exact ih _ _ _ below failed ends

/-! ## Frames -/

/-- An input for a future goes on as the frame that awaits it. -/
theorem EndsQuietly.awaitShared {cell : Nat} {fromFunction : Bool}
    (h : EndsQuietly host ⟨.input (.deferred (.shared cell)) props fromFunction :: rest, w⟩) :
    EndsQuietly host ⟨.awaitShared cell props :: rest, w⟩ := by
  cases h with
  | step _ step ends =>
      cases step
      exact ends

theorem EndsQuietly.frame {f : Frame φ} {xs : List (Input φ)} (contents : f.contents? = some xs)
    (h : EndsAfter host w xs rest) : EndsQuietly host ⟨f :: rest, w⟩ := by
  cases f with
  | guard failed =>
      cases contents
      exact .step rfl rfl h.of_nil
  | input i props fromFunction =>
      cases contents
      rcases h.of_cons with ⟨passes, later⟩ | ⟨breaks, below, failed, ends⟩
      · exact passes _ _ _ later.of_nil
      · exact breaks _ _ _ below failed ends
  | items props index items =>
      cases contents
      exact .items h
  | binder props literals slots =>
      cases contents
      exact .binder h
  | loop props id body options next => cases contents
  | map props id count item next => cases contents
  | feed signals => cases contents
  | awaitShared cell props =>
      cases contents
      rcases h.of_cons with ⟨passes, later⟩ | ⟨breaks, below, failed, ends⟩
      · exact (passes props false rest later.of_nil).awaitShared
      · exact (breaks props false rest below failed ends).awaitShared
  | awaitFresh future polls props => cases contents
  | waiting key props index => cases contents
  | generation g props feed =>
      rw [Frame.contents?] at contents
      split at contents
      next isDone =>
        cases contents
        have step : Machine.step host ⟨.generation g props feed :: rest, w⟩ = .more ⟨rest, w⟩ :=
          stepGeneration_of_done props feed rest w isDone
        exact .step (by simp [Run.acts, Frame.acts, isDone]) step h.of_nil
      next => cases contents

theorem EndsQuietly.of_clean {stack : List (Frame φ)} (h : Clean w stack) :
    EndsQuietly host ⟨stack, w⟩ := by
  induction h with
  | nil => exact .done w
  | silent contents silent _ ih =>
      exact .frame contents (.inl ⟨fun i mem => (silent i mem).passes, ih⟩)
  | spoken contents spoken failed _ ih =>
      obtain ⟨before, i, after, whole, silent, speaks⟩ := spoken
      refine .frame contents (.inr ⟨⟨before, i, after, whole, ?_, speaks.breaks⟩, _, failed, ih⟩)
      exact fun j mem => (silent j mem).passes

end Ending

/-- A run ends quietly exactly when its stack is clean. -/
theorem endsQuietly_iff {host : Host φ ν} {m : Run φ ν} :
    EndsQuietly host m ↔ Clean m.world m.stack := by
  constructor
  · intro h
    induction h with
    | done w => exact .nil
    | step idle step _ ih =>
        obtain ⟨world, clean⟩ := idle_step idle step
        exact clean (world ▸ ih)
  · exact .of_clean

/-- A poll of a run that ends quietly answers with the end and changes nothing
else. -/
theorem EndsQuietly.poll {host : Host φ ν} {m : Run φ ν} (h : EndsQuietly host m) :
    ∃ enough, ∀ fuel, enough ≤ fuel → Run.poll host fuel m = (.ended, ⟨[], m.world⟩) := by
  induction h with
  | done w =>
      refine ⟨1, fun fuel enough => ?_⟩
      cases fuel with
      | zero => exact absurd enough (Nat.not_succ_le_zero 0)
      | succ fuel => rfl
  | step idle step _ ih =>
      obtain ⟨enough, later⟩ := ih
      refine ⟨enough + 1, fun fuel more => ?_⟩
      cases fuel with
      | zero => exact absurd more (Nat.not_succ_le_zero enough)
      | succ fuel =>
          rw [Run.poll, step]
          rw [← (idle_step idle step).1]
          exact later fuel (Nat.le_of_succ_le_succ more)

end PromptStream
