import PromptStream.Proofs.Engine.Play

/-!
# Quiet ends

A step *acts* if it runs author code, asks a connector, reports an event or polls
an outside source (`Run.acts`).  A step that does not act leaves the world as it
is and never consults the host.  A run *ends quietly* if it comes to its end by
such steps alone, without an item and without a pause (`EndsQuietly`).

Which runs do is told by the work that is left.  Some inputs resolve to nothing
without acting (`Mute`), and some hand out an item before anything acts
(`Speaks`).  Under a sequence that has failed, mute inputs are passed over and a
speaking one ends the sequence, so the work goes on below it.  A stack is *clean*
if this leads to its end (`Clean`).

A step that does not act leaves the world as it is, and it cannot make a stack
clean (`idle_step`).
-/

namespace PromptStream

variable {φ ν : Type}

/-! ## Acting -/

/-- Whether the first step of an input acts. -/
def Input.acts (w : World φ ν) : Input φ → Bool
  | .function _ => true
  | .stream cell => (w.takeStream? cell).isSome
  | .action (.template _ _ _) => false
  | .action _ => true
  | _ => false

/-- Whether a step of a frame acts. -/
def Frame.acts (w : World φ ν) : Frame φ → Bool
  | .guard _ => false
  | .input i _ _ => i.acts w
  | .items _ _ _ => false
  | .binder _ _ _ => false
  | .awaitShared cell _ =>
      match w.futures[cell]? with
      | some (.unresolved _ _) => true
      | _ => false
  | .generation g _ _ => !g.done
  | _ => true

/-- Whether the next step of a run acts. -/
def Run.acts (m : Run φ ν) : Bool := m.stack.head?.any (Frame.acts m.world)

/-- A step that does not act never consults the host. -/
theorem step_eq_of_idle {m : Run φ ν} (idle : m.acts = false) (host host' : Host φ ν) :
    Machine.step host m = Machine.step host' m := by
  obtain ⟨stack, w⟩ := m
  cases stack with
  | nil => rfl
  | cons f rest =>
      have idle : f.acts w = false := by simpa [Run.acts] using idle
      cases f with
      | guard failed => rfl
      | input i props fromFunction =>
          cases i with
          | function f => cases idle
          | deferred d => cases d <;> rfl
          | action a =>
              cases a with
              | custom f => cases idle
              | _ => rfl
          | _ => rfl
      | items props index items => cases items <;> rfl
      | loop props id body options next => cases idle
      | map props id count item next => cases idle
      | awaitShared cell props =>
          simp only [Machine.step, stepShared]
          split
          next => rfl
          next => rfl
          next future polls found =>
            rw [Frame.acts, found] at idle
            cases idle
      | awaitFresh future polls props => cases idle
      | _ => rfl

/-- A run that comes to its end by steps that go on and do not act. -/
inductive EndsQuietly (host : Host φ ν) : Run φ ν → Prop where
  | done (w : World φ ν) : EndsQuietly host ⟨[], w⟩
  | step {m n : Run φ ν} :
      m.acts = false → Machine.step host m = .more n → EndsQuietly host n → EndsQuietly host m

/-! ## Mute and speaking inputs -/

/-- The inputs that a literal stands for; an empty one stands for nothing. -/
def literalInputs (literal : String) : List (Input φ) :=
  if literal.isEmpty then [] else [.text literal]

/-- The inputs that are left in a template, its literals among its slots. -/
def templateInputs : List String → List (Slot φ) → List (Input φ)
  | [], slots => slots.filterMap id
  | literal :: literals, slots =>
      literalInputs literal ++ slots.head?.join.toList ++ templateInputs literals slots.tail

/-- Inputs that resolve to nothing without acting. -/
inductive Mute (w : World φ ν) : Input φ → Prop where
  | null : Mute w .null
  | taken {cell : Nat} : w.takeStream? cell = none → Mute w (.stream cell)
  | list {items : List (Input φ)} : (∀ i ∈ items, Mute w i) → Mute w (.list items)
  | template {scope : Context → Patch} {literals : List String} {slots : List (Slot φ)} :
      (∀ i ∈ templateInputs literals slots, Mute w i) →
      Mute w (.action (.template scope literals slots))
  | unknown {cell : Nat} : w.futures[cell]? = none → Mute w (.deferred (.shared cell))
  | resolved {cell : Nat} {i : Input φ} :
      w.futures[cell]? = some (.resolved (.ok i)) → Mute w i → Mute w (.deferred (.shared cell))

/-- Inputs that hand out an item before anything acts. -/
inductive Speaks (w : World φ ν) : Input φ → Prop where
  | number (x : Binary) : Speaks w (.number x)
  | text (s : String) : Speaks w (.text s)
  | list {items before after : List (Input φ)} {i : Input φ} :
      items = before ++ i :: after → (∀ j ∈ before, Mute w j) → Speaks w i →
      Speaks w (.list items)
  | template {scope : Context → Patch} {literals : List String} {slots : List (Slot φ)}
      {before after : List (Input φ)} {i : Input φ} :
      templateInputs literals slots = before ++ i :: after → (∀ j ∈ before, Mute w j) →
      Speaks w i → Speaks w (.action (.template scope literals slots))
  | rejected {cell : Nat} {f : Fault} :
      w.futures[cell]? = some (.resolved (.error f)) → Speaks w (.deferred (.shared cell))
  | resolved {cell : Nat} {i : Input φ} :
      w.futures[cell]? = some (.resolved (.ok i)) → Speaks w i →
      Speaks w (.deferred (.shared cell))

/-- Inputs that all resolve to nothing without acting. -/
def Silent (w : World φ ν) (xs : List (Input φ)) : Prop := ∀ i ∈ xs, Mute w i

/-- Inputs of which one hands out an item before anything acts. -/
def Spoken (w : World φ ν) (xs : List (Input φ)) : Prop :=
  ∃ before i after, xs = before ++ i :: after ∧ Silent w before ∧ Speaks w i

/-! ## Clean stacks -/

namespace Frame

/-- The inputs that a frame still stands for, if its steps do not act. -/
def contents? : Frame φ → Option (List (Input φ))
  | .guard _ => some []
  | .input i _ _ => some [i]
  | .items _ _ rest => some rest
  | .binder _ literals slots => some (templateInputs literals slots)
  | .awaitShared cell _ => some [.deferred (.shared cell)]
  | .generation g _ _ => if g.done then some [] else none
  | _ => none

end Frame

/-- Stacks whose work comes to its end without acting. -/
inductive Clean (w : World φ ν) : List (Frame φ) → Prop where
  | nil : Clean w []
  | silent {f : Frame φ} {rest : List (Frame φ)} {xs : List (Input φ)} :
      f.contents? = some xs → Silent w xs → Clean w rest → Clean w (f :: rest)
  | spoken {f : Frame φ} {rest below : List (Frame φ)} {xs : List (Input φ)} :
      f.contents? = some xs → Spoken w xs → Frame.belowFailed rest = some below →
      Clean w below → Clean w (f :: rest)

/-! ## Resuming -/

section Resuming

variable (mute speaks : Input φ → Prop) (clean : List (Frame φ) → Prop)

/-- How the work goes on after some inputs: with what is below them if all are
mute, and below the innermost failed sequence if one of them speaks. -/
def Resumes (xs : List (Input φ)) (rest : List (Frame φ)) : Prop :=
  ((∀ i ∈ xs, mute i) ∧ clean rest) ∨
    ((∃ before i after, xs = before ++ i :: after ∧ (∀ j ∈ before, mute j) ∧ speaks i) ∧
      ∃ below, Frame.belowFailed rest = some below ∧ clean below)

variable {mute speaks clean} {xs ys : List (Input φ)} {i : Input φ} {f : Frame φ}
  {rest rest' : List (Frame φ)}

theorem Resumes.nil (h : clean rest) : Resumes mute speaks clean [] rest :=
  .inl ⟨fun _ mem => absurd mem List.not_mem_nil, h⟩

theorem Resumes.of_nil (h : Resumes mute speaks clean [] rest) : clean rest := by
  rcases h with ⟨-, ends⟩ | ⟨⟨before, i, after, split, -⟩, -⟩
  · exact ends
  · exact absurd split (by simp)

theorem Resumes.of_cons (h : Resumes mute speaks clean (i :: xs) rest) :
    (mute i ∧ Resumes mute speaks clean xs rest) ∨
      (speaks i ∧ ∃ below, Frame.belowFailed rest = some below ∧ clean below) := by
  rcases h with ⟨silent, ends⟩ | ⟨⟨before, j, after, split, silent, spoken⟩, broken⟩
  · refine .inl ⟨silent i List.mem_cons_self, .inl ⟨?_, ends⟩⟩
    exact fun j mem => silent j (List.mem_cons_of_mem i mem)
  · cases before with
    | nil =>
        obtain ⟨rfl, -⟩ := List.cons.inj split
        exact .inr ⟨spoken, broken⟩
    | cons k before =>
        obtain ⟨rfl, whole⟩ := List.cons.inj split
        have later : ∀ j ∈ before, mute j := fun j mem => silent j (List.mem_cons_of_mem i mem)
        exact .inl ⟨silent i List.mem_cons_self,
          .inr ⟨⟨before, j, after, whole, later, spoken⟩, broken⟩⟩

theorem Resumes.of_mute (h : mute i) (later : Resumes mute speaks clean xs rest) :
    Resumes mute speaks clean (i :: xs) rest := by
  rcases later with ⟨silent, ends⟩ | ⟨⟨before, j, after, rfl, silent, spoken⟩, broken⟩
  · refine .inl ⟨?_, ends⟩
    intro j mem
    rcases List.mem_cons.1 mem with rfl | mem
    · exact h
    · exact silent j mem
  · refine .inr ⟨⟨i :: before, j, after, rfl, ?_, spoken⟩, broken⟩
    intro k mem
    rcases List.mem_cons.1 mem with rfl | mem
    · exact h
    · exact silent k mem

theorem Resumes.of_speaks (h : speaks i) {below : List (Frame φ)}
    (failed : Frame.belowFailed rest = some below) (ends : clean below) :
    Resumes mute speaks clean (i :: xs) rest :=
  .inr ⟨⟨[], i, xs, rfl, fun _ mem => absurd mem List.not_mem_nil, h⟩, below, failed, ends⟩

/-- The inputs of a frame follow those above it. -/
theorem Resumes.append (frame : clean rest' → Resumes mute speaks clean ys rest)
    (same : Frame.belowFailed rest' = Frame.belowFailed rest)
    (h : Resumes mute speaks clean xs rest') : Resumes mute speaks clean (xs ++ ys) rest := by
  induction xs with
  | nil => exact frame h.of_nil
  | cons i xs ih =>
      rcases h.of_cons with ⟨silent, later⟩ | ⟨spoken, below, failed, ends⟩
      · exact .of_mute silent (ih later)
      · exact .of_speaks spoken (same ▸ failed) ends

end Resuming

/-- Work that is clean after some inputs. -/
abbrev CleanAfter (w : World φ ν) := Resumes (Mute w) (Speaks w) (Clean w)

section Clean

variable {w : World φ ν} {f : Frame φ} {rest : List (Frame φ)} {xs ys : List (Input φ)}
  {i : Input φ}

theorem clean_cons_iff :
    Clean w (f :: rest) ↔ ∃ xs, f.contents? = some xs ∧ CleanAfter w xs rest := by
  constructor
  · intro h
    cases h with
    | silent contents silent clean => exact ⟨_, contents, .inl ⟨silent, clean⟩⟩
    | spoken contents spoken failed clean => exact ⟨_, contents, .inr ⟨spoken, _, failed, clean⟩⟩
  · rintro ⟨xs, contents, ⟨silent, clean⟩ | ⟨spoken, below, failed, clean⟩⟩
    · exact .silent contents silent clean
    · exact .spoken contents spoken failed clean

/-- The inputs of a frame, if its steps do not act. -/
theorem Clean.of_cons (h : Clean w (f :: rest)) (contents : f.contents? = some xs) :
    CleanAfter w xs rest := by
  obtain ⟨ys, found, clean⟩ := clean_cons_iff.1 h
  rw [contents] at found
  cases found
  exact clean

/-- An unmarked guard stands for nothing. -/
theorem CleanAfter.of_guard (h : CleanAfter w xs (.guard false :: rest)) :
    CleanAfter w xs rest := by
  rw [← List.append_nil xs]
  exact h.append (fun clean => clean.of_cons rfl) rfl

/-- An input is clean where its contents are. -/
theorem CleanAfter.of_contents (mute : Silent w xs → Mute w i) (speaks : Spoken w xs → Speaks w i)
    (h : CleanAfter w xs rest) : CleanAfter w [i] rest := by
  rcases h with ⟨silent, clean⟩ | ⟨spoken, below, failed, clean⟩
  · exact .of_mute (mute silent) (.nil clean)
  · exact .of_speaks (speaks spoken) failed clean

theorem Speaks.of_spoken_list (h : Spoken w xs) : Speaks w (.list xs) := by
  obtain ⟨before, i, after, whole, silent, spoken⟩ := h
  exact .list whole silent spoken

theorem Speaks.of_spoken_template {scope : Context → Patch} {literals : List String}
    {slots : List (Slot φ)} (h : Spoken w (templateInputs literals slots)) :
    Speaks w (.action (.template scope literals slots)) := by
  obtain ⟨before, i, after, whole, silent, spoken⟩ := h
  exact .template whole silent spoken

/-- A step hands out nothing only if a sequence below has failed; that sequence
ends. -/
theorem deliver_eq_more {result : Except Fault Element} {stack : List (Frame φ)} {n : Run φ ν}
    (step : deliver result stack w = .more n) :
    ∃ below, Frame.belowFailed stack = some below ∧ n = ⟨below, w⟩ := by
  unfold deliver at step
  split at step
  next below failed =>
    cases step
    exact ⟨below, failed, rfl⟩
  next => cases result <;> cases step

/-! ## Steps that do not act -/

section Steps

variable {host : Host φ ν} {n : Run φ ν} {props : Props}

theorem idle_stepInput {fromFunction : Bool} (idle : i.acts w = false)
    (step : stepInput host i props fromFunction rest w = .more n) :
    n.world = w ∧ (Clean w n.stack → CleanAfter w [i] rest) := by
  cases i with
  | null =>
      cases step
      exact ⟨rfl, fun h => .of_mute .null (.nil h)⟩
  | number x =>
      rw [stepInput] at step
      obtain ⟨below, failed, rfl⟩ := deliver_eq_more step
      exact ⟨rfl, fun h => .of_speaks (.number x) failed h⟩
  | text s =>
      rw [stepInput] at step
      obtain ⟨below, failed, rfl⟩ := deliver_eq_more step
      exact ⟨rfl, fun h => .of_speaks (.text s) failed h⟩
  | stream cell =>
      have taken : w.takeStream? cell = none :=
        Option.isNone_iff_eq_none.1 (Option.isSome_eq_false_iff.1 idle)
      rw [stepInput, taken] at step
      cases step
      exact ⟨rfl, fun h => .of_mute (.taken taken) (.nil h)⟩
  | function f => cases idle
  | deferred d =>
      cases d with
      | shared cell =>
          cases step
          exact ⟨rfl, fun h => h.of_cons rfl⟩
      | fresh future =>
          cases step
          refine ⟨rfl, fun h => ?_⟩
          obtain ⟨xs, none, -⟩ := clean_cons_iff.1 h
          cases none
  | list items =>
      cases step
      refine ⟨rfl, fun h => ?_⟩
      exact (CleanAfter.of_guard (h.of_cons rfl)).of_contents .list .of_spoken_list
  | action a =>
      cases a with
      | template scope literals slots =>
          cases step
          refine ⟨rfl, fun h => ?_⟩
          exact (CleanAfter.of_guard (h.of_cons rfl)).of_contents .template .of_spoken_template
      | generate name options => cases idle
      | loop id body options => cases idle
      | map id count item => cases idle
      | wait key => cases idle
      | custom f => cases idle

/-- A future that was resolved goes on with its value. -/
theorem idle_stepShared {cell : Nat} (idle : (Frame.awaitShared cell props).acts w = false)
    (step : stepShared host cell props rest w = .more n) :
    n.world = w ∧ (Clean w n.stack → CleanAfter w [.deferred (.shared cell)] rest) := by
  unfold stepShared at step
  split at step
  next unknown =>
    cases step
    exact ⟨rfl, fun h => .of_mute (.unknown unknown) (.nil h)⟩
  next result found =>
    cases result with
    | ok i =>
        cases step
        refine ⟨rfl, fun h => ?_⟩
        have above : CleanAfter w [i] rest := h.of_cons rfl
        rcases above.of_cons with ⟨mute, later⟩ | ⟨speaks, below, failed, clean⟩
        · exact .of_mute (.resolved found mute) later
        · exact .of_speaks (.resolved found speaks) failed clean
    | error f =>
        rw [stepResolved] at step
        obtain ⟨below, failed, rfl⟩ := deliver_eq_more step
        exact ⟨rfl, fun h => .of_speaks (.rejected found) failed h⟩
  next future polls found =>
    rw [Frame.acts, found] at idle
    cases idle

theorem templateInputs_of_left {literals : List String} {slots : List (Slot φ)}
    (left : ¬ (literals = [] ∧ slots = [])) :
    templateInputs literals slots
      = literals.head?.elim [] literalInputs
        ++ (slots.head?.join.toList ++ templateInputs literals.tail slots.tail) := by
  cases literals with
  | cons literal literals => exact List.append_assoc _ _ _
  | nil =>
      cases slots with
      | nil => exact absurd ⟨rfl, rfl⟩ left
      | cons slot slots => cases slot <;> rfl

/-- The next slot of a template is followed by what comes after it. -/
theorem cleanAfter_of_templateRest {literals : List String} {slots : List (Slot φ)}
    (h : Clean w (templateRest props literals slots rest)) :
    CleanAfter w (slots.head?.join.toList ++ templateInputs literals.tail slots.tail) rest := by
  rcases templateRest_cases props literals slots rest with ⟨i, filled, stack⟩ | ⟨absent, stack⟩
  · rw [stack] at h
    rw [filled]
    have slot : CleanAfter w [i] (.guard false :: .binder props literals.tail slots.tail :: rest) :=
      h.of_cons rfl
    exact slot.of_guard.append (fun clean => clean.of_cons rfl) rfl
  · rw [stack] at h
    rw [absent]
    exact h.of_cons rfl

theorem idle_stepBinder {literals : List String} {slots : List (Slot φ)}
    (step : stepBinder props literals slots rest w = .more n) :
    n.world = w ∧ (Clean w n.stack → CleanAfter w (templateInputs literals slots) rest) := by
  by_cases exhausted : literals = [] ∧ slots = []
  · obtain ⟨rfl, rfl⟩ := exhausted
    cases step
    exact ⟨rfl, fun h => .nil h⟩
  · rw [stepBinder_of_left props rest w exhausted] at step
    rw [templateInputs_of_left exhausted]
    split at step
    next literal head =>
      rw [head]
      split at step
      next empty =>
        cases step
        rw [Option.elim_some, literalInputs, if_pos empty]
        exact ⟨rfl, cleanAfter_of_templateRest⟩
      next full =>
        obtain ⟨below, failed, rfl⟩ := deliver_eq_more step
        rw [belowFailed_templateRest] at failed
        rw [Option.elim_some, literalInputs, if_neg full]
        exact ⟨rfl, fun h => .of_speaks (.text literal) failed h⟩
    next head =>
      cases step
      rw [head]
      exact ⟨rfl, cleanAfter_of_templateRest⟩

/-- A step that does not act leaves the world as it is, and if the work that it
leads to is clean, so was the work before it. -/
theorem idle_step {m : Run φ ν} (idle : m.acts = false) (step : Machine.step host m = .more n) :
    n.world = m.world ∧ (Clean m.world n.stack → Clean m.world m.stack) := by
  obtain ⟨stack, w⟩ := m
  cases stack with
  | nil => cases step
  | cons f rest =>
      have idle : f.acts w = false := by simpa [Run.acts] using idle
      cases f with
      | guard failed =>
          cases step
          exact ⟨rfl, fun h => clean_cons_iff.2 ⟨_, rfl, .nil h⟩⟩
      | input i props fromFunction =>
          obtain ⟨world, clean⟩ := idle_stepInput idle step
          exact ⟨world, fun h => clean_cons_iff.2 ⟨_, rfl, clean h⟩⟩
      | items props index items =>
          cases items with
          | nil =>
              cases step
              exact ⟨rfl, fun h => clean_cons_iff.2 ⟨_, rfl, .nil h⟩⟩
          | cons i items =>
              cases step
              refine ⟨rfl, fun h => ?_⟩
              have first : CleanAfter w [i] (.items props (index + 1) items :: rest) :=
                h.of_cons rfl
              have joined : CleanAfter w ([i] ++ items) rest :=
                first.append (fun clean => clean.of_cons rfl) rfl
              exact clean_cons_iff.2 ⟨_, rfl, joined⟩
      | binder props literals slots =>
          obtain ⟨world, clean⟩ := idle_stepBinder step
          exact ⟨world, fun h => clean_cons_iff.2 ⟨_, rfl, clean h⟩⟩
      | loop props id body options next => cases idle
      | map props id count item next => cases idle
      | feed signals => cases idle
      | awaitShared cell props =>
          obtain ⟨world, clean⟩ := idle_stepShared idle step
          exact ⟨world, fun h => clean_cons_iff.2 ⟨_, rfl, clean h⟩⟩
      | awaitFresh future polls props => cases idle
      | waiting key props index => cases idle
      | generation g props feed =>
          have isDone : g.done = true := by simpa [Frame.acts] using idle
          rw [show Machine.step host ⟨.generation g props feed :: rest, w⟩ = .more ⟨rest, w⟩ from
            stepGeneration_of_done props feed rest w isDone] at step
          cases step
          have contents : (Frame.generation g props feed : Frame φ).contents? = some [] := by
            simp [Frame.contents?, isDone]
          exact ⟨rfl, fun h => clean_cons_iff.2 ⟨_, contents, .nil h⟩⟩

end Steps

end Clean

end PromptStream
