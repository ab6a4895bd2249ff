import Mathlib.Data.List.Basic
import Mathlib.Data.List.TakeDrop
import PromptStream.Proofs.Engine.Quiet
import PromptStream.Proofs.Engine.StepBelow

/-!
# Nothing runs ahead

A shorter run has the first inputs of a list, or the first part of a template; a longer one
has all of it.  The two differ only at the bottom of their stacks, in what is still to come
(`ListCut`, `TemplateCut`).  Above it they do the same steps (`step_onto`), and when the
shorter one comes to its end it only pops frames (`Frame.Spent`).  So up to every element
that the shorter run hands out, the longer run has handed out the same and has left the
same world.

A template looks one literal ahead, since a slot is told the literal that follows it.  So
the first part of a template ends with a literal.
-/

namespace PromptStream

variable {φ ν : Type}

/-! ## Work that comes to its end -/

/-- A frame with nothing left to do. -/
def Frame.Spent : Frame φ → Prop
  | .guard _ => True
  | .items _ _ more => more = []
  | .binder _ literals slots => literals = [] ∧ slots = []
  | _ => False

/-- Stacks of such frames. -/
def Frame.AllSpent (stack : List (Frame φ)) : Prop := ∀ f ∈ stack, f.Spent

namespace Run

variable {host : Host φ ν}

theorem step_of_spent {f : Frame φ} (spent : f.Spent) (rest : List (Frame φ)) (w : World φ ν) :
    Machine.step host ⟨f :: rest, w⟩ = .more ⟨rest, w⟩ := by
  cases f with
  | guard failed => rfl
  | items props index more => cases spent; rfl
  | binder props literals slots => obtain ⟨rfl, rfl⟩ := spent; rfl
  | _ => exact spent.elim

theorem poll_of_spent (host : Host φ ν) (fuel : Nat) {m : Run φ ν}
    (spent : Frame.AllSpent m.stack) :
    (poll host fuel m).1.element? = none ∧ Frame.AllSpent (poll host fuel m).2.stack := by
  induction fuel generalizing m with
  | zero => exact ⟨rfl, spent⟩
  | succ fuel ih =>
      obtain ⟨stack, w⟩ := m
      cases stack with
      | nil => exact ⟨rfl, spent⟩
      | cons f rest =>
          rw [poll, step_of_spent (spent f List.mem_cons_self)]
          exact ih fun g mem => spent g (List.mem_cons_of_mem f mem)

theorem play_of_spent (host : Host φ ν) (moves : List (Move ν)) {m : Run φ ν}
    (spent : Frame.AllSpent m.stack) :
    ∀ answer ∈ (play host moves m).1, answer.element? = none := by
  induction moves generalizing m with
  | nil => exact fun _ mem => nomatch mem
  | cons move moves ih =>
      cases move with
      | poll fuel =>
          have polled := poll_of_spent host fuel spent
          intro answer mem
          rcases List.mem_cons.1 mem with rfl | mem
          · exact polled.1
          · exact ih polled.2 answer mem
      | write x => exact ih spent

/-! ## Two runs that differ below -/

/-- Two runs that do the same on top of different work. -/
def Apart (cut : List (Frame φ) → List (Frame φ) → Prop) (short long : Run φ ν) : Prop :=
  ∃ (m : Run φ ν) (rest rest' : _), cut rest rest' ∧ short = m.onto rest ∧ long = m.onto rest'

/-- What polls of a shorter and a longer run come to: the shorter one fails, both do the
same, or the shorter one comes to its end. -/
inductive Agree (cut : List (Frame φ) → List (Frame φ) → Prop) (short long : Poll × Run φ ν) :
    Prop where
  | failed (f : Fault) : short.1 = .failed f → Agree cut short long
  | same : long.1 = short.1 → Apart cut short.2 long.2 → Agree cut short long
  | spent : short.1.element? = none → Frame.AllSpent short.2.stack → Agree cut short long

/-- Work that a shorter run lacks, and that is not looked at before it is reached. -/
structure Unseen (host : Host φ ν) (cut : List (Frame φ) → List (Frame φ) → Prop) : Prop where
  short : ∀ {rest rest'}, cut rest rest' → Frame.belowFailed rest = none
  long : ∀ {rest rest'}, cut rest rest' → Frame.belowFailed rest' = none
  reached : ∀ {rest rest'}, cut rest rest' → ∀ w,
    Agree cut (settle (Machine.step host ⟨rest, w⟩)) (settle (Machine.step host ⟨rest', w⟩))

section Apart

variable {cut : List (Frame φ) → List (Frame φ) → Prop} {short long : Run φ ν}

theorem Apart.world (apart : Apart cut short long) : long.world = short.world := by
  obtain ⟨m, rest, rest', -, rfl, rfl⟩ := apart
  rfl

theorem Apart.write (apart : Apart cut short long) (x : Write ν) :
    Apart cut (short.write x) (long.write x) := by
  obtain ⟨m, rest, rest', below, rfl, rfl⟩ := apart
  exact ⟨m.write x, rest, rest', below, rfl, rfl⟩

/-- The same step on top of different work. -/
theorem agree_onto {rest rest' : List (Frame φ)} (below : cut rest rest') (s : Step φ ν) :
    Agree cut (settle (s.onto rest)) (settle (s.onto rest')) := by
  match s with
  | .more m => exact .same rfl ⟨m, _, _, below, rfl, rfl⟩
  | .item (.ok e) m => exact .same rfl ⟨⟨m.stack, m.world.consume e⟩, _, _, below, rfl, rfl⟩
  | .item (.error f) m => exact .failed f rfl
  | .pending m => exact .same rfl ⟨m, _, _, below, rfl, rfl⟩
  | .ended m => exact .same rfl ⟨m, _, _, below, rfl, rfl⟩

theorem agree_of_spent {rest : List (Frame φ)} (spent : Frame.AllSpent rest) (w : World φ ν)
    (long : Poll × Run φ ν) : Agree cut (settle (Machine.step host ⟨rest, w⟩)) long := by
  have polled := poll_of_spent host 1 (m := ⟨rest, w⟩) spent
  rw [poll_one] at polled
  exact .spent polled.1 polled.2

variable (unseen : Unseen host cut)

include unseen

theorem agree_poll_one (apart : Apart cut short long) :
    Agree cut (poll host 1 short) (poll host 1 long) := by
  obtain ⟨m, rest, rest', below, rfl, rfl⟩ := apart
  rw [poll_one, poll_one]
  by_cases reached : m.stack = []
  · obtain ⟨stack, w⟩ := m
    cases reached
    exact unseen.reached below w
  · rw [step_onto (unseen.short below) host reached, step_onto (unseen.long below) host reached]
    exact agree_onto below _

theorem agree_poll (fuel : Nat) (apart : Apart cut short long) :
    Agree cut (poll host fuel short) (poll host fuel long) := by
  induction fuel generalizing short long with
  | zero => exact .same rfl apart
  | succ fuel ih =>
      rw [poll_succ, poll_succ host fuel long]
      cases agree_poll_one unseen apart with
      | failed f failed =>
          rw [if_neg (by rw [failed]; exact nofun)]
          exact .failed f failed
      | same same apart =>
          rw [same]
          split
          next => exact ih apart
          next => exact .same same apart
      | spent silent spent =>
          have later := poll_of_spent host fuel spent
          split
          next => exact .spent later.1 later.2
          next => exact .spent silent spent

/-- Up to an element of the shorter run, the longer one answers the same and leaves the same
world.  The induction is on the moves: a poll that brings the shorter run to its end is not
followed by an element. -/
theorem play_apart (moves : List (Move ν)) (apart : Apart cut short long)
    (fine : ∀ f, .failed f ∉ (play host moves short).1)
    (last : ∀ answer ∈ (play host moves short).1.getLast?, answer.element?.isSome) :
    (play host moves long).1 = (play host moves short).1 ∧
      Apart cut (play host moves short).2 (play host moves long).2 := by
  induction moves generalizing short long with
  | nil => exact ⟨rfl, apart⟩
  | cons move moves ih =>
      cases move with
      | write x => exact ih (apart.write x) fine last
      | poll fuel =>
          cases agree_poll unseen fuel apart with
          | failed f failed => exact absurd (failed ▸ List.mem_cons_self) (fine f)
          | same same apart =>
              have later := ih apart (fun f mem => fine f (List.mem_cons_of_mem _ mem))
                fun answer mem => last answer (List.mem_getLast?_cons mem)
              exact ⟨congrArg₂ List.cons same later.1, later.2⟩
          | spent silent spent =>
              have ended : ∀ answer ∈ (play host (.poll fuel :: moves) short).1,
                  answer.element? = none :=
                List.forall_mem_cons.2 ⟨silent, play_of_spent host moves spent⟩
              obtain ⟨answer, found⟩ : ∃ answer, answer ∈
                  (play host (.poll fuel :: moves) short).1.getLast? := ⟨_, List.getLast?_cons⟩
              have said := last answer found
              rw [ended answer (List.mem_of_mem_getLast? found)] at said
              cases said

end Apart

/-! ## The rest of a list -/

/-- The stacks of a list that is followed by nothing and by some later inputs: not entered
yet, or at one of its positions. -/
inductive ListCut (props : Props) (items later : List (Input φ)) :
    List (Frame φ) → List (Frame φ) → Prop where
  | whole : ListCut props items later (Frame.guarded (.list items) props)
      (Frame.guarded (.list (items ++ later)) props)
  | items (index : Nat) : ListCut props items later
      [.items props index (items.drop index), .guard false, .guard false]
      [.items props index (items.drop index ++ later), .guard false, .guard false]

theorem unseen_list (host : Host φ ν) (props : Props) (items later : List (Input φ)) :
    Unseen host (ListCut props items later) where
  short below := by cases below <;> rfl
  long below := by cases below <;> rfl
  reached below w := by
    cases below with
    | whole => exact agree_onto (.items 0) (.more ⟨[], w⟩)
    | items index =>
        by_cases left : index < items.length
        · have next : ListCut props items later _ _ := .items (index + 1)
          rw [List.drop_eq_getElem_cons left]
          exact agree_onto next (.more ⟨[.input items[index] (props.descend index) false], w⟩)
        · rw [List.drop_eq_nil_of_le (Nat.le_of_not_lt left)]
          exact agree_of_spent (by simp [Frame.AllSpent, Frame.Spent]) w _

/-! ## The rest of a template -/

/-- The frames of a slot that is followed by a literal, or by none. -/
def slotFrames (props : Props) (follows : Option String) : Option (Slot φ) → List (Frame φ)
  | some (some i) => Frame.guarded i (props.withNextLiteral follows)
  | _ => []

/-- What a template does at a literal and the slot after it, given the literal after that. -/
def literalStep (props : Props) (literal follows : Option String) (slot : Option (Slot φ))
    (w : World φ ν) : Step φ ν :=
  match literal with
  | some s =>
      if s.isEmpty then .more ⟨slotFrames props follows slot, w⟩
      else deliver (.ok (Element.stored ⟨s, .prompt, props.context.role⟩))
        (slotFrames props follows slot) w
  | none => .more ⟨slotFrames props follows slot, w⟩

theorem templateRest_eq_slotFrames (props : Props) (literals : List String)
    (slots : List (Slot φ)) (rest : List (Frame φ)) :
    templateRest props literals slots rest = slotFrames props literals.tail.head? slots.head?
      ++ .binder props literals.tail slots.tail :: rest := by
  rw [templateRest]
  cases slots.head? with
  | none => rfl
  | some slot => cases slot <;> rfl

/-- A template looks at its next two literals and at its next slot. -/
theorem stepBinder_eq_onto {rest : List (Frame φ)} (intact : Frame.belowFailed rest = none)
    (props : Props) {literals : List String} {slots : List (Slot φ)} (w : World φ ν)
    (left : ¬ (literals = [] ∧ slots = [])) :
    stepBinder props literals slots rest w
      = (literalStep props literals.head? literals.tail.head? slots.head? w).onto
          (.binder props literals.tail slots.tail :: rest) := by
  have below : Frame.belowFailed (.binder props literals.tail slots.tail :: rest) = none := intact
  rw [stepBinder_of_left props rest w left, templateRest_eq_slotFrames]
  cases literals.head? with
  | none => rfl
  | some literal =>
      rw [literalStep]
      dsimp only
      split
      next => rfl
      next => exact deliver_onto (.of_intact below _) _ w

section Binder

variable {cut : List (Frame φ) → List (Frame φ) → Prop} {props : Props} {rest : List (Frame φ)}
  (intact : Frame.belowFailed rest = none) {literals : List String} {slots : List (Slot φ)}
  (w : World φ ν)

include intact

/-- Before the last literal of the first part, the first part has the same next two literals
and the same next slot. -/
theorem agree_binder (left : ¬ (literals = [] ∧ slots = [])) (more : Nat)
    (below : cut (.binder props (literals.tail.take (more + 1)) (slots.tail.take more) :: rest)
      (.binder props literals.tail slots.tail :: rest)) :
    Agree cut
      (settle (stepBinder props (literals.take (more + 2)) (slots.take (more + 1)) rest w))
      (settle (stepBinder props literals slots rest w)) := by
  have first : stepBinder props (literals.take (more + 2)) (slots.take (more + 1)) rest w
      = (literalStep props literals.head? literals.tail.head? slots.head? w).onto
          (.binder props (literals.tail.take (more + 1)) (slots.tail.take more) :: rest) := by
    rw [stepBinder_eq_onto intact props w (by simpa using left)]
    simp only [List.head?_take, List.tail_take_eq_take_tail, Nat.add_one_ne_zero, if_false,
      Nat.add_sub_cancel]
    rfl
  rw [first, stepBinder_eq_onto intact props w left]
  exact agree_onto below _

/-- At its last literal, the first part ends, and the template has its next slot before it. -/
theorem agree_last (spent : Frame.AllSpent rest) (literal : String) (later : List String)
    (below : cut (.binder props [] [] :: rest)
      (templateRest props (literal :: later) slots rest)) :
    Agree cut (settle (stepBinder props [literal] [] rest w))
      (settle (stepBinder props (literal :: later) slots rest w)) := by
  rw [stepBinder_of_left props rest w (by simp), stepBinder_of_left props rest w (by simp)]
  dsimp only [List.head?_cons]
  split
  next => exact .spent rfl (List.forall_mem_cons.2 ⟨⟨rfl, rfl⟩, spent⟩)
  next =>
    rw [deliver, belowFailed_templateRest, intact, deliver, belowFailed_templateRest, intact]
    exact .same rfl ⟨⟨[], w.consume _⟩, _, _, below, rfl, rfl⟩

end Binder

/-- The stacks of the first part of a template, which ends with a literal, and of the whole:
not entered yet, at one of its positions, or at the end of the first part. -/
inductive TemplateCut (props : Props) (scope : Scope) (literals : List String)
    (slots : List (Slot φ)) (n : Nat) : List (Frame φ) → List (Frame φ) → Prop where
  | whole : TemplateCut props scope literals slots n
      (Frame.guarded (.action (.template scope (literals.take (n + 1)) (slots.take n))) props)
      (Frame.guarded (.action (.template scope literals slots)) props)
  | binder (k more : Nat) (position : k + more = n) : TemplateCut props scope literals slots n
      (.binder (props.fork (scope props.context)) ((literals.drop k).take (more + 1))
        ((slots.drop k).take more) :: [.guard false, .guard false])
      (.binder (props.fork (scope props.context)) (literals.drop k) (slots.drop k)
        :: [.guard false, .guard false])
  | reached : TemplateCut props scope literals slots n
      (.binder (props.fork (scope props.context)) [] [] :: [.guard false, .guard false])
      (templateRest (props.fork (scope props.context)) (literals.drop n) (slots.drop n)
        [.guard false, .guard false])

theorem unseen_template (host : Host φ ν) (props : Props) (scope : Scope)
    (literals : List String) (slots : List (Slot φ)) (n : Nat) :
    Unseen host (TemplateCut props scope literals slots n) where
  short below := by cases below <;> rfl
  long below := by
    cases below with
    | reached => exact belowFailed_templateRest _ _
    | _ => rfl
  reached below w := by
    have intact : Frame.belowFailed ([.guard false, .guard false] : List (Frame φ)) = none := rfl
    have spent (inner : Props) : Frame.AllSpent
        (.binder inner [] [] :: [.guard false, .guard false] : List (Frame φ)) := by
      simp [Frame.AllSpent, Frame.Spent]
    cases below with
    | whole => exact agree_onto (.binder 0 n (Nat.zero_add n)) (.more ⟨[], w⟩)
    | reached => exact agree_of_spent (spent _) w _
    | binder k more position =>
        cases more with
        | zero =>
            obtain rfl : k = n := position
            have below : TemplateCut props scope literals slots k _ _ := .reached
            cases head : literals.drop k with
            | nil => exact agree_of_spent (spent _) w _
            | cons literal later =>
                rw [head] at below
                exact agree_last intact w (List.forall_mem_cons.1 (spent default)).2 literal later
                  below
        | succ more =>
            by_cases left : literals.drop k = [] ∧ slots.drop k = []
            · rw [left.1, left.2]
              exact agree_of_spent (spent _) w _
            · have below : TemplateCut props scope literals slots n _ _ :=
                .binder (k + 1) more (by omega)
              rw [← List.tail_drop, ← List.tail_drop] at below
              exact agree_binder intact w left more below

/-! ## Whole runs -/

/-- Before the first pull, all that changes a run is what is written from outside. -/
theorem play_writes (host : Host φ ν) (ws : List (Write ν)) (m : Run φ ν) :
    play host (ws.map .write) m
      = ([], ⟨m.stack, { m.world with scene := m.world.scene.writeAll ws }⟩) := by
  induction ws generalizing m with
  | nil => rfl
  | cons x ws ih => exact ih (m.write x)

/-- The answers to whole pulls: none is a failure, and the last one is an element. -/
structure Pulled (answers : List Poll) : Prop where
  fine : ∀ f, .failed f ∉ answers
  last : ∃ e, answers.getLast? = some (.element e)

theorem Unseen.play {host : Host φ ν} {cut : List (Frame φ) → List (Frame φ) → Prop}
    (unseen : Unseen host cut) {rest rest' : List (Frame φ)} (below : cut rest rest')
    (w : World φ ν) {moves : List (Move ν)} (pulled : Pulled (play host moves ⟨rest, w⟩).1) :
    (Run.play host moves ⟨rest', w⟩).1 = (Run.play host moves ⟨rest, w⟩).1 ∧
      (Run.play host moves ⟨rest', w⟩).2.world = (Run.play host moves ⟨rest, w⟩).2.world ∧
      Apart cut (Run.play host moves ⟨rest, w⟩).2 (Run.play host moves ⟨rest', w⟩).2 := by
  obtain ⟨e, last⟩ := pulled.last
  have apart : Apart cut (⟨rest, w⟩ : Run φ ν) ⟨rest', w⟩ :=
    ⟨⟨[], w⟩, rest, rest', below, rfl, rfl⟩
  have ahead := play_apart unseen moves apart pulled.fine (by simp [last, Poll.element?])
  exact ⟨ahead.1, ahead.2.world, ahead.2⟩

/-- Nothing runs ahead, whatever author code, connectors and the outside do.  Up to every
element of a list, the items that follow the list do not matter: the answers and the whole
world are the same without them, and they are still to come at the bottom of the stack.
Likewise for a template and what follows one of its literals.  Before the first pull, there
is nothing but what was written from outside. -/
theorem nothing_runs_ahead (host : Host φ ν) (props : Props) (w : World φ ν) :
    (∀ (items later : List (Input φ)) (moves : List (Move ν)),
      let short := Run.play host moves ⟨Frame.guarded (.list items) props, w⟩
      let long := Run.play host moves ⟨Frame.guarded (.list (items ++ later)) props, w⟩
      Pulled short.1 →
        long.1 = short.1 ∧ long.2.world = short.2.world ∧
          Apart (ListCut props items later) short.2 long.2) ∧
    (∀ (scope : Scope) (literals : List String) (slots : List (Slot φ)) (n : Nat)
        (moves : List (Move ν)),
      let first : Action φ := .template scope (literals.take (n + 1)) (slots.take n)
      let short := Run.play host moves ⟨Frame.guarded (.action first) props, w⟩
      let long := Run.play host moves
        ⟨Frame.guarded (.action (.template scope literals slots)) props, w⟩
      Pulled short.1 →
        long.1 = short.1 ∧ long.2.world = short.2.world ∧
          Apart (TemplateCut props scope literals slots n) short.2 long.2) ∧
    ∀ (i : Input φ) (ws : List (Write ν)),
      Run.play host (ws.map .write) ⟨Frame.guarded i props, w⟩
        = ([], ⟨Frame.guarded i props, { w with scene := w.scene.writeAll ws }⟩) := by
  refine ⟨?_, ?_, fun i ws => play_writes host ws _⟩
  · intro items later moves short long pulled
    exact (unseen_list host props items later).play .whole w pulled
  · intro scope literals slots n moves first short long pulled
    exact (unseen_template host props scope literals slots n).play .whole w pulled

/-- A model that is not asked: it would speak after a wait, in a list and in a template. -/
theorem nothing_runs_ahead_of_later_generation :
    let props : Props := { context := (default : Llm).context }
    let w : World Empty Empty := { connectors := [.scripted [[⟨0, "x"⟩]]] }
    let wait : Input Empty := .action (.wait "q")
    let speak : Input Empty := .action (.generate "answer" {})
    let moves := [.poll 9, .write (.push "q" (.text "hi")), .poll 9]
    let run (i : Input Empty) := Run.play .none moves ⟨Frame.guarded i props, w⟩
    let template (literals : List String) (slots : List (Slot Empty)) : Input Empty :=
      .action (.template (Scope.ofRole .user) literals slots)
    let items := run (.list [.text "a", wait])
    let part := run (template ["a", "."] [some wait])
    (Pulled items.1 ∧ Pulled part.1) ∧
    ((run (.list [.text "a", wait, speak])).1 = items.1 ∧
      (run (.list [.text "a", wait, speak])).2.world = items.2.world) ∧
    (run (template ["a", ".", ""] [some wait, some speak])).1 = part.1 ∧
      (run (template ["a", ".", ""] [some wait, some speak])).2.world = part.2.world := by
  intro props w wait speak moves run template items part
  have items_answers : items.1
      = [.element ⟨"a", .constant, .user⟩, .element ⟨"hi", .parameter, .user⟩] := by
    decide +kernel
  have part_answers : part.1
      = [.element ⟨"a", .prompt, .user⟩, .element ⟨"hi", .parameter, .user⟩] := by
    decide +kernel
  have pulled : Pulled items.1 ∧ Pulled part.1 := by
    rw [items_answers, part_answers]
    exact ⟨⟨by simp, _, rfl⟩, ⟨by simp, _, rfl⟩⟩
  obtain ⟨lists, templates, -⟩ := nothing_runs_ahead .none props w
  have list := lists [.text "a", wait] [speak] moves pulled.1
  have template := templates (Scope.ofRole .user) ["a", ".", ""] [some wait, some speak] 1 moves
    pulled.2
  exact ⟨pulled, ⟨list.1, list.2.1⟩, template.1, template.2.1⟩

/-- A slot is told the literal that follows it.  So a generation that stops there says
something else when the template goes on with a literal. -/
theorem other_text_of_following_literal :
    let props : Props := { context := (default : Llm).context }
    let w : World Empty Empty := { connectors := [.scripted [[⟨0, "abyc"⟩]]] }
    let speak : Slot Empty := some (.action (.generate "x" { stopAtNextLiteral := true }))
    let run (literals : List String) (pulls : Nat) :=
      Run.play .none (List.replicate pulls (.poll 9))
        ⟨Frame.guarded (.action (.template (Scope.ofRole .user) literals [speak])) props, w⟩
    (run ["Q"] 3).1 = [.element ⟨"Q", .prompt, .user⟩, .element ⟨"abyc", .llm, .user⟩, .ended] ∧
    (run (["Q"] ++ ["y"]) 2).1
      = [.element ⟨"Q", .prompt, .user⟩, .element ⟨"ab", .llm, .user⟩] := by
  decide +kernel

end Run

end PromptStream
