import PromptStream.Proofs.Engine.Drain

/-!
# The whole tree

Draining a run hands out what the input comes to as a whole (`drain_eq_resolve`).

A machine follows the resolution of the frame on top of its stack, whatever work lies
below, as long as nothing there has failed.  There is one lemma for each kind of frame,
by induction over what the frame still has to do; all of them take it as given that the
inputs in it are followed (`Faithful`).  So `resolve` is followed by induction on its
fuel (`faithful_resolve`).

For the law itself this is enough in both directions.  A resolution that runs out of
fuel has been followed for at least so many steps, so no drain of fewer steps can hand
out anything else.
-/

namespace PromptStream

variable {φ ν : Type}

open Resolution

/-- Whether a way of resolving inputs is followed, wherever an input stands. -/
def Faithful (c : Consumer φ ν) (host : Host φ ν) (fuel : Nat) (again : Resolver φ ν) : Prop :=
  ∀ (i : Input φ) (props : Props) (fromFunction : Bool) (rest : List (Frame φ)) (w : World φ ν),
    Frame.belowFailed rest = none →
      Follows c host fuel ⟨.input i props fromFunction :: rest, w⟩ rest
        (again i props (scalarSource fromFunction) w)

/-- Whether it is followed where an input is resolved as a sequence of its own. -/
def SequenceFaithful (c : Consumer φ ν) (host : Host φ ν) (fuel : Nat) (again : Resolver φ ν) :
    Prop :=
  ∀ (i : Input φ) (props : Props) (rest : List (Frame φ)) (w : World φ ν),
    Frame.belowFailed rest = none →
      Follows c host fuel ⟨Frame.guarded i props ++ rest, w⟩ rest (again i props .constant w)

theorem Faithful.sequence {c : Consumer φ ν} {host : Host φ ν} {fuel : Nat}
    {again : Resolver φ ν} (faithful : Faithful c host fuel again) :
    SequenceFaithful c host fuel again := fun i props rest w intact =>
  (faithful i props false (.guard false :: rest) w intact).pop

namespace Follows

variable {c : Consumer φ ν} {host : Host φ ν} {fuel : Nat} {m : Machine φ ν}
  {rest : List (Frame φ)} {w : World φ ν} {r : Resolution φ ν}

theorem unbegun {top : Frame φ} : Follows c host 0 ⟨top :: rest, w⟩ rest .unfinished :=
  .unfinished 0 top [] w (Nat.le_refl 0) rfl

theorem drop_step (h : Follows c host (fuel + 1) m rest r) : Follows c host fuel m rest r :=
  h.mono (Nat.le_succ fuel)

theorem of_last_element {e : Element} (step : Machine.step host m = deliver (.ok e) rest w)
    (intact : Frame.belowFailed rest = none) : Follows c host fuel m rest (one c e w) := by
  rw [← andThen_nothing (one c e w)]
  exact (of_element step intact here).drop_step

/-! ## Outside sources -/

theorem feed (intact : Frame.belowFailed rest = none) (signals : Feed Element) (w : World φ ν) :
    Follows c host fuel ⟨.feed signals :: rest, w⟩ rest (resolveFeed c signals w) := by
  induction signals generalizing w with
  | nil => exact (of_more rfl here).drop_step
  | cons signal more ih =>
      cases signal with
      | item e =>
          have step : Machine.step host ⟨.feed (.item e :: more) :: rest, w⟩
              = deliver (.ok e) (.feed more :: rest) w := rfl
          exact (of_element step intact (ih _)).drop_step
      | failed f =>
          have step : Machine.step host ⟨.feed (.failed f :: more) :: rest, w⟩
              = deliver (.error f) ([.feed more] ++ rest) w := rfl
          exact of_failure [.feed more] step intact
      | pending => exact (of_pending rfl (ih _)).drop_step

theorem fresh {g : Generation} {props : Props} {signals : Feed Delta} {new : Option String}
    {next : World φ ν → Resolution φ ν}
    (step : Machine.step host m = deliverFresh new g props signals rest w)
    (intact : Frame.belowFailed rest = none)
    (h : ∀ w, Follows c host fuel ⟨.generation g props signals :: rest, w⟩ rest (next w)) :
    Follows c host (fuel + 1) m rest ((freshPart c props new w).andThen next) := by
  cases new with
  | none => exact of_more step (h w)
  | some s => exact of_element step intact (h _)

theorem generation_of_done {g : Generation} (isDone : g.done = true) (props : Props)
    (signals : Feed Delta) (w : World φ ν) :
    Follows c host fuel ⟨.generation g props signals :: rest, w⟩ rest (nothing w) := by
  have step : Machine.step host ⟨.generation g props signals :: rest, w⟩ = _ :=
    stepGeneration_of_done props signals rest w isDone
  exact (of_more step here).drop_step

theorem generation (intact : Frame.belowFailed rest = none) (props : Props) (g : Generation)
    (signals : Feed Delta) (w : World φ ν) :
    Follows c host fuel ⟨.generation g props signals :: rest, w⟩ rest
      (resolveGeneration c props g signals w) := by
  have step : Machine.step host ⟨.generation g props signals :: rest, w⟩
      = stepGeneration g props signals rest w := rfl
  cases isDone : g.done with
  | true =>
      rw [resolveGeneration.eq_def, if_pos isDone]
      exact generation_of_done isDone props signals w
  | false =>
      rw [resolveGeneration.eq_def, if_neg (ne_true_of_eq_false isDone)]
      match signals with
      | [] =>
          rw [stepGeneration_nil props rest w isDone, recordGeneration_close] at step
          -- Closing ends the generation, which leaves its frame with the next step.
          have left : ∀ w, Follows c host fuel ⟨.generation g.close.2 props [] :: rest, w⟩ rest
              (nothing w) := generation_of_done (close_done g) props []
          have closed := fresh step intact left
          rw [andThen_nothing] at closed
          exact closed.drop_step
      | .item d :: more =>
          rw [stepGeneration_item props more rest w d isDone] at step
          exact (fresh step intact fun w => generation intact props _ more w).drop_step
      | .failed f :: more =>
          rw [stepGeneration_failed props more rest w f isDone] at step
          exact of_failure [_] step intact
      | .pending :: more =>
          rw [stepGeneration_pending props more rest w isDone] at step
          exact (of_pending step (generation intact props g more _)).drop_step

theorem waiting (intact : Frame.belowFailed rest = none) (key : String) (props : Props)
    (fuel : Nat) (index : Option Nat) (w : World φ ν) :
    Follows c host fuel ⟨.waiting key props index :: rest, w⟩ rest
      (resolveWait c key props fuel index w) := by
  induction fuel generalizing index w with
  | zero => exact unbegun
  | succ fuel ih =>
      rw [resolveWait]
      cases looked : w.scene.state.item? key (waitIndex w props index) with
      | some item => exact of_last_element (stepWaiting_of_item rest w looked) intact
      | none => exact of_pending (stepWaiting_of_none rest w looked) (ih _ _)

/-! ## Literals -/

theorem literal {props : Props} {text : Option String} {stack : List (Frame φ)}
    {next : World φ ν → Resolution φ ν}
    (step : Machine.step host m = match text with
      | some s =>
          if s.isEmpty then .more ⟨stack, w⟩
          else deliver (.ok (Element.stored ⟨s, .prompt, props.context.role⟩)) stack w
      | none => .more ⟨stack, w⟩)
    (intact : Frame.belowFailed stack = none)
    (h : ∀ w, Follows c host fuel ⟨stack, w⟩ rest (next w)) :
    Follows c host (fuel + 1) m rest ((literalPart c props text w).andThen next) := by
  cases text with
  | none => exact of_more step (h w)
  | some s =>
      rw [literalPart]
      dsimp only at step
      split
      next empty =>
        rw [if_pos empty] at step
        exact of_more step (h w)
      next nonempty =>
        rw [if_neg nonempty] at step
        exact of_element step intact (h _)

section Again

variable {again : Resolver φ ν} (faithful : Faithful c host fuel again)
  (intact : Frame.belowFailed rest = none)

include faithful intact

/-! ## Awaited values -/

theorem arrived {result : Except Fault (Input φ)} {props : Props}
    (step : Machine.step host m = stepResolved result props rest w) :
    Follows c host (fuel + 1) m rest (resolveArrived again props result w) := by
  cases result with
  | ok i => exact of_more step (faithful i props false rest w intact)
  | error f => exact of_failure [] step intact

theorem awaitFresh (props : Props) (future : φ) {n : Nat} (le : n ≤ fuel)
    (polls : Nat) (w : World φ ν) :
    Follows c host n ⟨.awaitFresh future polls props :: rest, w⟩ rest
      (resolveFresh host c (resolveArrived again props) future n polls w) := by
  induction n generalizing polls w with
  | zero => exact unbegun
  | succ n ih =>
      rw [resolveFresh]
      cases polled : host.poll future polls w.scene with
      | mk outcome ws =>
          cases outcome with
          | some result =>
              have step : Machine.step host ⟨.awaitFresh future polls props :: rest, w⟩
                  = stepResolved result props rest (w.writeAll ws) := by
                simp only [Machine.step, polled]
              exact (arrived faithful intact step).mono (Nat.le_succ_of_le le)
          | none =>
              have step : Machine.step host ⟨.awaitFresh future polls props :: rest, w⟩
                  = .pending ⟨.awaitFresh future (polls + 1) props :: rest, w.writeAll ws⟩ := by
                simp only [Machine.step, polled]
              exact of_pending step (ih (Nat.le_of_succ_le le) _ _)

theorem awaitShared (props : Props) (cell : Nat) {n : Nat} (le : n ≤ fuel)
    (w : World φ ν) :
    Follows c host n ⟨.awaitShared cell props :: rest, w⟩ rest
      (resolveShared host c (resolveArrived again props) cell n w) := by
  induction n generalizing w with
  | zero => exact unbegun
  | succ n ih =>
      have step : Machine.step host ⟨.awaitShared cell props :: rest, w⟩
          = stepShared host cell props rest w := rfl
      rw [stepShared] at step
      rw [resolveShared]
      split
      next missing =>
        rw [missing] at step
        exact of_more step here
      next result found =>
        rw [found] at step
        exact (arrived faithful intact step).mono (Nat.le_succ_of_le le)
      next future polls found =>
        rw [found] at step
        dsimp only at step ⊢
        split
        next result polled =>
          rw [polled] at step
          exact (arrived faithful intact step).mono (Nat.le_succ_of_le le)
        next polled =>
          rw [polled] at step
          exact of_pending step (ih (Nat.le_of_succ_le le) _)

/-! ## Sequences -/

theorem items (props : Props) (more : List (Input φ)) (index : Nat) (w : World φ ν) :
    Follows c host fuel ⟨.items props index more :: rest, w⟩ rest
      (inOrder ((more.zipIdx index).map fun (i, index) =>
        again i (props.descend index) .constant) w) := by
  induction more generalizing index w with
  | nil => exact (of_more rfl here).drop_step
  | cons i more ih =>
      have first := faithful i (props.descend index) false (.items props (index + 1) more :: rest) w
        intact
      refine (of_more rfl ?_).drop_step
      exact andThen [_] first fun w => ih (index + 1) w

end Again

section Sequences

variable {again : Resolver φ ν} (faithful : SequenceFaithful c host fuel again)
  (intact : Frame.belowFailed rest = none)

include faithful intact

/-! ## Templates and loops -/

theorem templateRest (props : Props) (literals : List String)
    (slots : List (Slot φ)) {next : World φ ν → Resolution φ ν}
    (h : ∀ w, Follows c host fuel ⟨.binder props literals.tail slots.tail :: rest, w⟩ rest (next w))
    (w : World φ ν) :
    Follows c host fuel ⟨PromptStream.templateRest props literals slots rest, w⟩ rest
      ((slotPart again props slots.head?.join literals.tail.head? w).andThen next) := by
  rcases templateRest_cases props literals slots rest with ⟨i, slot, stack⟩ | ⟨slot, stack⟩
  · have below : Frame.belowFailed (.binder props literals.tail slots.tail :: rest) = none := intact
    rw [stack, slot]
    exact andThen [_] (faithful i _ _ w below) h
  · rw [stack, slot]
    exact h w

theorem binder (props : Props) (literals : List String) (slots : List (Slot φ)) (k i : Nat)
    (count : i + k = max literals.length slots.length) (w : World φ ν) :
    Follows c host fuel ⟨.binder props (literals.drop i) (slots.drop i) :: rest, w⟩ rest
      (inOrder ((List.range' i k).map (templatePart c again props literals slots)) w) := by
  induction k generalizing i w with
  | zero =>
      -- Neither literals nor slots are left.
      have literalsOver : literals.drop i = [] := List.drop_eq_nil_of_le (by omega)
      have slotsOver : slots.drop i = [] := List.drop_eq_nil_of_le (by omega)
      rw [literalsOver, slotsOver]
      exact (of_more rfl here).drop_step
  | succ k ih =>
      have left : ¬ (literals.drop i = [] ∧ slots.drop i = []) := by
        rw [List.drop_eq_nil_iff, List.drop_eq_nil_iff]
        omega
      have step : Machine.step host ⟨.binder props (literals.drop i) (slots.drop i) :: rest, w⟩
          = _ := stepBinder_of_left props rest w left
      have later : ∀ w, Follows c host fuel
          ⟨.binder props (literals.drop i).tail (slots.drop i).tail :: rest, w⟩ rest
          (inOrder
            ((List.range' (i + 1) k).map (templatePart c again props literals slots)) w) := by
        rw [List.tail_drop, List.tail_drop]
        exact ih (i + 1) (by omega)
      have slot := templateRest faithful intact props (literals.drop i) (slots.drop i) later
      rw [List.head?_drop] at step
      rw [List.head?_drop, List.tail_drop, List.head?_drop] at slot
      -- The machine puts the slot above the rest of the template, before the literal leaves.
      rw [List.range'_succ, List.map_cons, inOrder, templatePart, andThen_assoc]
      exact (literal step ((belowFailed_templateRest _ _).trans intact) slot).drop_step

theorem template (props : Props) (literals : List String) (slots : List (Slot φ)) (w : World φ ν) :
    Follows c host fuel ⟨binderFrames props literals slots ++ rest, w⟩ rest
      (resolveTemplate c again props literals slots w) := by
  rw [resolveTemplate, List.range_eq_range']
  have below : Frame.belowFailed (.guard false :: rest) = none := intact
  exact (binder faithful below props literals slots _ 0 (Nat.zero_add _) w).pop

theorem loop (props : Props) (id : String) (body : Input φ) (options : LoopOptions φ) {n : Nat}
    (le : n ≤ fuel) (i : Nat) (w : World φ ν) :
    Follows c host n ⟨.loop props id body options i :: rest, w⟩ rest
      (resolveLoop host again props id body options n i w) := by
  induction n generalizing i w with
  | zero => exact unbegun
  | succ n ih =>
      have step : Machine.step host ⟨.loop props id body options i :: rest, w⟩
          = stepLoop host props id body options i rest w := rfl
      rw [stepLoop] at step
      rw [resolveLoop]
      cases ends : loopEnds host props options i w with
      | mk ended w' =>
          rw [ends] at step
          cases ended with
          | true => exact of_more step here
          | false =>
              have below : Frame.belowFailed (.loop props id body options (i + 1) :: rest) = none :=
                intact
              have iteration := faithful body (iterationProps props id i) _
                (enterIteration w' id i) below
              refine of_more step ?_
              exact andThen [_] (iteration.mono (Nat.le_of_succ_le le)) fun w =>
                ih (Nat.le_of_succ_le le) (i + 1) w

theorem map (props : Props) (id : String) (count : Nat) (item : φ) (k i : Nat)
    (left : i + k = count) (w : World φ ν) :
    Follows c host fuel ⟨.map props id count item i :: rest, w⟩ rest
      ((inOrder ((List.range' i k).map (mapPart host again props id item)) w).andThen
        fun w => nothing (leaveLoop w id count)) := by
  induction k generalizing i w with
  | zero =>
      have atEnd : i = count := left
      subst atEnd
      have step : Machine.step host ⟨.map props id i item i :: rest, w⟩
          = .more ⟨rest, leaveLoop w id i⟩ := if_pos (Nat.le_refl i)
      exact (of_more step here).drop_step
  | succ k ih =>
      have goesOn : ¬ count ≤ i := by omega
      have step : Machine.step host ⟨.map props id count item i :: rest, w⟩ = _ := if_neg goesOn
      have below : Frame.belowFailed (.map props id count item (i + 1) :: rest) = none := intact
      rw [List.range'_succ, List.map_cons, inOrder, andThen_assoc]
      refine (of_more step ?_).drop_step
      exact andThen [_] (faithful _ _ _ _ below) fun w => ih (i + 1) (by omega) w

end Sequences

/-! ## Actions and inputs -/

theorem action {again : Resolver φ ν} (faithful : Faithful c host fuel again)
    (intact : Frame.belowFailed rest = none) (a : Action φ) (props : Props) (w : World φ ν) :
    Follows c host fuel ⟨(startAction host a props w).1 ++ rest, (startAction host a props w).2⟩
      rest (resolveAction host c again fuel a props w) := by
  have below : Frame.belowFailed (.guard false :: rest) = none := intact
  cases a with
  | template scope literals slots => exact template faithful.sequence intact _ literals slots w
  | generate name options => exact generation intact props _ _ _
  | loop id body options =>
      exact (loop faithful.sequence below props id body options (Nat.le_refl fuel) 0 w).pop
  | map id count item =>
      rw [resolveAction, List.range_eq_range']
      exact (map faithful.sequence below props id count item count 0 (Nat.zero_add count) w).pop
  | wait key => exact waiting intact key props fuel none w
  | custom f =>
      rw [resolveAction, startAction]
      cases performed : host.perform f props w.scene with
      | mk work ws =>
          cases work with
          | resolve i props => exact faithful.sequence i props rest _ intact
          | bind literals slots props =>
              exact template faithful.sequence intact props literals slots _
          | emit signals => exact feed intact signals _

end Follows

/-- If the parts of an input are followed, so is the input, for a step more. -/
theorem Faithful.parts {c : Consumer φ ν} {host : Host φ ν} {fuel : Nat} {again : Resolver φ ν}
    (faithful : Faithful c host fuel again) :
    Faithful c host (fuel + 1) (resolveParts host c again fuel) := by
  intro i props fromFunction rest w intact
  have below : Frame.belowFailed (.guard false :: rest) = none := intact
  cases i with
  | null => exact .of_more rfl .here
  | number x => exact .of_last_element rfl intact
  | text s => exact .of_last_element rfl intact
  | function f => exact .of_more rfl (faithful _ props true rest _ intact)
  | deferred d =>
      cases d with
      | shared cell =>
          exact .of_more rfl (Follows.awaitShared faithful intact props cell (Nat.le_refl fuel) w)
      | fresh future =>
          exact .of_more rfl
            (Follows.awaitFresh faithful intact props future (Nat.le_refl fuel) 0 w)
  | list items =>
      exact .of_more rfl (Follows.items faithful below props items 0 w).pop
  | stream cell =>
      have step : Machine.step host ⟨.input (.stream cell) props fromFunction :: rest, w⟩
          = stepInput host (.stream cell) props fromFunction rest w := rfl
      rw [stepInput] at step
      rw [resolveParts]
      split
      next signals w' taken =>
        rw [taken] at step
        exact .of_more step (Follows.feed below signals w').pop
      next missing =>
        rw [missing] at step
        exact .of_more step .here
  | action a => exact .of_more rfl (Follows.action faithful intact a props w)

theorem faithful_resolve (c : Consumer φ ν) (host : Host φ ν) (fuel : Nat) :
    Faithful c host fuel (resolve host c fuel) := by
  induction fuel with
  | zero => exact fun i props fromFunction rest w intact => Follows.unbegun
  | succ fuel ih => exact ih.parts

/-! ## Failures -/

theorem not_error_mem_map_ok (items : List Element) (f : Fault) :
    Except.error f ∉ items.map (Except.ok (ε := Fault)) := by
  intro mem
  obtain ⟨e, -, same⟩ := List.mem_map.1 mem
  cases same

theorem eq_of_map_ok_append_error {items : List Element} {f g : Fault}
    {before after : List (Except Fault Element)}
    (split : items.map .ok ++ [.error g] = before ++ .error f :: after) :
    before = items.map .ok ∧ after = [] := by
  induction items generalizing before with
  | nil =>
      cases before with
      | nil => exact ⟨rfl, (List.cons.inj split).2.symm⟩
      | cons x before => exact absurd (List.cons.inj split).2.symm (by simp)
  | cons e items ih =>
      cases before with
      | nil => cases (List.cons.inj split).1
      | cons x before =>
          obtain ⟨rfl, later⟩ := List.cons.inj split
          obtain ⟨rfl, nothingAfter⟩ := ih later
          exact ⟨rfl, nothingAfter⟩

/-- Where a resolution fails, it ends. -/
theorem Resolution.last_of_error {r : Resolution φ ν} {f : Fault}
    {before after : List (Except Fault Element)}
    (handed : before ++ .error f :: after <+: r.handedOut) :
    after = [] ∧ ∀ g, .error g ∉ before := by
  obtain ⟨items, ending⟩ := r
  obtain ⟨later, handed⟩ := handed
  have mem : Except.error f ∈ Resolution.handedOut ⟨items, ending⟩ := by
    rw [← handed]
    exact List.mem_append_left _ (List.mem_append_right _ List.mem_cons_self)
  rw [Resolution.handedOut] at handed mem
  cases ending with
  | failed g w =>
      rw [List.append_assoc, List.cons_append] at handed
      obtain ⟨rfl, nothingAfter⟩ := eq_of_map_ok_append_error handed.symm
      exact ⟨(List.append_eq_nil_iff.1 nothingAfter).1, not_error_mem_map_ok items⟩
  | ended w =>
      rw [List.append_nil] at mem
      exact absurd mem (not_error_mem_map_ok items f)
  | unfinished =>
      rw [List.append_nil] at mem
      exact absurd mem (not_error_mem_map_ok items f)

/-! ## Drains of a whole run -/

/-- Whether a machine is left as some items end. -/
def Ending.Leaves (m : Machine φ ν) : Ending φ ν → Prop
  | .ended w => m = ⟨[], w⟩
  | .failed _ w => m.world = w
  | .unfinished => m.stack ≠ []

section Whole

variable {c : Consumer φ ν} {host : Host φ ν} {n : Nat} {m m' : Machine φ ν} {w : World φ ν}
  {r : Resolution φ ν}

theorem drain_guard (n : Nat) (w : World φ ν) :
    c.drain host (n + 1) ⟨[.guard false], w⟩ = ([], ⟨[], w⟩) :=
  Consumer.drain_of_stack_nil rfl n

/-- The guard of a run that has failed is marked. -/
theorem marked_of_failed (pushed : List (Frame φ)) :
    EndsAtGuard (· = true) ((pushed ++ [Frame.guard false]).map Frame.mark) := by
  intro f last
  rw [List.map_append, List.getLast?_append] at last
  cases last
  exact ⟨true, rfl, rfl⟩

theorem Follows.exists_drain_eq (h : Follows c host n m [.guard false] r) :
    ∃ k, (c.drain host k m).1 = r.handedOut ∧ r.ending.Leaves (c.drain host k m).2 := by
  cases h with
  | ended k drained =>
      refine ⟨k + 1, ?_⟩
      rw [Consumer.drain_add, drained]
      exact ⟨rfl, rfl⟩
  | failed k pushed drained =>
      refine ⟨k, ?_⟩
      rw [drained]
      exact ⟨rfl, rfl⟩
  | unfinished k top pushed w enough drained =>
      refine ⟨k, ?_⟩
      rw [drained]
      exact ⟨(List.append_nil _).symm, List.cons_ne_nil _ _⟩

/-- Once nothing more is handed out, what was handed out is all there is. -/
theorem drain_stem_of_silent {k : Nat} {items : List (Except Fault Element)}
    (drained : c.drain host k m = (items, m')) (silent : ∀ n, (c.drain host n m').1 = [])
    (n : Nat) : (c.drain host n m).1 <+: items := by
  have all := Consumer.drain_stem c host (Nat.le_add_left n k) m
  rw [Consumer.drain_add, drained, silent, List.append_nil] at all
  exact all

theorem Follows.drain_stem (h : Follows c host n m [.guard false] r) :
    (c.drain host n m).1 <+: r.handedOut := by
  cases h with
  | @ended items w k drained =>
      rw [Resolution.handedOut, List.append_nil]
      refine drain_stem_of_silent drained (fun n => ?_) n
      cases n with
      | zero => rfl
      | succ n => rw [drain_guard]
  | failed k pushed drained =>
      exact drain_stem_of_silent drained (Consumer.drain_of_marked (marked_of_failed pushed)) n
  | unfinished k top pushed w enough drained =>
      have less := Consumer.drain_stem c host enough m
      rw [drained] at less
      rw [Resolution.handedOut, List.append_nil]
      exact less

/-- A drain that has come to the end of the work stays as it is. -/
theorem drain_of_ended {items : List (Except Fault Element)}
    (ended : c.drain host n m = (items, ⟨[], w⟩)) (k : Nat) :
    c.drain host (n + k) m = (items, ⟨[], w⟩) := by
  rw [Consumer.drain_add, ended, Consumer.drain_of_stack_nil rfl]
  exact Prod.ext (List.append_nil _) rfl

/-- What comes to its end follows something that ends. -/
theorem Follows.exists_ended {rest : List (Frame φ)} {items : List Element}
    (h : Follows c host n m rest r) (ended : c.drain host n m = (items.map .ok, ⟨[], w⟩)) :
    ∃ first v k, r = ⟨first, .ended v⟩ ∧ c.drain host k m = (first.map .ok, ⟨rest, v⟩) := by
  cases h with
  | @ended first v k drained => exact ⟨first, v, k, rfl, drained⟩
  | @failed _ f v k pushed drained =>
      -- The failure would have been handed out by then.
      have handed := Consumer.drain_stem c host (Nat.le_add_left k n) m
      rw [drain_of_ended ended k, drained] at handed
      refine absurd (handed.subset ?_) (not_error_mem_map_ok items f)
      exact List.mem_append_right _ List.mem_cons_self
  | unfinished k top pushed v enough drained =>
      -- The drain would have come to its end before that.
      obtain ⟨more, rfl⟩ := Nat.exists_eq_add_of_le enough
      rw [drain_of_ended ended more] at drained
      cases congrArg (fun x => x.2.stack) drained

theorem Follows.eq_of_ended {items : List Element} (h : Follows c host n m [.guard false] r)
    (ended : c.drain host n m = (items.map .ok, ⟨[], w⟩)) : r = ⟨items, .ended w⟩ := by
  obtain ⟨first, v, k, rfl, drained⟩ := h.exists_ended ended
  -- Both drains come to an empty stack and stay there.
  have left : c.drain host (k + 1) m = (first.map .ok, ⟨[], v⟩) := by
    rw [Consumer.drain_add, drained, drain_guard, List.append_nil]
  obtain ⟨same, left⟩ := Consumer.drain_eq_of_ended left ended rfl rfl
  cases left
  rw [(List.map_inj_right fun _ _ eq => Except.ok.inj eq).1 same]

end Whole

/-- Draining a machine hands out what it is resolved to with more and more fuel.  So many steps
hand out a first part of what it comes to with so much fuel, and all that it comes to with any
fuel is handed out by some number of steps, which leave the world of its end. -/
structure DrainsAs (c : Consumer φ ν) (host : Host φ ν) (m : Machine φ ν)
    (whole : Nat → Resolution φ ν) : Prop where
  stem : ∀ n, (c.drain host n m).1 <+: (whole n).handedOut
  reached : ∀ fuel, ∃ n, (c.drain host n m).1 = (whole fuel).handedOut ∧
    (whole fuel).ending.Leaves (c.drain host n m).2
  ended : ∀ items w', (∃ fuel, whole fuel = ⟨items, .ended w'⟩) ↔
    ∃ n, c.drain host n m = (items.map .ok, ⟨[], w'⟩)
  /-- A failure is the only one, and the last item. -/
  last : ∀ n before f after, (c.drain host n m).1 = before ++ .error f :: after →
    after = [] ∧ ∀ g, .error g ∉ before

theorem DrainsAs.of_follows {c : Consumer φ ν} {host : Host φ ν} {m : Machine φ ν}
    {whole : Nat → Resolution φ ν}
    (follows : ∀ fuel, Follows c host fuel m [.guard false] (whole fuel)) :
    DrainsAs c host m whole where
  stem n := (follows n).drain_stem
  reached fuel := (follows fuel).exists_drain_eq
  ended items w' := by
    constructor
    · rintro ⟨fuel, ended⟩
      obtain ⟨n, handed, left⟩ := (follows fuel).exists_drain_eq
      rw [ended] at handed left
      refine ⟨n, Prod.ext ?_ left⟩
      exact handed.trans (List.append_nil _)
    · rintro ⟨n, ended⟩
      exact ⟨n, (follows n).eq_of_ended ended⟩
  last n before f after handed := by
    have first := (follows n).drain_stem
    rw [handed] at first
    exact last_of_error first

/-- However a run is polled, it hands out a first part of what its input comes to. -/
theorem polls_stem_resolve (host : Host φ ν) (llm : Llm) (input : Input φ) (params : Json)
    (w : World φ ν) (fuels : List Nat) :
    ∃ fuel, PromptStream.handedOut (Run.polls host fuels (Run.start llm input params w)).1 <+:
      (resolve host .recorder fuel input ⟨llm.context, params, none⟩ .constant w).handedOut := by
  obtain ⟨n, drained⟩ := Consumer.polls_eq_drain host fuels (Run.start llm input params w)
  have follows := faithful_resolve .recorder host n input ⟨llm.context, params, none⟩ false
    [.guard false] w rfl
  have first : (Consumer.recorder.drain host n (Run.start llm input params w)).1 <+: _ :=
    follows.drain_stem
  rw [drained] at first
  exact ⟨n, first⟩

/-- Draining a run hands out what its input comes to.  For every input, props and
world, and however the consumer goes on, so many steps hand out a first part of what
the input is resolved to with so much fuel, and all that it is resolved to with any
fuel is handed out by some number of steps, which leave the world of its end.  The run
comes to its end without a failure exactly if the resolution does, with the same
elements and the same world; and a failure is the only one, and the last item.  What a
list is resolved to are its items in order, each at the leaf that its position extends. -/
theorem drain_eq_resolve (c : Consumer φ ν) (host : Host φ ν) (i : Input φ) (props : Props)
    (w : World φ ν) :
    let m : Machine φ ν := ⟨Frame.guarded i props, w⟩
    let whole := fun fuel => resolve host c fuel i props .constant w
    (∀ n, (c.drain host n m).1 <+: (whole n).handedOut) ∧
      (∀ fuel, ∃ n, (c.drain host n m).1 = (whole fuel).handedOut ∧
        (whole fuel).ending.Leaves (c.drain host n m).2) ∧
      (∀ items w', (∃ fuel, whole fuel = ⟨items, .ended w'⟩) ↔
        ∃ n, c.drain host n m = (items.map .ok, ⟨[], w'⟩)) ∧
      (∀ n before f after, (c.drain host n m).1 = before ++ .error f :: after →
        after = [] ∧ ∀ g, .error g ∉ before) ∧
      ∀ fuel items source, resolve host c (fuel + 1) (.list items) props source w
        = Resolution.inOrder (items.zipIdx.map fun (item, position) =>
            resolve host c fuel item { props with context := { props.context with
              leafId := props.context.leafId ++ [position] } } .constant) w := by
  intro m whole
  have follows : ∀ fuel, Follows c host fuel m [.guard false] (whole fuel) :=
    fun fuel => faithful_resolve c host fuel i props false [.guard false] w rfl
  obtain ⟨stem, reached, ended, last⟩ := DrainsAs.of_follows follows
  exact ⟨stem, reached, ended, last, fun _ _ _ => rfl⟩

/-- The text that a function returns is a parameter, and what follows a rejected future
is cut off. -/
example :
    let input : Input Bool :=
      .list [.text "early", .function true, .deferred (.fresh false), .text "unseen"]
    (resolve Host.rejecting .recorder 3 input ⟨Llm.context default, .null, none⟩ .constant
        {}).handedOut
      = [.ok ⟨"early", .constant, .user⟩, .ok ⟨"late", .parameter, .user⟩,
        .error (.deferred "boom")] :=
  rfl

end PromptStream
