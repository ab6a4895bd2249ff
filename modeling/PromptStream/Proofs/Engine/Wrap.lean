import PromptStream.Proofs.Engine.AfterFailure
import PromptStream.Proofs.Engine.Lagging
import PromptStream.Proofs.Engine.StepBelow

/-!
# Wrapped inputs

`Scope.wrap` puts a scope around one slot.  What it resolves is a template without text, so it
does two steps before the slot and two after it, of which nobody hears (`Wrapped`).  Otherwise
it does what the slot alone does in the context of the scope.

A template tells its slots the literals of its own, and this one has none.  So the literal that
follows the wrapped input is not told to the slot (`Run.wrap_keepsUp`), and a generation in it
does not stop there (`ai_goes_over_literal`).  A generation asks for that literal only to stop
at it, and makes no other difference (`Retold`).
-/

namespace PromptStream

variable {φ ν : Type}

/-! ## A slot on top of other work -/

/-- The bottom guard of a machine lets an item through only if nothing below has failed. -/
def Machine.Above (rest : List (Frame φ)) (m : Machine φ ν) : Prop :=
  EndsAtGuard (· = true) m.stack ∨
    EndsAtGuard (fun _ => True) m.stack ∧ Frame.belowFailed rest = none

namespace Machine.Above

variable {rest : List (Frame φ)} {m : Machine φ ν}

/-- A step keeps it so, and a failure marks the guard. -/
theorem poll_one (host : Host φ ν) (h : m.Above rest) :
    (Run.poll host 1 m).2.Above rest ∧
      ∀ f, (Run.poll host 1 m).1 = .failed f →
        EndsAtGuard (· = true) (Run.poll host 1 m).2.stack := by
  rcases h with marked | ⟨guarded, intact⟩
  · have step := Run.poll_one_guarded host (by rfl) marked
    exact ⟨.inl step.stays, step.marked⟩
  · have step := Run.poll_one_guarded host trivial guarded
    exact ⟨.inr ⟨step.stays, intact⟩, step.marked⟩

/-- Only the guard itself lies right above the work below. -/
theorem covers {f : Frame φ} {above : List (Frame φ)} {w : World φ ν}
    (h : Machine.Above rest ⟨f :: above, w⟩) (some : above ≠ []) : Frame.Covers above rest := by
  rcases h with marked | ⟨-, intact⟩
  · exact .of_failed ((marked.append some []).isSome_belowFailed some) rest
  · exact .of_intact intact above

end Machine.Above

section Wrapped

variable (scope : Scope) (i : Input φ) (props : Props)

/-- What lies below the slot: the rest of its template, above what was below the wrapped
input. -/
def wrapTail (failed : Bool) (rest : List (Frame φ)) : List (Frame φ) :=
  .binder (props.fork (scope props.context)) [] [] :: .guard failed :: rest

/-- A run of a wrapped input and one of its slot alone, with the number of steps that the first
one still has to do and the second one lacks. -/
inductive Wrapped : Nat → Run φ ν → Run φ ν → Prop where
  | entering {fromFunction : Bool} {rest : List (Frame φ)} {w : World φ ν} :
      Frame.belowFailed rest = none →
      Wrapped 4 ⟨.input (.action (scope.wrap (some i))) props fromFunction :: rest, w⟩
        ⟨Frame.guarded i ((props.fork (scope props.context)).withNextLiteral none) ++ rest, w⟩
  | opened {rest : List (Frame φ)} {w : World φ ν} :
      Frame.belowFailed rest = none →
      Wrapped 3 ⟨.binder (props.fork (scope props.context)) [] [some i] :: .guard false :: rest, w⟩
        ⟨Frame.guarded i ((props.fork (scope props.context)).withNextLiteral none) ++ rest, w⟩
  | within {failed : Bool} {rest : List (Frame φ)} {m : Machine φ ν} :
      m.Above rest → m.Above (wrapTail scope props failed rest) →
      Wrapped 2 (m.onto (wrapTail scope props failed rest)) (m.onto rest)
  | closing {failed : Bool} {rest : List (Frame φ)} {w : World φ ν} :
      Wrapped 1 ⟨.guard failed :: rest, w⟩ ⟨rest, w⟩
  | left {m : Run φ ν} : Wrapped 0 m m

namespace Wrapped

variable {scope i props} {d : Nat} {slow quick : Run φ ν}

/-- The same step of the slot, on top of the rest of its template and without it. -/
theorem settle {failed : Bool} {rest : List (Frame φ)} (s : Step φ ν)
    (stays : (Run.settle s).2.Above rest)
    (stays' : (Run.settle s).2.Above (wrapTail scope props failed rest))
    (marked : ∀ f, (Run.settle s).1 = .failed f → EndsAtGuard (· = true) (Run.settle s).2.stack) :
    (Run.settle (s.onto (wrapTail scope props failed rest))).1 = (Run.settle (s.onto rest)).1 ∧
      Wrapped scope i props 2 (Run.settle (s.onto (wrapTail scope props failed rest))).2
        (Run.settle (s.onto rest)).2 := by
  match s with
  | .more m => exact ⟨rfl, .within stays stays'⟩
  | .item (.ok e) m =>
      exact ⟨rfl, .within (m := ⟨m.stack, m.world.consume e⟩) stays stays'⟩
  | .item (.error f) m =>
      have bottom := marked f rfl
      exact ⟨rfl, .within (.inl bottom) (.inl bottom)⟩
  | .pending m => exact ⟨rfl, .within stays stays'⟩
  | .ended m => exact ⟨rfl, .within stays stays'⟩

/-- A step of the wrapped input is one that the slot alone lacks, or it is the same. -/
theorem step (host : Host φ ν) (h : Wrapped scope i props d slow quick) :
    (∃ e m, d = e + 1 ∧ Machine.step host slow = .more m ∧ Wrapped scope i props e m quick) ∨
    ((Run.poll host 1 slow).1 = (Run.poll host 1 quick).1 ∧
      Wrapped scope i props d (Run.poll host 1 slow).2 (Run.poll host 1 quick).2) := by
  cases h with
  | entering intact => exact .inl ⟨3, _, rfl, rfl, .opened intact⟩
  | @opened rest w intact =>
      have bottom : EndsAtGuard (fun _ => True)
          (Frame.guarded i ((props.fork (scope props.context)).withNextLiteral none)) := by
        rintro f ⟨⟩
        exact ⟨false, rfl, trivial⟩
      have intact' : Frame.belowFailed (wrapTail scope props false rest) = none := intact
      refine .inl ⟨2, _, rfl, rfl, ?_⟩
      exact .within (m := ⟨Frame.guarded i _, w⟩) (.inr ⟨bottom, intact⟩) (.inr ⟨bottom, intact'⟩)
  | @within failed rest m above above' =>
      obtain ⟨stack, w⟩ := m
      match stack with
      | [] => exact .inl ⟨1, _, rfl, rfl, .closing⟩
      | [f] =>
          -- The bottom guard is all that is left of the slot.
          have guard : ∃ b, f = .guard b := by
            rcases above with marked | ⟨guarded, -⟩
            · obtain ⟨b, same, -⟩ := marked f rfl
              exact ⟨b, same⟩
            · obtain ⟨b, same, -⟩ := guarded f rfl
              exact ⟨b, same⟩
          obtain ⟨b, rfl⟩ := guard
          exact .inr ⟨rfl, .within (m := ⟨[], w⟩) (.inl .nil) (.inl .nil)⟩
      | f :: g :: more =>
          have some : g :: more ≠ [] := List.cons_ne_nil g more
          have onto : ∀ below, Machine.Above below (⟨f :: g :: more, w⟩ : Machine φ ν) →
              Run.poll host 1 (Machine.onto below ⟨f :: g :: more, w⟩)
                = Run.settle ((Machine.step host ⟨f :: g :: more, w⟩).onto below) := by
            intro below above
            rw [Run.poll_one]
            exact congrArg _ (step_onto_of_covers (above.covers some) host f w)
          obtain ⟨stays, marked⟩ := above.poll_one host
          obtain ⟨stays', -⟩ := above'.poll_one host
          rw [onto _ above, onto _ above']
          rw [Run.poll_one] at stays stays' marked
          exact .inr (settle _ stays stays' marked)
  | closing => exact .inl ⟨0, _, rfl, rfl, .left⟩
  | left => exact .inr ⟨rfl, .left⟩

theorem lag (host : Host φ ν) :
    Run.Lag host 4 (Wrapped scope i props : Nat → Run φ ν → Run φ ν → Prop) where
  world h := by cases h <;> rfl
  le h := by cases h <;> decide
  write x h := by
    cases h with
    | entering intact => exact .entering intact
    | opened intact => exact .opened intact
    | within above above' => exact .within (m := Run.write _ x) above above'
    | closing => exact .closing
    | left => exact .left
  step h := h.step host

end Wrapped

end Wrapped

/-! ## Generations that are told another literal -/

/-- The same request is made in places that differ in what does not matter for the stop. -/
theorem askConnector_congr (name : String) {options : GenerationOptions} {p p' : Props}
    (context : p.context = p'.context)
    (stop : options.effectiveStop p.nextLiteral = options.effectiveStop p'.nextLiteral)
    (w : World φ ν) : askConnector name options p w = askConnector name options p' w := by
  rw [askConnector, askConnector, generationRequest, generationRequest, context, stop]

/-- Two runs of a generation in places that differ in the literal after the slot. -/
inductive Retold : Run φ ν → Run φ ν → Prop where
  | starting {name : String} {options : GenerationOptions} {p p' : Props} {fromFunction : Bool}
      {rest : List (Frame φ)} {w : World φ ν} : p.context = p'.context →
      options.effectiveStop p.nextLiteral = options.effectiveStop p'.nextLiteral →
      Retold ⟨.input (.action (.generate name options)) p fromFunction :: rest, w⟩
        ⟨.input (.action (.generate name options)) p' fromFunction :: rest, w⟩
  | speaking {g : Generation} {p p' : Props} {feed : Feed Delta} {rest : List (Frame φ)}
      {w : World φ ν} : p.context = p'.context →
      Retold ⟨.generation g p feed :: rest, w⟩ ⟨.generation g p' feed :: rest, w⟩
  | same {m : Run φ ν} : Retold m m

namespace Retold

variable {m m' : Run φ ν}

theorem world (h : Retold m m') : m.world = m'.world := by
  cases h <;> rfl

theorem write (x : Write ν) (h : Retold m m') : Retold (m.write x) (m'.write x) := by
  cases h with
  | starting context stop => exact .starting context stop
  | speaking context => exact .speaking context
  | same => exact .same

/-- An item that a generation hands out, or that ends a sequence around it. -/
theorem settle_deliver {p p' : Props} (context : p.context = p'.context)
    (result : Except Fault Element) (g : Generation) (feed : Feed Delta) (rest : List (Frame φ))
    (w : World φ ν) :
    (Run.settle (deliver result (.generation g p feed :: rest) w)).1
        = (Run.settle (deliver result (.generation g p' feed :: rest) w)).1 ∧
      Retold (Run.settle (deliver result (.generation g p feed :: rest) w)).2
        (Run.settle (deliver result (.generation g p' feed :: rest) w)).2 := by
  have below : ∀ p : Props, Frame.belowFailed (.generation g p feed :: rest)
      = Frame.belowFailed rest := fun _ => rfl
  unfold deliver
  rw [below, below]
  cases Frame.belowFailed rest with
  | some below => exact ⟨rfl, .same⟩
  | none => cases result <;> exact ⟨rfl, .speaking context⟩

theorem settle_deliverFresh {p p' : Props} (context : p.context = p'.context)
    (fresh : Option String) (g : Generation) (feed : Feed Delta) (rest : List (Frame φ))
    (w : World φ ν) :
    (Run.settle (deliverFresh fresh g p feed rest w)).1
        = (Run.settle (deliverFresh fresh g p' feed rest w)).1 ∧
      Retold (Run.settle (deliverFresh fresh g p feed rest w)).2
        (Run.settle (deliverFresh fresh g p' feed rest w)).2 := by
  cases fresh with
  | none => exact ⟨rfl, .speaking context⟩
  | some s =>
      rw [deliverFresh, deliverFresh, context]
      exact settle_deliver context _ g feed rest w

/-- The literal is asked for when the generation starts, and only for its stop. -/
theorem step (host : Host φ ν) (h : Retold m m') :
    (Run.poll host 1 m).1 = (Run.poll host 1 m').1 ∧
      Retold (Run.poll host 1 m).2 (Run.poll host 1 m').2 := by
  cases h with
  | @starting name options p p' fromFunction rest w context stop =>
      have asked := askConnector_congr name context stop w
      have begun : ∀ p : Props, Run.poll host 1
          ⟨.input (.action (.generate name options)) p fromFunction :: rest, w⟩
            = (.unanswered, ⟨.generation (freshGeneration name options p) p
                (askConnector name options p w).1 :: rest, (askConnector name options p w).2⟩) :=
        fun _ => rfl
      rw [begun, begun, asked, freshGeneration, freshGeneration, stop]
      exact ⟨rfl, .speaking context⟩
  | @speaking g p p' feed rest w context =>
      rw [Run.poll_one, Run.poll_one]
      change (Run.settle (stepGeneration g p feed rest w)).1
          = (Run.settle (stepGeneration g p' feed rest w)).1 ∧
        Retold (Run.settle (stepGeneration g p feed rest w)).2
          (Run.settle (stepGeneration g p' feed rest w)).2
      cases isDone : g.done with
      | true =>
          rw [stepGeneration_of_done _ _ _ _ isDone, stepGeneration_of_done _ _ _ _ isDone]
          exact ⟨rfl, .same⟩
      | false =>
          match feed with
          | [] =>
              rw [stepGeneration_nil _ _ _ isDone, stepGeneration_nil _ _ _ isDone,
                recordGeneration, recordGeneration, context]
              exact settle_deliverFresh context _ _ [] rest _
          | .item d :: more =>
              rw [stepGeneration_item _ _ _ _ d isDone, stepGeneration_item _ _ _ _ d isDone,
                heardDelta, heardDelta, recordGeneration, recordGeneration, context]
              exact settle_deliverFresh context _ _ more rest _
          | .failed f :: more =>
              rw [stepGeneration_failed _ _ _ _ f isDone, stepGeneration_failed _ _ _ _ f isDone]
              exact settle_deliver context _ _ more rest w
          | .pending :: more =>
              rw [stepGeneration_pending _ _ _ _ isDone, stepGeneration_pending _ _ _ _ isDone]
              exact ⟨rfl, .speaking context⟩
  | same => exact ⟨rfl, .same⟩

end Retold

/-- A literal that is blank, or that nobody asks for, makes no difference to the stop. -/
theorem GenerationOptions.effectiveStop_of_unheard {options : GenerationOptions}
    {next : Option String}
    (unheard : options.stopAtNextLiteral = true → ∀ s, next = some s → isBlankText s = true) :
    options.effectiveStop none = options.effectiveStop next := by
  cases next with
  | none => rfl
  | some s =>
      rw [effectiveStop, effectiveStop, Option.filter_some]
      cases asked : options.stopAtNextLiteral with
      | false => rfl
      | true =>
          rw [unheard asked s rfl]
          rfl

/-! ## Transparency -/

theorem Run.KeepsUp.congr {host : Host φ ν} {more : Nat} {slow quick quick' : Run φ ν}
    (h : Run.KeepsUp host more slow quick)
    (same : ∀ moves, (play host moves quick).1 = (play host moves quick').1 ∧
      (play host moves quick).2.world = (play host moves quick').2.world) :
    Run.KeepsUp host more slow quick' := by
  constructor
  · intro moves answered
    rw [← (same moves).1, ← (same moves).2]
    exact h.of_slow moves answered
  · intro moves answered
    rw [← (same moves).1] at answered ⊢
    rw [← (same moves).2]
    exact h.of_quick moves answered

/-- A scope around one slot, in any place of a run where nothing has failed so far.

Whatever a consumer does, it gets the same answers and the same world is left as by the slot
alone in the context of the scope, told that no literal follows it; the wrapped slot only
takes up to four steps more for an answer.

A turn of the assistant is such a scope around a generation.  It does what the generation does
in the same place in the role of the assistant, with any options, unless these ask to stop at
the next literal and one that is not blank follows. -/
theorem Run.wrap_keepsUp (host : Host φ ν) (props : Props) (fromFunction : Bool)
    (rest : List (Frame φ)) (intact : Frame.belowFailed rest = none) (w : World φ ν) :
    (∀ (scope : Scope) (i : Input φ),
      Run.KeepsUp host 4
        ⟨.input (.action (scope.wrap (some i))) props fromFunction :: rest, w⟩
        ⟨Frame.guarded i ((props.fork (scope props.context)).withNextLiteral none) ++ rest, w⟩) ∧
    ∀ (name : String) (options : GenerationOptions),
      (options.stopAtNextLiteral = true →
        ∀ s, props.nextLiteral = some s → isBlankText s = true) →
      Run.KeepsUp host 4
        ⟨.input (.action (.ai name options)) props fromFunction :: rest, w⟩
        ⟨Frame.guarded (.action (.generate name options))
          (props.fork (Scope.ofRole .assistant props.context)) ++ rest, w⟩ := by
  have wrapped : ∀ (scope : Scope) (i : Input φ), Run.KeepsUp host 4
      ⟨.input (.action (scope.wrap (some i))) props fromFunction :: rest, w⟩
      ⟨Frame.guarded i ((props.fork (scope props.context)).withNextLiteral none) ++ rest, w⟩ :=
    fun scope i => (Wrapped.lag host).keepsUp (.entering intact)
  refine ⟨wrapped, fun name options unheard => ?_⟩
  refine (wrapped (Scope.ofRole .assistant) (.action (.generate name options))).congr ?_
  intro moves
  have alike : @Retold φ ν
      ⟨Frame.guarded (.action (.generate name options))
        ((props.fork (Scope.ofRole .assistant props.context)).withNextLiteral none) ++ rest, w⟩
      ⟨Frame.guarded (.action (.generate name options))
        (props.fork (Scope.ofRole .assistant props.context)) ++ rest, w⟩ :=
    .starting rfl (GenerationOptions.effectiveStop_of_unheard unheard)
  obtain ⟨answers, last⟩ := Run.play_congr (fun h => h.step host) (fun x h => h.write x) moves alike
  exact ⟨answers, last.world⟩

/-- A turn of the assistant before a blank literal, where it is to stop at the next one: it
leaves the world that the generation leaves. -/
theorem Run.wrap_keepsUp_of_blank_literal :
    let options : GenerationOptions := { stopAtNextLiteral := true }
    let w : World Empty Empty := { connectors := [.scripted [[⟨0, "one"⟩, ⟨0, " \n two"⟩]]] }
    let props : Props := { context := (default : Llm).context, nextLiteral := some " \n" }
    let ai : Run Empty Empty :=
      ⟨[.input (.action (.ai "x" options)) props false, .guard false], w⟩
    let generate : Run Empty Empty :=
      ⟨Frame.guarded (.action (.generate "x" options))
        (props.fork (Scope.ofRole .assistant props.context)) ++ [.guard false], w⟩
    let moves : List (Move Empty) := [.poll 5, .poll 5, .poll 5]
    let slower : List (Move Empty) := [.poll 9, .poll 9, .poll 9]
    (Run.play Host.none slower ai).1 = [.element ⟨"one", .llm, .assistant⟩,
        .element ⟨" \n two", .llm, .assistant⟩, .ended] ∧
      (Run.play Host.none slower ai).2.world = (Run.play Host.none moves generate).2.world := by
  intro options w props ai generate moves slower
  have blank : options.stopAtNextLiteral = true →
      ∀ s, props.nextLiteral = some s → isBlankText s = true := by
    rintro - s ⟨⟩
    decide
  have same := (Run.wrap_keepsUp Host.none props false [.guard false] rfl w).2 "x" options blank
  have answers : (Run.play Host.none moves generate).1 = [.element ⟨"one", .llm, .assistant⟩,
      .element ⟨" \n two", .llm, .assistant⟩, .ended] := by decide +kernel
  obtain ⟨alike, world⟩ := same.of_quick moves (by rw [answers]; decide)
  exact ⟨alike.trans answers, world⟩

/-- Before a literal that is not blank the turn goes on where the generation stops. -/
theorem ai_goes_over_literal :
    let options : GenerationOptions := { stopAtNextLiteral := true }
    let w : World Empty Empty := { connectors := [.scripted [[⟨0, "one! two"⟩]]] }
    let props : Props := { context := (default : Llm).context, nextLiteral := some "!" }
    let answers (m : Run Empty Empty) := (Run.play Host.none [.poll 9, .poll 9] m).1
    answers ⟨Frame.guarded (.action (.ai "x" options)) props, w⟩
        = [.element ⟨"one! two", .llm, .assistant⟩, .ended] ∧
      answers ⟨Frame.guarded (.action (.generate "x" options))
          (props.fork (Scope.ofRole .assistant props.context)), w⟩
        = [.element ⟨"one", .llm, .assistant⟩, .ended] := by
  decide +kernel

end PromptStream
