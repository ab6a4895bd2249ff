import PromptStream.Proofs.Engine.Reaching
import PromptStream.Proofs.Generation.LiteralStop
import PromptStream.Proofs.Pattern.Boundary
import PromptStream.Proofs.Text.Literal

/-!
# Stopping at the next literal

A generation that is to stop at the next literal is told that literal as the template holds
it, and makes it its stop.  What the template then emits is the literal with other ends of
lines.  So the generation is cut where the emitted text would first occur exactly if the two
are the same and the literal makes a stop, or if it does not matter because neither of them
occurs (`Reaches.next_literal`).  A literal that holds a carriage return before a newline is
not stopped at (`next_literal_missed`).
-/

namespace PromptStream

variable {φ ν : Type}

open Generation (Ended spoken)

/-- The work of a template when the literal at a position is behind it and the slot there
comes next. -/
def templateFrom (scope : Scope) (literals : List String) (slots : List (Slot φ)) (props : Props)
    (i : Nat) (rest : List (Frame φ)) : List (Frame φ) :=
  templateRest (props.fork (scope props.context)) ((literals.map normalizeLiteral).drop i)
    (slots.drop i) rest

section Template

variable {scope : Scope} {literals : List String} {slots : List (Slot φ)} {props : Props} {i : Nat}
  {rest : List (Frame φ)}

theorem belowFailed_templateFrom (intact : Frame.belowFailed rest = none) :
    Frame.belowFailed (templateFrom scope literals slots props i rest) = none :=
  (belowFailed_templateRest _ _).trans intact

/-- A slot that is filled is resolved with the literal that follows it. -/
theorem templateFrom_of_slot {input : Input φ} (slot : slots[i]? = some (some input)) :
    templateFrom scope literals slots props i rest
      = Frame.guarded input ((props.fork (scope props.context)).withNextLiteral
          (literals.map normalizeLiteral)[i + 1]?)
        ++ .binder (props.fork (scope props.context)) ((literals.map normalizeLiteral).drop (i + 1))
          (slots.drop (i + 1)) :: rest := by
  rw [templateFrom, templateRest, List.head?_drop, slot]
  simp only [List.tail_drop, List.head?_drop]

/-- A literal that is not empty is emitted as it leaves the store. -/
theorem Reaches.literal (scope : Scope) (literals : List String) (slots : List (Slot φ))
    (props : Props) (i : Nat) {host : Host φ ν} {start : Run φ ν} {said : List Element}
    {w : World φ ν} {literal : String} {e : Element} (found : literals[i]? = some literal)
    (filled : (normalizeLiteral literal).isEmpty = false)
    (stored : Element.stored
      ⟨normalizeLiteral literal, .prompt, (props.fork (scope props.context)).context.role⟩ = e)
    (intact : Frame.belowFailed rest = none)
    (reached : Reaches host start said
      ⟨.binder (props.fork (scope props.context)) ((literals.map normalizeLiteral).drop i)
        (slots.drop i) :: rest, w⟩) :
    Reaches host start (said ++ [e]) ⟨templateFrom scope literals slots props i rest,
      w.consume e⟩ := by
  subst stored
  have head : ((literals.map normalizeLiteral).drop i).head? = some (normalizeLiteral literal) := by
    rw [List.head?_drop, List.getElem?_map, found]
    rfl
  have left : ¬ ((literals.map normalizeLiteral).drop i = [] ∧ slots.drop i = []) := by
    rintro ⟨empty, -⟩
    rw [empty] at head
    cases head
  have step := stepBinder_of_left (props.fork (scope props.context)) rest w left
  rw [head] at step
  simp only [filled] at step
  exact reached.element step (belowFailed_templateFrom intact)

end Template

/-- The stop of a generation that has no pattern of its own and is to stop at a literal. -/
theorem GenerationOptions.effectiveStop_of_literal {options : GenerationOptions} {word : String}
    (asked : options.stopAtNextLiteral = true) (plain : options.stop = none)
    (visible : isBlankText word = false) :
    options.effectiveStop (some word) = Stop.compile? (Pattern.escape word) := by
  rw [effectiveStop, plain, asked, Option.filter_some, visible]
  rfl

/-- A generation that is over has said what precedes the literal that it was told, or all that
it was brought if that literal makes no stop. -/
theorem Generation.Ended.said_of_literal {name word : String} {options : GenerationOptions}
    {props : Props} {w : World φ ν} {heard left : Feed Delta} {said : List String}
    {g : Generation} (asked : options.stopAtNextLiteral = true) (plain : options.stop = none)
    (told : props.nextLiteral = some word) (visible : isBlankText word = false)
    (shape : completionOf name options props w = heard ++ left)
    (ended : Ended (freshGeneration name options props) heard left said g) :
    let brought := (choiceText 0 (completionOf name options props w)).toList
    g.lead = String.join said ∧
      (String.join said).toList
        = if (Stop.compile? (Pattern.escape word)).isSome then beforeFirst word.toList brought
          else brought := by
  intro brought
  have between : ∀ stop, options.effectiveStop props.nextLiteral = some stop → stop.OnBoundaries :=
    fun stop active => GenerationOptions.onBoundaries_effectiveStop
      (fun own has => absurd (plain.symm.trans has) (Option.some_ne_none own).symm) _ active
  refine ⟨String.toList_inj.1 (ended.finished between).2.lead, ?_⟩
  rw [freshGeneration, told,
    GenerationOptions.effectiveStop_of_literal asked plain visible] at ended
  cases compiled : Stop.compile? (Pattern.escape word) with
  | none =>
      rw [compiled] at ended
      obtain ⟨rfl, -, -, whole⟩ := ended.gathers
      rw [whole]
      simp only [brought, shape, List.append_nil, Option.isSome_none, Bool.false_eq_true, if_false]
  | some stop =>
      rw [compiled] at ended
      rw [Option.isSome_some, if_pos rfl]
      have whole := ended.literal (Stop.literal_of_compile?_escape compiled)
      rw [← shape] at whole
      exact whole

/-- Stopping at a literal cuts a text where what is emitted of the literal first occurs exactly
if the literal makes a stop and is emitted as it is, or if neither of them occurs. -/
theorem stopped_eq_iff {word : String} (filled : word ≠ "") (cs : List Char) :
    let compiles := (Stop.compile? (Pattern.escape word)).isSome
    (if compiles then beforeFirst word.toList cs else cs)
        = beforeFirst (unixLines word).toList cs ↔
      compiles ∧ ¬ returnNewline <:+: word.toList ∨
        ¬ (unixLines word).toList <:+: cs ∧ (compiles → ¬ word.toList <:+: cs) := by
  intro compiles
  have shown : (unixLines word).toList = dropReturns word.toList := String.toList_ofList
  have nonempty : dropReturns word.toList ≠ [] :=
    dropReturns_ne_nil fun empty => filled (String.toList_eq_nil_iff.1 empty)
  rw [shown]
  generalize compiles = compiles'
  cases compiles' with
  | true =>
      rw [if_pos rfl, beforeFirst_dropReturns_iff]
      simp only [true_and, forall_const, and_comm]
  | false =>
      rw [if_neg Bool.false_ne_true, eq_comm, beforeFirst_eq_self_iff nonempty]
      simp only [Bool.false_eq_true, false_and, false_implies, false_or, and_true]

/-- A template wherever it stands, in a run that has come to one of its slots without a failure
around it.  The slot holds a generation without a pattern of its own that is to stop at the
next literal; that literal is not blank, and the completion does not fail.

The run goes on over the generation to the literal, and the generation has recorded what it
emitted: all that precedes the literal as the template holds it, or the whole text if the
literal makes no stop.  That is the text before the first occurrence of the element which
follows it exactly if the literal makes a stop and has no carriage return before a newline, or
if neither the element nor such a stop occurs in what was brought; and then the content of the
element does not occur in the generated text. -/
theorem Reaches.next_literal {host : Host φ ν} {start : Run φ ν} {said : List Element}
    {rest : List (Frame φ)} {w : World φ ν} (scope : Scope) (literals : List String)
    (slots : List (Slot φ)) (props : Props) (i : Nat) {name raw : String}
    {options : GenerationOptions}
    (slot : slots[i]? = some (some (.action (.generate name options))))
    (literal : literals[i + 1]? = some raw) (visible : isBlankText raw = false)
    (asked : options.stopAtNextLiteral = true) (plain : options.stop = none)
    (intact : Frame.belowFailed rest = none)
    (healthy : ∀ f, .failed f ∉ completionOf name options
      ((props.fork (scope props.context)).withNextLiteral (some (normalizeLiteral raw))) w)
    (reached : Reaches host start said ⟨templateFrom scope literals slots props i rest, w⟩) :
    let inner := props.fork (scope props.context)
    let word := normalizeLiteral raw
    let shown := unixLines word
    let brought :=
      (choiceText 0 (completionOf name options (inner.withNextLiteral (some word)) w)).toList
    let compiles := (Stop.compile? (Pattern.escape word)).isSome
    ∃ es value w',
      Reaches host start (said ++ es ++ [⟨shown, .prompt, inner.context.role⟩])
        ⟨templateFrom scope literals slots props (i + 1) rest, w'⟩ ∧
      w'.scene.outputs = w.scene.outputs.insertAt inner.context.outputAddress name value ∧
      value.firstText = Prompt.text es ∧
      (Prompt.text es).toList = (if compiles then beforeFirst word.toList brought else brought) ∧
      ((Prompt.text es).toList = beforeFirst shown.toList brought ↔
        compiles ∧ ¬ returnNewline <:+: word.toList ∨
          ¬ shown.toList <:+: brought ∧ (compiles → ¬ word.toList <:+: brought)) ∧
      ((Prompt.text es).toList = beforeFirst shown.toList brought →
        ¬ shown.toList <:+: (Prompt.text es).toList) := by
  intro inner word shown brought compiles
  have visibleWord : isBlankText word = false := (isBlankText_normalizeLiteral raw).trans visible
  have filled : word ≠ "" := by
    intro empty
    rw [empty] at visibleWord
    cases visibleWord
  have told : (literals.map normalizeLiteral)[i + 1]? = some word := by
    rw [List.getElem?_map, literal]
    rfl
  rw [templateFrom_of_slot slot, told] at reached
  obtain ⟨es, w₁, ⟨heard, left, texts, g, shape, ended, rfl, rfl⟩, generated⟩ :=
    Brings.generate_of_healthy healthy _ said (by exact intact) reached
  obtain ⟨lead, text⟩ := ended.said_of_literal asked plain rfl visibleWord shape
  have emitted : Prompt.text (texts.map (saidElement inner.context.role)) = String.join texts :=
    Prompt.text_saidElements _ texts
  refine ⟨_, g.value, _, Reaches.literal scope literals slots props (i + 1) literal ?_ rfl intact
    (generated.more rfl), ?_, ?_, ?_, ?_, ?_⟩
  · rw [Bool.eq_false_iff, ne_eq, String.isEmpty_iff]
    exact filled
  · have named : g.name = name := ended.name
    rw [← named]
    exact recorded_outputs texts g
  · rw [Generation.value_firstText, lead]
    exact emitted.symm
  · exact (congrArg String.toList emitted).trans text
  · refine Iff.trans ?_ (stopped_eq_iff filled brought)
    exact Eq.congr ((congrArg String.toList emitted).trans text) rfl
  · intro same occurs
    have chars : shown.toList = dropReturns word.toList := String.toList_ofList
    rw [same] at occurs
    obtain ⟨empty, -⟩ := eq_nil_of_isInfix_beforeFirst occurs
    refine dropReturns_ne_nil ?_ (chars.symm.trans empty)
    exact fun none => filled (String.toList_eq_nil_iff.1 none)

/-- An indented literal is stopped at as it is emitted, though it comes in two pieces. -/
theorem Reaches.next_literal_of_indented :
    let props : Props := { context := (default : Llm).context }
    let options : GenerationOptions := { stopAtNextLiteral := true }
    let w : World Empty Empty := { connectors := [.scripted [[⟨0, "one\n"⟩, ⟨0, "A: two"⟩]]] }
    let slots : List (Slot Empty) := [some (.action (.generate "x" options))]
    let start := Run.start default
      (.action ((Scope.ofRole .assistant).template ["Q:", "\n  A:"] slots)) .null w
    ∃ es w', Reaches Host.none start
        ([⟨"Q:", .prompt, .assistant⟩] ++ es ++ [⟨"\nA:", .prompt, .assistant⟩])
        ⟨templateFrom (Scope.ofRole .assistant) ["Q:", "\n  A:"] slots props 1
          [.guard false, .guard false], w'⟩ ∧
      Prompt.text es = "one" ∧ ¬ "\nA:".toList <:+: (Prompt.text es).toList ∧
      ∃ value, w'.scene.outputs = Outputs.insertAt [] [] "x" value ∧ value.firstText = "one" := by
  intro props options w slots start
  have begun : Reaches Host.none start [⟨"Q:", .prompt, .assistant⟩]
      ⟨templateFrom (Scope.ofRole .assistant) ["Q:", "\n  A:"] slots props 0
        [.guard false, .guard false], w.consume ⟨"Q:", .prompt, .assistant⟩⟩ :=
    Reaches.literal _ _ slots props 0 rfl (by decide) (by decide +kernel) rfl
      ((Reaches.refl Host.none start).more rfl)
  have brought : completionOf "x" options
      ((props.fork (Scope.ofRole .assistant props.context)).withNextLiteral
        (some (normalizeLiteral "\n  A:"))) (w.consume ⟨"Q:", .prompt, .assistant⟩)
      = [.item ⟨0, "one\n"⟩, .item ⟨0, "A: two"⟩] := rfl
  have onward := Reaches.next_literal (Scope.ofRole .assistant) ["Q:", "\n  A:"] slots props 0 rfl
    rfl (by decide) rfl rfl rfl (by rw [brought]; simp) begun
  obtain ⟨es, value, w', reached, outputs, first, -, same, apart⟩ := onward
  have cut := same.2 (.inl ⟨by decide +kernel, by decide⟩)
  have text : Prompt.text es = "one" := String.toList_inj.1 (cut.trans (by decide +kernel))
  have shown : unixLines (normalizeLiteral "\n  A:") = "\nA:" := by decide +kernel
  rw [shown] at reached apart
  exact ⟨es, w', reached, text, apart cut, value, outputs, first.trans text⟩

/-- A literal with a carriage return before a newline is emitted without it, and so the text
goes on over what is emitted. -/
theorem next_literal_missed :
    let w : World Empty Empty := { connectors := [.scripted [[⟨0, "one\nA: two"⟩]]] }
    let speak : Slot Empty := some (.action (.generate "x" { stopAtNextLiteral := true }))
    let played := Run.polls Host.none (List.replicate 5 9) (Run.start default
      (.action ((Scope.ofRole .user).template ["Q:", "\r\nA:"] [speak])) .null w)
    played.1 = [.element ⟨"Q:", .prompt, .user⟩, .element ⟨"one\nA:", .llm, .user⟩,
        .element ⟨" two", .llm, .user⟩, .element ⟨"\nA:", .prompt, .user⟩, .ended] ∧
      Event.generationFinished "x" "one\nA: two" 1 ∈ played.2.world.scene.events ∧
      beforeFirst "\nA:".toList "one\nA: two".toList = "one".toList := by
  decide +kernel

end PromptStream
