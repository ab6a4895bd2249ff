import PromptStream.Proofs.Engine.RecordedText
import PromptStream.Proofs.Generation.LiteralStop
import PromptStream.Proofs.Generation.Room

/-!
# Generations that stop at a word

A generation whose stop is an escaped word emits and records exactly the text of
the first choice before the first occurrence of that word, or all of it if there
is none.  This depends on the text alone: how the completion splits it, what it
brings for other choices and when it keeps the consumer waiting makes no
difference.
-/

namespace PromptStream

variable {φ ν : Type} {word : String}

open Generation (AllFit Took Ended spoken)

/-- The text of a prompt contains that of each of its elements. -/
theorem Prompt.content_isInfix_text {p : Prompt} {e : Element} (mem : e ∈ p) :
    e.content.toList <:+: (Prompt.text p).toList := by
  obtain ⟨xs, ys, rfl⟩ := List.append_of_mem mem
  have split : Prompt.text (xs ++ e :: ys) = Prompt.text xs ++ e.content ++ Prompt.text ys := by
    rw [Prompt.text, List.map_append, List.map_cons, String.join_append, String.join_cons,
      ← String.append_assoc]
    rfl
  rw [split, String.toList_append, String.toList_append]
  exact List.infix_append _ _ _

/-- A generation that stops at a word.  Its completion does not fail before it
ends, or before the word has arrived, and up to there no choice has the largest
number of all. -/
structure LiteralGeneration (φ ν : Type) (word : String) where
  /-- The name of the result. -/
  name : String
  /-- The settings. -/
  options : GenerationOptions
  /-- The place of the generation. -/
  props : Props
  /-- The world in which it is resolved. -/
  world : World φ ν
  /-- The stop in force. -/
  stop : Stop
  active : options.effectiveStop props.nextLiteral = some stop
  literal : Stop.compile? (Pattern.escape word) = some stop
  /-- What the completion brings before it ends or the word has arrived. -/
  before : Feed Delta
  /-- What it would bring after that. -/
  after : Feed Delta
  completion : completionOf name options props world = before ++ after
  noFailure : ∀ f, .failed f ∉ before
  countable : before.Countable
  reached : after = [] ∨
    (choiceTexts 0 before ≠ [] ∧ word.toList <:+: (choiceText 0 before).toList)

namespace LiteralGeneration

/-- All that the completion holds for the first choice. -/
def text (r : LiteralGeneration φ ν word) : String :=
  choiceText 0 (completionOf r.name r.options r.props r.world)

/-- Resolves the generation and polls it. -/
def play (r : LiteralGeneration φ ν word) (host : Host φ ν) (fuels : List Nat) :
    List Poll × Run φ ν :=
  Run.polls host fuels (Run.ofGeneration r.name r.options r.props r.world)

/-- The run has recorded a value with the given text of the first choice. -/
def Recorded (r : LiteralGeneration φ ν word) (m : Run φ ν) (t : String) : Prop :=
  ∃ value : OutputValue, value.firstText = t ∧
    r.world.scene.outputs.Written r.props.context.outputAddress r.name value
      m.world.scene.outputs

/-- The phases of the run. -/
abbrev InPhase (r : LiteralGeneration φ ν word) := Phase r.name r.options r.props r.world

section

variable (r : LiteralGeneration φ ν word) {heard left : Feed Delta} {said : List String}
  {g : Generation}

theorem stop_literal : r.stop.Literal word.toList := Stop.literal_of_compile?_escape r.literal

theorem onBoundaries :
    ∀ stop, r.options.effectiveStop r.props.nextLiteral = some stop → stop.OnBoundaries := by
  rw [r.active]
  rintro stop ⟨⟩
  exact r.stop_literal.onBoundaries

theorem freshGeneration_eq :
    freshGeneration r.name r.options r.props = .fresh r.name (some r.stop) := by
  rw [freshGeneration, r.active]

/-- A generation that goes on has not taken in all that precedes the word or the
end, so it does not meet a failure. -/
theorem not_failed {f : Fault}
    (feed : completionOf r.name r.options r.props r.world = heard ++ .failed f :: left)
    (took : Took (freshGeneration r.name r.options r.props) heard said g)
    (goesOn : g.done = false) : False := by
  rw [r.freshGeneration_eq] at took
  have running := took.literalRunning r.stop_literal goesOn
  -- The word has not occurred in what was heard, so that stops short of `before`.
  have short : ∀ later, heard = r.before ++ later → r.after = [] := by
    rintro later rfl
    rcases r.reached with nothingLeft | ⟨something, occurs⟩
    · exact nothingLeft
    · refine absurd ?_ (running.absent ?_)
      · rw [Generation.toList_choiceText_append]
        exact occurs.trans (List.prefix_append _ _).isInfix
      · rw [choiceTexts_append]
        exact fun nothing => something (List.append_eq_nil_iff.1 nothing).1
  rw [r.completion] at feed
  rcases List.append_eq_append_iff.1 feed with ⟨later, all, rest⟩ | ⟨later, all, rest⟩
  · rw [short later all] at rest
    exact absurd rest (by simp)
  · cases later with
    | nil =>
        rw [List.append_nil] at all
        rw [List.nil_append, short [] (by rw [all, List.append_nil])] at rest
        cases rest
    | cons signal later =>
        obtain ⟨rfl, -⟩ := List.cons.inj rest
        exact r.noFailure f (all ▸ List.mem_append_right _ List.mem_cons_self)

/-- In every phase the texts that were said precede the first occurrence of the
word. -/
theorem said_isPrefix {items : List (Except Fault Element)} {m : Run φ ν}
    (h : r.InPhase items m) :
    ∃ said, items = saidItems r.props.context.role said ∧
      spoken said <+: beforeFirst word.toList r.text.toList := by
  cases h with
  | unstarted => exact ⟨[], rfl, List.nil_prefix⟩
  | @speaking heard left said g feed took goesOn =>
      rw [r.freshGeneration_eq] at took
      refine ⟨said, rfl, ?_⟩
      rw [text, feed, Generation.toList_choiceText_append]
      exact (took.literalRunning r.stop_literal goesOn).isPrefix_beforeFirst _
  | @recorded heard left said g stack feed ended winding =>
      rw [r.freshGeneration_eq] at ended
      refine ⟨said, rfl, ?_⟩
      have whole := ended.literal r.stop_literal
      rw [← feed] at whole
      exact whole ▸ List.prefix_refl _
  | failed feed took goesOn winding => exact (r.not_failed feed took goesOn).elim

/-- A run that has come to its end has said and recorded all that precedes the
word. -/
theorem ended_eq {items : List (Except Fault Element)} {m : Run φ ν} (h : r.InPhase items m)
    (noWork : m.stack = []) (noFailure : ∀ f, .error f ∉ items) :
    ∃ said, items = saidItems r.props.context.role said ∧
      spoken said = beforeFirst word.toList r.text.toList ∧ r.Recorded m (String.join said) := by
  obtain ⟨heard, left, said, g, feed, ended, items, world⟩ := h.ended noWork noFailure
  have named : g.name = r.name := ended.name
  have lead : g.lead = String.join said :=
    String.toList_inj.1 (ended.finished r.onBoundaries).2.lead
  rw [r.freshGeneration_eq] at ended
  refine ⟨said, items, ?_, g.value, ?_, ?_⟩
  · rw [ended.literal r.stop_literal, text, feed]
  · rw [Generation.value_firstText, lead]
  · rw [world]
    exact recorded_written said named

variable (host : Host φ ν) (fuels : List Nat)

theorem play_phase : r.InPhase (handedOut (r.play host fuels).1) (r.play host fuels).2 :=
  Phase.polls host fuels

theorem not_mem_play (f : Fault) : .failed f ∉ (r.play host fuels).1 := by
  intro failed
  obtain ⟨said, items, -⟩ := r.said_isPrefix (r.play_phase host fuels)
  have mem := error_mem_handedOut_iff.2 failed
  rw [items] at mem
  obtain ⟨s, -, same⟩ := List.mem_map.1 mem
  cases same

/-- The emitted text, as what was said. -/
theorem text_of_items {said : List String}
    (items : handedOut (r.play host fuels).1 = saidItems r.props.context.role said) :
    Prompt.text (elementsOf (r.play host fuels).1) = String.join said := by
  rw [elementsOf_eq, items, okElements_saidItems, Prompt.text_saidElements]

theorem play_isPrefix :
    (Prompt.text (elementsOf (r.play host fuels).1)).toList
      <+: beforeFirst word.toList r.text.toList := by
  obtain ⟨said, items, stem⟩ := r.said_isPrefix (r.play_phase host fuels)
  rw [r.text_of_items host fuels items]
  exact stem

theorem play_ended (ended : .ended ∈ (r.play host fuels).1) :
    (Prompt.text (elementsOf (r.play host fuels).1)).toList
        = beforeFirst word.toList r.text.toList ∧
      r.Recorded (r.play host fuels).2 (Prompt.text (elementsOf (r.play host fuels).1)) := by
  have noError : ∀ f, .error f ∉ handedOut (r.play host fuels).1 :=
    fun f failed => r.not_mem_play host fuels f (error_mem_handedOut_iff.1 failed)
  obtain ⟨said, items, whole, recorded⟩ :=
    r.ended_eq (r.play_phase host fuels) (Run.stack_of_ended_mem ended) noError
  rw [r.text_of_items host fuels items]
  exact ⟨whole, recorded⟩

/-- The word occurs in emitted text only if both are empty. -/
theorem eq_empty_of_isInfix
    (h : word.toList <:+: (Prompt.text (elementsOf (r.play host fuels).1)).toList) :
    word = "" ∧ Prompt.text (elementsOf (r.play host fuels).1) = "" := by
  have stem := r.play_isPrefix host fuels
  obtain ⟨emptyWord, emptyText⟩ := eq_nil_of_isInfix_beforeFirst (h.trans stem.isInfix)
  rw [emptyText] at stem
  exact ⟨String.toList_eq_nil_iff.1 emptyWord, String.toList_eq_nil_iff.1 (List.prefix_nil.1 stem)⟩

/-- No element that was emitted is empty. -/
theorem content_ne_empty {e : Element} (mem : e ∈ elementsOf (r.play host fuels).1) :
    e.content ≠ "" := by
  obtain ⟨said, elements, nonempty, -⟩ := (r.play_phase host fuels).said r.onBoundaries
  rw [elementsOf_eq, elements] at mem
  obtain ⟨s, spoken, rfl⟩ := List.mem_map.1 mem
  exact fun empty => nonempty (empty ▸ spoken)

end

/-- However it is polled, a generation that stops at a word does not fail, there is
room for every choice that it hears of, and no text that it emits contains the word:
neither an element nor all of them together, unless both the word and the text are
empty.  When it has come to its end, what it has emitted and recorded is the text
before the first occurrence of the word.  Any other generation whose completion holds
the same text for the first choice emits and records the same. -/
theorem emitted_eq_beforeFirst (r : LiteralGeneration φ ν word) (host : Host φ ν)
    (fuels : List Nat) :
    let played := r.play host fuels
    let emitted := Prompt.text (elementsOf played.1)
    (∀ f, .failed f ∉ played.1) ∧
      AllFit (freshGeneration r.name r.options r.props) r.before ∧
      (word.toList <:+: emitted.toList → word = "" ∧ emitted = "") ∧
      (∀ e ∈ elementsOf played.1, ¬ word.toList <:+: e.content.toList) ∧
      ((∀ fuel ∈ fuels, 0 < fuel) →
        (completionOf r.name r.options r.props r.world).length + 4 < fuels.length →
        .ended ∈ played.1) ∧
      (.ended ∈ played.1 →
        emitted.toList = beforeFirst word.toList r.text.toList ∧ r.Recorded played.2 emitted ∧
        ∀ (s : LiteralGeneration φ ν word) (host' : Host φ ν) (fuels' : List Nat),
          s.text = r.text → .ended ∈ (s.play host' fuels').1 →
          Prompt.text (elementsOf (s.play host' fuels').1) = emitted ∧
            s.Recorded (s.play host' fuels').2 emitted) := by
  intro played emitted
  refine ⟨r.not_mem_play host fuels, Generation.allFit_of_countable r.name _ r.countable,
    r.eq_empty_of_isInfix host fuels, ?_, Phase.ended_mem_polls host, ?_⟩
  · intro e mem occurs
    have within := Prompt.content_isInfix_text mem
    obtain ⟨-, empty⟩ := r.eq_empty_of_isInfix host fuels (occurs.trans within)
    rw [empty] at within
    exact r.content_ne_empty host fuels mem (String.toList_eq_nil_iff.1 (List.infix_nil.1 within))
  · intro ended
    obtain ⟨whole, recorded⟩ := r.play_ended host fuels ended
    refine ⟨whole, recorded, ?_⟩
    intro s host' fuels' same ended'
    obtain ⟨whole', recorded'⟩ := s.play_ended host' fuels' ended'
    have equal : Prompt.text (elementsOf (s.play host' fuels').1) = emitted := by
      rw [← String.toList_inj, whole', whole, same]
    refine ⟨equal, ?_⟩
    rw [← equal]
    exact recorded'

/-- The generation that stops at a word and gets one scripted reply. -/
def ofReply (word : String) (compiles : (Stop.compile? (Pattern.escape word)).isSome)
    (reply : List Delta) (countable : Feed.Countable (reply.map .item)) :
    LiteralGeneration Empty Empty word where
  name := "answer"
  options := { stop := Stop.compile? (Pattern.escape word) }
  props := ⟨⟨.assistant, none, [], [], ⟨⟨0, Connector.scriptedName⟩, true⟩, none⟩, .null, none⟩
  world := { connectors := [.scripted [reply]] }
  stop := (Stop.compile? (Pattern.escape word)).get compiles
  active := (Option.some_get compiles).symm
  literal := (Option.some_get compiles).symm
  before := reply.map .item
  after := []
  completion := (List.append_nil _).symm
  noFailure f failed := by
    obtain ⟨d, -, same⟩ := List.mem_map.1 failed
    cases same
  countable := countable
  reached := .inl rfl

/-- Of `xabc` only `x` is emitted, wherever the word `ab` is split, and the outputs hold it. -/
theorem emitted_eq_beforeFirst_of_split_word :
    ∃ compiles : (Stop.compile? (Pattern.escape "ab")).isSome,
      let r := ofReply "ab" compiles [⟨0, "xa"⟩, ⟨1, "ab"⟩, ⟨0, "bc"⟩] (by decide)
      let s := ofReply "ab" compiles [⟨0, "x"⟩, ⟨0, ""⟩, ⟨0, "abc"⟩] (by decide)
      let fuels := List.replicate 8 1
      Prompt.text (elementsOf (r.play Host.none fuels).1) = "x" ∧
        (∃ value : OutputValue, value.firstText = "x" ∧
          (r.play Host.none fuels).2.world.scene.outputs.lookup? ["answer"] = some value) ∧
        Prompt.text (elementsOf (s.play Host.none fuels).1) = "x" ∧
        ∃ value : OutputValue, value.firstText = "x" ∧
          (s.play Host.none fuels).2.world.scene.outputs.lookup? ["answer"] = some value := by
  refine ⟨by decide +kernel, ?_⟩
  intro r s fuels
  have positive : ∀ fuel ∈ fuels, 0 < fuel := by decide
  obtain ⟨-, -, -, -, ends, exactly⟩ := r.emitted_eq_beforeFirst Host.none fuels
  obtain ⟨-, -, -, -, ends', -⟩ := s.emitted_eq_beforeFirst Host.none fuels
  obtain ⟨whole, ⟨value, first, written⟩, independent⟩ := exactly (ends positive (by decide))
  have text : Prompt.text (elementsOf (r.play Host.none fuels).1) = "x" := by
    rw [← String.toList_inj, whole]
    decide
  obtain ⟨same, value', first', written'⟩ :=
    independent s Host.none fuels rfl (ends' positive (by decide))
  rw [text] at first same first'
  exact ⟨text, ⟨value, first, written.lookup?_root⟩, same, value', first', written'.lookup?_root⟩

end LiteralGeneration

end PromptStream
