import PromptStream.Proofs.Engine.NodeContext
import PromptStream.Proofs.Pattern.Boundary

/-!
# The grammar of traces

The events of a run that goes well form a word of a grammar (`WellNested`): generations,
waits and loops follow one another, each closed before the next one begins, and between the
iterations of a loop stand traces again.

While a run goes on, its trace is the beginning of such a word, and the frames that are left
say how it may go on (`Leaves`): a loop owes its further iterations and its end, a generation
the rest of its text and its report, a wait its item, and any other frame owes a trace.  A
step reports something and puts some frames in place of the topmost one, and what these owe,
after what was reported, is what that frame owed (`Frame.GoesOn`, `tells_step`).
-/

namespace PromptStream

variable {φ ν : Type}

/-! ## Traces -/

mutual

/-- Generations, waits and loops, one after another. -/
inductive WellNested : List Event → Prop where
  | nil : WellNested []
  | generation {name : String} {address : List String} {role : Role} {deltas : List String}
      {choices : Nat} {rest : List Event} : "" ∉ deltas → 1 ≤ choices → WellNested rest →
      WellNested (.generationStarted name address role
        :: (deltas.map (.generationDelta name)
          ++ .generationFinished name (String.join deltas) choices :: rest))
  | item {key : String} {i : Nat} {rest : List Event} :
      WellNested rest → WellNested (.itemConsumed key i :: rest)
  | waited {key : String} {i : Nat} {rest : List Event} :
      WellNested rest → WellNested (.waiting key i :: .itemConsumed key i :: rest)
  | loop {id : String} {whole rest : List Event} :
      LoopFrom id 0 whole → WellNested rest → WellNested (whole ++ rest)

/-- A loop from some iteration on, to its end. -/
inductive LoopFrom : String → Nat → List Event → Prop where
  | finished (id : String) (i : Nat) : LoopFrom id i [.loopFinished id i]
  | iteration {id : String} {i : Nat} {body rest : List Event} :
      WellNested body → LoopFrom id (i + 1) rest →
      LoopFrom id i (.loopIteration id i :: (body ++ rest))

end

/-- The end of a generation that has said some text. -/
def SpeechFrom (name said : String) (es : List Event) : Prop :=
  ∃ (deltas : List String) (choices : Nat), "" ∉ deltas ∧ 1 ≤ choices ∧
    es = deltas.map (.generationDelta name)
      ++ [.generationFinished name (said ++ String.join deltas) choices]

/-- The end of a wait, whose position may be fixed. -/
def WaitFrom (key : String) : Option Nat → List Event → Prop
  | some i, es => es = [.itemConsumed key i]
  | none, es => ∃ i, es = [.itemConsumed key i] ∨ es = [.waiting key i, .itemConsumed key i]

theorem WellNested.append {xs ys : List Event} :
    WellNested xs → WellNested ys → WellNested (xs ++ ys)
  | .nil, later => later
  | .generation nonempty counted rest, later => by
      rw [List.cons_append, List.append_assoc]
      exact .generation nonempty counted (rest.append later)
  | .item rest, later => .item (rest.append later)
  | .waited rest, later => .waited (rest.append later)
  | .loop whole rest, later => by
      rw [List.append_assoc]
      exact .loop whole (rest.append later)

theorem LoopFrom.wellNested {id : String} {es : List Event} (h : LoopFrom id 0 es) :
    WellNested es := by
  rw [← List.append_nil es]
  exact .loop h .nil

theorem WaitFrom.wellNested {key : String} {index : Option Nat} {es : List Event}
    (h : WaitFrom key index es) : WellNested es := by
  cases index with
  | some i => exact h ▸ .item .nil
  | none =>
      obtain ⟨i, rfl | rfl⟩ := h
      · exact .item .nil
      · exact .waited .nil

theorem SpeechFrom.wellNested {name : String} {es : List Event} (h : SpeechFrom name "" es)
    (address : List String) (role : Role) :
    WellNested (.generationStarted name address role :: es) := by
  obtain ⟨deltas, choices, nonempty, counted, rfl⟩ := h
  rw [String.empty_append]
  exact .generation nonempty counted .nil

/-- The text of a delta. -/
def Event.delta? : Event → Option String
  | .generationDelta _ s => some s
  | _ => none

/-- The texts of the deltas of a trace, in order. -/
def deltaTexts (es : List Event) : List String := es.filterMap Event.delta?

/-! ## What frames may still report -/

/-- What a generation has said so far. -/
def Generation.said (g : Generation) : String :=
  String.ofList (takeBytes g.emitted g.lead.toList)

theorem Generation.Running.said_eq {g : Generation} {heard : Feed Delta} {out : List Char}
    (h : g.Running heard out) : g.said = String.ofList out := by
  rw [Generation.said, ← h.emitted.offset, takeBytes_of_isPrefix h.emitted.stem]

namespace Frame

/-- What a frame may report until it and all that it puts on the stack are gone. -/
def Owes : Frame φ → List Event → Prop
  | .loop _ id _ _ next, es => LoopFrom id next es
  | .map _ id _ _ next, es => LoopFrom id next es
  | .waiting key _ index, es => WaitFrom key index es
  | .generation g _ _, es => if g.done then es = [] else SpeechFrom g.name g.said es
  | _, es => WellNested es

/-- A frame that owes a trace and nothing else. -/
def Free (f : Frame φ) : Prop := f.Owes = WellNested

/-- Nothing has failed, and a generation has kept account of what it said. -/
def Sound : Frame φ → Prop
  | .guard failed => failed = false
  | .generation g _ _ => g.done = false →
      (∃ heard out, g.Running heard out) ∧ ∀ stop, g.stop = some stop → stop.OnBoundaries
  | _ => True

/-- A frame that is about to start a generation has a stop that cuts between two
characters, if any. -/
def StopsBetween : Frame φ → Prop
  | .input (.action (.generate _ options)) _ _ =>
      ∀ stop, options.stop = some stop → stop.OnBoundaries
  | _ => True

/-- Whether a frame hands out what an outside stream supplies. -/
def isFeed : Frame φ → Bool
  | .feed _ => true
  | _ => false

/-- The text of an element that a frame hands out, if a model said it and no outside stream
supplied it. -/
def spoken (f : Frame φ) (e : Element) : List String :=
  if e.source = .llm ∧ f.isFeed = false then [e.content] else []

theorem spoken_of_not_llm (f : Frame φ) {e : Element} (notLlm : e.source ≠ .llm) :
    f.spoken e = [] := if_neg fun own => notLlm own.1

theorem spoken_feed (signals : Feed Element) (e : Element) :
    (Frame.feed signals : Frame φ).spoken e = [] := if_neg fun own => Bool.noConfusion own.2

end Frame

/-- What some frames may report, one after another. -/
def Leaves : List (Frame φ) → List Event → Prop
  | [], es => es = []
  | f :: rest, es => ∃ now later, es = now ++ later ∧ f.Owes now ∧ Leaves rest later

theorem leaves_append {above below : List (Frame φ)} {es : List Event} :
    Leaves (above ++ below) es
      ↔ ∃ now later, es = now ++ later ∧ Leaves above now ∧ Leaves below later := by
  induction above generalizing es with
  | nil =>
      constructor
      · exact fun left => ⟨[], es, rfl, rfl, left⟩
      · rintro ⟨_, later, rfl, rfl, left⟩
        exact left
  | cons f above ih =>
      constructor
      · rintro ⟨first, others, rfl, here, there⟩
        obtain ⟨now, later, rfl, inside, outside⟩ := ih.1 there
        exact ⟨first ++ now, later, (List.append_assoc _ _ _).symm,
          ⟨first, now, rfl, here, inside⟩, outside⟩
      · rintro ⟨_, later, rfl, ⟨first, now, rfl, here, inside⟩, outside⟩
        exact ⟨first, now ++ later, List.append_assoc _ _ _, here,
          ih.2 ⟨now, later, rfl, inside, outside⟩⟩

theorem leaves_singleton {f : Frame φ} {es : List Event} : Leaves [f] es ↔ f.Owes es := by
  constructor
  · rintro ⟨now, _, rfl, here, rfl⟩
    rwa [List.append_nil]
  · exact fun here => ⟨es, [], (List.append_nil es).symm, here, rfl⟩

theorem wellNested_of_free {stack : List (Frame φ)} (free : ∀ f ∈ stack, f.Free)
    {es : List Event} (h : Leaves stack es) : WellNested es := by
  induction stack generalizing es with
  | nil => exact h ▸ .nil
  | cons f rest ih =>
      obtain ⟨now, later, rfl, here, there⟩ := h
      rw [free f List.mem_cons_self] at here
      exact WellNested.append here (ih (fun g mem => free g (List.mem_cons_of_mem _ mem)) there)

/-! ## Steps -/

/-- Some frames go on where a frame is, once it has reported something. -/
structure Frame.GoesOn (f : Frame φ) (reported : List Event) (pushed : List (Frame φ)) :
    Prop where
  leaves : ∀ es, Leaves pushed es → f.Owes (reported ++ es)
  sound : ∀ g ∈ pushed, g.Sound

/-- A step of a frame that has reported something: it leaves frames that go on, and the
deltas that it reported are what it hands out.  Nothing is said of a step that fails. -/
inductive Frame.Tells (f : Frame φ) (rest : List (Frame φ)) (reported : List Event) :
    Step φ ν → Prop where
  | more {p : List (Frame φ)} {w : World φ ν} : f.GoesOn reported p →
      deltaTexts reported = [] → Frame.Tells f rest reported (.more ⟨p ++ rest, w⟩)
  | element {e : Element} {p : List (Frame φ)} {w : World φ ν} : f.GoesOn reported p →
      deltaTexts reported = f.spoken e →
      Frame.Tells f rest reported (.item (.ok e) ⟨p ++ rest, w⟩)
  | failed {fault : Fault} {m : Machine φ ν} :
      Frame.Tells f rest reported (.item (.error fault) m)
  | pending {p : List (Frame φ)} {w : World φ ν} : f.GoesOn reported p →
      deltaTexts reported = [] → Frame.Tells f rest reported (.pending ⟨p ++ rest, w⟩)

namespace Frame

variable {f : Frame φ} {reported : List Event}

/-- A frame that owes a trace may leave at once, or leave it to others. -/
theorem GoesOn.free (free : f.Free) {pushed : List (Frame φ)}
    (others : ∀ g ∈ pushed, g.Free ∧ g.Sound) : f.GoesOn [] pushed where
  leaves es left := by
    rw [free]
    exact wellNested_of_free (fun g mem => (others g mem).1) left
  sound g mem := (others g mem).2

theorem GoesOn.pop (free : f.Free) : f.GoesOn [] [] := .free free (List.forall_mem_nil _)

/-- A frame may leave what it still owes to another one. -/
theorem GoesOn.single {g : Frame φ} (owes : ∀ es, g.Owes es → f.Owes (reported ++ es))
    (sound : g.Sound) : f.GoesOn reported [g] where
  leaves es left := owes es (leaves_singleton.1 left)
  sound _ mem := List.mem_singleton.1 mem ▸ sound

theorem GoesOn.one (free : f.Free) {g : Frame φ} (other : g.Free ∧ g.Sound) :
    f.GoesOn [] [g] := by
  refine .single (fun es owed => ?_) other.2
  rw [other.1] at owed
  rw [free]
  exact owed

theorem GoesOn.two (free : f.Free) {g h : Frame φ} (first : g.Free ∧ g.Sound)
    (second : h.Free ∧ h.Sound) : f.GoesOn [] [g, h] := by
  refine .free free fun k mem => ?_
  rcases List.mem_cons.1 mem with rfl | mem
  · exact first
  · exact List.mem_singleton.1 mem ▸ second

theorem guarded_free (i : Input φ) (props : Props) :
    ∀ g ∈ guarded i props, g.Free ∧ g.Sound := by
  intro g mem
  simp only [guarded, List.mem_cons, List.not_mem_nil, or_false] at mem
  rcases mem with rfl | rfl
  · exact ⟨rfl, trivial⟩
  · exact ⟨rfl, rfl⟩

/-- A frame that puts another one above a guard. -/
theorem GoesOn.above_guard (free : f.Free) {g : Frame φ} (sound : g.Sound)
    (traces : ∀ es, g.Owes es → WellNested es) : f.GoesOn [] [g, .guard false] where
  leaves es left := by
    obtain ⟨now, later, rfl, here, there⟩ := left
    rw [free]
    exact (traces now here).append (leaves_singleton.1 there)
  sound h mem := by
    rcases List.mem_cons.1 mem with rfl | mem
    · exact sound
    · exact List.mem_singleton.1 mem ▸ rfl

/-- Where nothing has failed, an item is handed out. -/
theorem belowFailed_of_sound {stack : List (Frame φ)} (sound : ∀ g ∈ stack, g.Sound) :
    belowFailed stack = none := by
  induction stack with
  | nil => rfl
  | cons g rest ih =>
      have below := ih fun h mem => sound h (List.mem_cons_of_mem _ mem)
      have top := sound g List.mem_cons_self
      cases g with
      | guard failed =>
          cases top
          exact below
      | _ => exact below

/-- An element that is handed out. -/
theorem Tells.say {rest p : List (Frame φ)} {e : Element} (sound : ∀ g ∈ rest, g.Sound)
    (goes : f.GoesOn reported p) (said : deltaTexts reported = f.spoken e) (w : World φ ν) :
    f.Tells rest reported (deliver (.ok e) (p ++ rest) w) := by
  have unmarked : belowFailed (p ++ rest) = none :=
    belowFailed_of_sound fun g mem => (List.mem_append.1 mem).elim (goes.sound g) (sound g)
  rw [deliver, unmarked]
  exact .element goes said

theorem Tells.fail {rest stack : List (Frame φ)} (sound : ∀ g ∈ stack, g.Sound) (fault : Fault)
    (w : World φ ν) : f.Tells rest reported (deliver (.error fault) stack w) := by
  rw [deliver, belowFailed_of_sound sound]
  exact .failed

section More

variable {rest : List (Frame φ)} (free : f.Free) {g h : Frame φ} (w : World φ ν)

include free

theorem Tells.pop : f.Tells rest [] (.more ⟨rest, w⟩) := .more (p := []) (.pop free) rfl

theorem Tells.one (other : g.Free ∧ g.Sound) : f.Tells rest [] (.more ⟨g :: rest, w⟩) :=
  .more (p := [g]) (.one free other) rfl

theorem Tells.two (first : g.Free ∧ g.Sound) (second : h.Free ∧ h.Sound) :
    f.Tells rest [] (.more ⟨g :: h :: rest, w⟩) :=
  .more (p := [g, h]) (.two free first second) rfl

end More

end Frame

open PromptStream.Frame (Tells GoesOn guarded)

section Steps

variable {host : Host φ ν} {rest : List (Frame φ)} {w : World φ ν}

/-- Starting an action. -/
theorem goesOn_startAction {a : Action φ} {props : Props} {fromFunction : Bool}
    (between : (Frame.input (.action a) props fromFunction).StopsBetween) :
    (Frame.input (.action a) props fromFunction).GoesOn
      ((Frame.input (.action a) props fromFunction).reports host w)
      (startAction host a props w).1 := by
  have free : (Frame.input (.action a) props fromFunction).Free := rfl
  cases a with
  | template scope literals slots => exact GoesOn.two free ⟨rfl, trivial⟩ ⟨rfl, rfl⟩
  | generate name options =>
      refine .single (fun es owed => SpeechFrom.wellNested owed _ _) fun _ => ?_
      exact ⟨⟨_, _, Generation.Running.start name _⟩,
        fun stop active => GenerationOptions.onBoundaries_effectiveStop between _ active⟩
  | loop id body options =>
      exact GoesOn.above_guard free trivial fun es left => LoopFrom.wellNested left
  | map id count item =>
      exact GoesOn.above_guard free trivial fun es left => LoopFrom.wellNested left
  | wait key => exact .single (fun es (owed : WaitFrom key none es) => owed.wellNested) trivial
  | custom f =>
      change GoesOn _ [] (workFrames (host.perform f props w.scene).1)
      cases (host.perform f props w.scene).1 with
      | resolve i props' => exact GoesOn.free free (Frame.guarded_free i props')
      | bind literals slots props' => exact GoesOn.two free ⟨rfl, trivial⟩ ⟨rfl, rfl⟩
      | emit signals => exact GoesOn.one free ⟨rfl, trivial⟩

/-! ### Steps of the frames -/

variable (sound : ∀ g ∈ rest, g.Sound)

include sound

/-- An element that no model said. -/
theorem tells_plain {f : Frame φ} (free : f.Free) {p : List (Frame φ)}
    (others : ∀ g ∈ p, g.Free ∧ g.Sound) {e : Element} (notLlm : e.source ≠ .llm)
    (w' : World φ ν) : f.Tells rest [] (deliver (.ok e) (p ++ rest) w') :=
  .say sound (.free free others) (f.spoken_of_not_llm notLlm).symm w'

theorem tells_stepInput {i : Input φ} {props : Props} {fromFunction : Bool}
    (between : (Frame.input i props fromFunction).StopsBetween) :
    (Frame.input i props fromFunction).Tells rest
      ((Frame.input i props fromFunction).reports host w)
      (stepInput host i props fromFunction rest w) := by
  have free : (Frame.input i props fromFunction).Free := rfl
  have scalar : ∀ content : String,
      (scalar content props fromFunction).source ≠ .llm := by
    intro content
    change scalarSource fromFunction ≠ .llm
    cases fromFunction <;> simp [scalarSource]
  cases i with
  | null => exact .pop free w
  | number x => exact tells_plain sound free (List.forall_mem_nil _) (scalar _) w
  | text s => exact tells_plain sound free (List.forall_mem_nil _) (scalar _) w
  | list items => exact Tells.two free w ⟨rfl, trivial⟩ ⟨rfl, rfl⟩
  | function f => exact .one free _ ⟨rfl, trivial⟩
  | deferred d => cases d <;> exact .one free _ ⟨rfl, trivial⟩
  | action a =>
      refine .more (goesOn_startAction between) ?_
      cases a <;> rfl
  | stream cell =>
      simp only [stepInput]
      split
      next => exact .two free _ ⟨rfl, trivial⟩ ⟨rfl, rfl⟩
      next => exact .pop free w

/-- The result of a future stands in for it. -/
theorem tells_stepResolved {f : Frame φ} (free : f.Free) (result : Except Fault (Input φ))
    (props : Props) (w' : World φ ν) : f.Tells rest [] (stepResolved result props rest w') := by
  cases result with
  | ok i => exact .one free _ ⟨rfl, trivial⟩
  | error fault =>
      rw [stepResolved]
      exact .fail sound fault w'

theorem tells_stepShared (cell : Nat) (props : Props) :
    (Frame.awaitShared cell props).Tells rest [] (stepShared host cell props rest w) := by
  have free : (Frame.awaitShared cell props : Frame φ).Free := rfl
  unfold stepShared
  split
  next => exact .pop free w
  next result _ => exact tells_stepResolved sound free result props w
  next future polls _ =>
    dsimp only
    split
    next => exact .pending (p := [_]) (GoesOn.one free ⟨rfl, trivial⟩) rfl
    next result _ => exact tells_stepResolved sound free result props _

theorem tells_stepBinder (props : Props) (literals : List String) (slots : List (Slot φ)) :
    (Frame.binder props literals slots).Tells rest [] (stepBinder props literals slots rest w) := by
  have free : (Frame.binder props literals slots).Free := rfl
  by_cases exhausted : literals = [] ∧ slots = []
  · obtain ⟨rfl, rfl⟩ := exhausted
    exact .pop free w
  · rw [stepBinder_of_left props rest w exhausted]
    obtain ⟨pushed, stack, others⟩ : ∃ pushed, templateRest props literals slots rest
        = pushed ++ rest ∧ ∀ g ∈ pushed, g.Free ∧ g.Sound := by
      rcases templateRest_cases props literals slots rest with ⟨i, -, stack⟩ | ⟨-, stack⟩
      · refine ⟨Frame.guarded i _ ++ [_], stack, fun g mem => ?_⟩
        rcases List.mem_append.1 mem with mem | mem
        · exact Frame.guarded_free _ _ g mem
        · exact List.mem_singleton.1 mem ▸ ⟨rfl, trivial⟩
      · exact ⟨[_], stack, fun g mem => List.mem_singleton.1 mem ▸ ⟨rfl, trivial⟩⟩
    rw [stack]
    split
    next =>
      split
      next => exact .more (.free free others) rfl
      next => exact tells_plain sound free others (by simp [Element.stored]) w
    next => exact .more (.free free others) rfl

omit sound in
/-- A loop that announces an iteration owes that iteration and what follows it. -/
theorem goesOn_iteration {f g : Frame φ} {id : String} {i : Nat}
    (here : f.Owes = LoopFrom id i) (there : g.Owes = LoopFrom id (i + 1)) (sound : g.Sound)
    (body : Input φ) (props : Props) :
    f.GoesOn [.loopIteration id i] (guarded body props ++ [g]) where
  leaves es left := by
    obtain ⟨inside, later, rfl, produced, others⟩ := leaves_append.1 left
    have next := leaves_singleton.1 others
    rw [there] at next
    rw [here, List.singleton_append]
    exact .iteration
      (wellNested_of_free (fun h mem => (Frame.guarded_free body props h mem).1) produced) next
  sound h mem := by
    rcases List.mem_append.1 mem with mem | mem
    · exact (Frame.guarded_free body props h mem).2
    · exact List.mem_singleton.1 mem ▸ sound

omit sound in
theorem goesOn_loopFinished {f : Frame φ} {id : String} {i : Nat}
    (here : f.Owes = LoopFrom id i) : f.GoesOn [.loopFinished id i] [] where
  leaves es left := by
    cases left
    rw [here]
    exact .finished id i
  sound := List.forall_mem_nil _

omit sound in
theorem tells_stepLoop (props : Props) (id : String) (body : Input φ) (options : LoopOptions φ)
    (i : Nat) :
    (Frame.loop props id body options i).Tells rest
      ((Frame.loop props id body options i).reports host w)
      (stepLoop host props id body options i rest w) := by
  rw [stepLoop, Frame.reports]
  cases loopEnds host props options i w with
  | mk ended w' =>
      cases ended with
      | true => exact .more (p := []) (goesOn_loopFinished rfl) rfl
      | false =>
          have goes := goesOn_iteration (f := Frame.loop props id body options i)
            (g := .loop props id body options (i + 1)) rfl rfl trivial body
            (iterationProps props id i)
          exact .more goes rfl

omit sound in
theorem tells_stepMap (props : Props) (id : String) (count : Nat) (item : φ) (i : Nat) :
    (Frame.map props id count item i).Tells rest
      ((Frame.map props id count item i).reports host w)
      (stepMap host props id count item i rest w) := by
  rw [stepMap, Frame.reports]
  split
  next => exact .more (p := []) (goesOn_loopFinished rfl) rfl
  next =>
    have goes := goesOn_iteration (f := Frame.map props id count item i)
      (g := .map props id count item (i + 1)) rfl rfl trivial
      (host.item item i (enterIteration w id i).scene).1 (iterationProps props id i)
    exact .more goes rfl

theorem tells_stepFeed (signals : Feed Element) :
    (Frame.feed signals).Tells rest [] (stepFeed signals rest w) := by
  have free : (Frame.feed signals : Frame φ).Free := rfl
  have others : ∀ more : Feed Element, (Frame.feed signals : Frame φ).GoesOn [] [.feed more] :=
    fun more => .one free ⟨rfl, trivial⟩
  cases signals with
  | nil => exact .pop free w
  | cons signal more =>
      cases signal with
      | item e =>
          rw [stepFeed]
          exact .say sound (others more) (Frame.spoken_feed _ e).symm w
      | failed fault =>
          rw [stepFeed]
          have all : ∀ g ∈ .feed more :: rest, g.Sound := List.forall_mem_cons.2 ⟨trivial, sound⟩
          exact .fail all fault w
      | pending => exact .pending (others more) rfl

theorem tells_stepWaiting (key : String) (props : Props) (index : Option Nat) :
    (Frame.waiting key props index).Tells rest
      ((Frame.waiting key props index).reports host w)
      (stepWaiting key props index rest w) := by
  rw [Frame.reports]
  cases looked : w.scene.state.item? key (waitIndex w props index) with
  | some item =>
      rw [stepWaiting_of_item rest w looked, consumeItem]
      have plain : (Frame.waiting key props index : Frame φ).spoken
          ⟨itemText item, .parameter, props.context.role⟩ = [] :=
        Frame.spoken_of_not_llm _ (by simp)
      have goes : (Frame.waiting key props index : Frame φ).GoesOn
          [.itemConsumed key (waitIndex w props index)] [] := by
        refine ⟨fun es left => ?_, List.forall_mem_nil _⟩
        cases left
        cases index with
        | some i => exact rfl
        | none => exact ⟨_, .inl rfl⟩
      exact .say (p := []) sound goes plain.symm _
  | none =>
      rw [stepWaiting_of_none rest w looked]
      cases index with
      | some i => exact .pending (p := [_]) (.single (fun es owed => owed) trivial) rfl
      | none =>
          refine .pending (p := [_]) (.single (fun es owed => ?_) trivial) rfl
          cases owed
          exact ⟨_, .inr rfl⟩

/-! ### Steps of generations -/

omit sound in
theorem deltaTexts_reports (g : Generation) (fresh : Option String) :
    deltaTexts (g.reports fresh) = fresh.toList := by
  unfold Generation.reports
  cases fresh <;> split <;> rfl

omit sound in
/-- What a generation owes after it has said a text, or nothing, is what it owed before. -/
theorem goesOn_heard {g g' : Generation} {heard heard' : Feed Delta} {out : List Char}
    {fresh : Option String} (running : g.Running heard out)
    (between : ∀ stop, g.stop = some stop → stop.OnBoundaries)
    (same : g'.name = g.name ∧ g'.stop = g.stop) (nonempty : fresh ≠ some "")
    (next : g'.Running heard' (out ++ Generation.freshChars fresh) ∨
      g'.Finished heard' (out ++ Generation.freshChars fresh)) (props : Props)
    (feed more : Feed Delta) :
    (Frame.generation g props feed : Frame φ).GoesOn (g'.reports fresh)
      [.generation g' props more] := by
  have owes : (Frame.generation g props feed : Frame φ).Owes
      = SpeechFrom g.name (String.ofList out) := by
    funext es
    rw [Frame.Owes, if_neg (ne_true_of_eq_false running.goesOn), running.said_eq]
  have said : String.ofList (out ++ Generation.freshChars fresh)
      = String.ofList out ++ String.join fresh.toList := by
    cases fresh <;> simp [Generation.freshChars, String.ofList_append]
  have texts : "" ∉ fresh.toList := by
    cases fresh with
    | none => exact List.not_mem_nil
    | some s => simpa [eq_comm] using nonempty
  refine .single (fun es left => ?_) fun goesOn => ?_
  · rw [owes]
    rw [Frame.Owes] at left
    rcases next with goesOn | finished
    · rw [if_neg (ne_true_of_eq_false goesOn.goesOn), goesOn.said_eq, said, same.1] at left
      obtain ⟨deltas, choices, others, counted, rfl⟩ := left
      refine ⟨fresh.toList ++ deltas, choices, ?_, counted, ?_⟩
      · exact fun mem => (List.mem_append.1 mem).elim texts others
      · rw [Generation.reports, if_neg (ne_true_of_eq_false goesOn.goesOn), same.1,
          String.join_append]
        cases fresh <;> simp [String.append_assoc]
    · rw [if_pos finished.done] at left
      have lead : g'.lead = String.ofList out ++ String.join fresh.toList := by
        rw [← said, ← finished.lead, String.ofList_toList]
      refine ⟨fresh.toList, g'.choices, texts, Nat.le_max_left _ _, ?_⟩
      rw [left, Generation.reports, if_pos finished.done, same.1, lead]
      cases fresh <;> simp
  · rcases next with running | finished
    · exact ⟨⟨_, _, running⟩, same.2 ▸ between⟩
    · rw [finished.done] at goesOn
      cases goesOn

theorem tells_deliverFresh {f : Frame φ} {g : Generation} {props : Props} {feed : Feed Delta}
    {fresh : Option String} (notFeed : f.isFeed = false)
    (goes : f.GoesOn (g.reports fresh) [.generation g props feed]) (w' : World φ ν) :
    f.Tells rest (g.reports fresh) (deliverFresh fresh g props feed rest w') := by
  cases fresh with
  | none => exact .more (p := [_]) goes (deltaTexts_reports g none)
  | some s =>
      rw [deliverFresh]
      refine .say sound goes ?_ w'
      rw [deltaTexts_reports, Frame.spoken, if_pos ⟨rfl, notFeed⟩]
      rfl

theorem tells_stepGeneration {g : Generation} {props : Props} {feed : Feed Delta}
    (account : (Frame.generation g props feed : Frame φ).Sound) :
    (Frame.generation g props feed).Tells rest
      ((Frame.generation g props feed).reports host w)
      (stepGeneration g props feed rest w) := by
  rw [Frame.reports]
  cases isDone : g.done with
  | true =>
      rw [stepGeneration_of_done props feed rest w isDone]
      refine .more (p := []) ⟨fun es left => ?_, List.forall_mem_nil _⟩ rfl
      cases left
      rw [Frame.Owes, isDone]
      rfl
  | false =>
      obtain ⟨⟨heard, out, running⟩, between⟩ := account isDone
      cases feed with
      | nil =>
          obtain ⟨fresh, g', closed, nonempty, -, finished⟩ := running.close
          have same := Generation.close_keeps g
          rw [stepGeneration_nil props rest w isDone]
          simp only [Generation.nextReports, closed] at same ⊢
          exact tells_deliverFresh sound rfl
            (goesOn_heard running between same nonempty (.inr finished) props [] []) _
      | cons signal more =>
          cases signal with
          | item d =>
              obtain ⟨fresh, g', absorbed, nonempty, next⟩ := running.absorb between d
              have same := Generation.absorb_keeps g d
              rw [stepGeneration_item props more rest w d isDone]
              simp only [Generation.nextReports, absorbed] at same ⊢
              exact tells_deliverFresh sound rfl
                (goesOn_heard running between same nonempty next props _ more) _
          | failed fault =>
              rw [stepGeneration_failed props more rest w fault isDone]
              have all : ∀ f ∈ .generation { g with done := true } props more :: rest, f.Sound :=
                List.forall_mem_cons.2 ⟨fun goesOn => Bool.noConfusion goesOn, sound⟩
              exact .fail all fault w
          | pending =>
              rw [stepGeneration_pending props more rest w isDone]
              exact .pending (p := [_]) (.single (fun es owed => owed) account) rfl

/-- What a step tells. -/
theorem tells_step {f : Frame φ} (account : f.Sound) (between : f.StopsBetween) :
    f.Tells rest (f.reports host w) (Machine.step host ⟨f :: rest, w⟩) := by
  cases f with
  | guard failed =>
      have free : (Frame.guard failed : Frame φ).Free := rfl
      exact .pop free w
  | input i props fromFunction => exact tells_stepInput sound between
  | items props index more =>
      have free : (Frame.items props index more : Frame φ).Free := rfl
      cases more with
      | nil => exact .pop free w
      | cons i more => exact .two free w ⟨rfl, trivial⟩ ⟨rfl, trivial⟩
  | binder props literals slots => exact tells_stepBinder sound props literals slots
  | loop props id body options next => exact tells_stepLoop props id body options next
  | map props id count item next => exact tells_stepMap props id count item next
  | feed signals => exact tells_stepFeed sound signals
  | awaitShared cell props => exact tells_stepShared sound cell props
  | awaitFresh future polls props =>
      have free : (Frame.awaitFresh future polls props : Frame φ).Free := rfl
      simp only [Machine.step]
      split
      next => exact .pending (p := [_]) (GoesOn.one free ⟨rfl, trivial⟩) rfl
      next result _ => exact tells_stepResolved sound free result props _
  | waiting key props index => exact tells_stepWaiting sound key props index
  | generation g props feed => exact tells_stepGeneration sound account

end Steps

end PromptStream
