import PromptStream.Proofs.Engine.FinishedResult
import PromptStream.Proofs.Engine.Path

/-!
# Contexts along a run

The work that is left in a run spells a path of its tree.  Below the frame on top lie
the unfinished parts of its ancestors, and each of them tells which of its children was
started last (`Frame.childPath`).  So a stack leads to a path (`Tree.Leads`), frame by
frame as it was put up, and every context on it is the one at the path of its frame.

Every step keeps this (`Tree.step_keeps`): a frame that starts a child puts it above
itself, at its own path with the place of the child behind it, and whatever else a step
does leaves the frames below in place.  Nothing that was resolved before, beside or
within another node appears on the path, so none of that can make a difference to the
context of a node (`context_at_path`).
-/

namespace PromptStream

variable {φ ν : Type}

/-- The work that a step leaves. -/
def Step.stack : Step φ ν → List (Frame φ)
  | .more m => m.stack
  | .item _ m => m.stack
  | .pending m => m.stack
  | .ended m => m.stack

theorem World.complete_futures (w : World φ ν) (ref : ConnectorRef) (request : Request) :
    (w.complete ref request).2.futures = w.futures := by
  unfold World.complete
  split <;> rfl

theorem World.takeStream_futures {w w' : World φ ν} {cell : Nat} {feed : Feed Element}
    (taken : w.takeStream? cell = some (feed, w')) : w'.futures = w.futures := by
  unfold World.takeStream? at taken
  split at taken
  · cases taken
    rfl
  · cases taken

/-! ## Frames and paths -/

namespace Frame

/-- The props with which a frame goes on; a function is called with those of its frame. -/
def props? : Frame φ → Option Props
  | .guard _ => none
  | .input _ props _ => some props
  | .items props _ _ => some props
  | .binder props _ _ => some props
  | .loop props _ _ _ _ => some props
  | .map props _ _ _ _ => some props
  | .feed _ => none
  | .awaitShared _ props => some props
  | .awaitFresh _ _ props => some props
  | .waiting _ props _ => some props
  | .generation _ props _ => some props

/-- The path of the child that a frame has started last. -/
def childPath (p : Path) : Frame φ → Path
  | .items _ index _ => p ++ [.position (index - 1)]
  | .loop _ id _ _ next => p ++ [.iteration id (next - 1)]
  | .map _ id _ _ next => p ++ [.iteration id (next - 1)]
  | _ => p

@[simp] theorem childPath_mark (p : Path) (f : Frame φ) : f.mark.childPath p = f.childPath p := by
  cases f <;> rfl

end Frame

namespace Tree

variable (t : Tree φ ν)

/-- A frame that is put on work that leads to `below` works on what stands at a path of
the tree.  That is the path `below`, except that the contents of a template stand within
its scope. -/
inductive Works (below : Path) : Frame φ → Path → Prop where
  | guard (failed : Bool) : Works below (.guard failed) below
  | input {i : Input φ} (props : Props) (fromFunction : Bool) :
      t.Has below i → Works below (.input i props fromFunction) below
  | items {items : List (Input φ)} (props : Props) (index : Nat) :
      t.Has below (.list items) → Works below (.items props index (items.drop index)) below
  | contents {scope : Scope} {place : Option Place} {literals : List String}
      {slots : List (Slot φ)} (props : Props) (index : Nat) :
      t.Has below (.action (.template scope literals slots)) → Scope.Opens scope place →
      Works below (.binder props (literals.drop index) (slots.drop index)) (below ++ place.toList)
  | loop {id : String} {body : Input φ} {options : LoopOptions φ} (props : Props) (next : Nat) :
      t.Has below (.action (.loop id body options)) →
      Works below (.loop props id body options next) below
  | map {id : String} {count : Nat} {item : φ} (props : Props) (next : Nat) :
      t.Has below (.action (.map id count item)) →
      Works below (.map props id count item next) below
  | feed (signals : Feed Element) : Works below (.feed signals) below
  | awaitShared {cell : Nat} (props : Props) :
      t.Has below (.deferred (.shared cell)) → Works below (.awaitShared cell props) below
  | awaitFresh {future : φ} (polls : Nat) (props : Props) :
      t.Has below (.deferred (.fresh future)) → Works below (.awaitFresh future polls props) below
  | waiting {key : String} (props : Props) (index : Option Nat) :
      t.Has below (.action (.wait key)) → Works below (.waiting key props index) below
  | generation {g : Generation} {options : GenerationOptions} (props : Props)
      (left : Feed Delta) :
      t.Has below (.action (.generate g.name options)) →
      Works below (.generation g props left) below

/-- The context of a frame is the one at a path. -/
def Sees (f : Frame φ) (p : Path) : Prop :=
  ∀ props ∈ f.props?, t.props.context.At p props.context

/-- The stack leads to the path at which its frames have started a child last, and each
of its frames has the context at its own path. -/
inductive Leads : List (Frame φ) → Path → Prop where
  | nothing : Leads [] []
  | frame {f : Frame φ} {rest : List (Frame φ)} {below p : Path} :
      Leads rest below → t.Works below f p → t.Sees f p → Leads (f :: rest) (f.childPath p)

variable {t} {f : Frame φ} {rest stack : List (Frame φ)} {w : World φ ν} {p below : Path}

theorem sees_of_none (none : f.props? = none) : t.Sees f p := by
  intro props mem
  rw [none] at mem
  cases mem

theorem sees_of_some {props : Props} (same : f.props? = some props)
    (h : t.props.context.At p props.context) : t.Sees f p := by
  intro props' mem
  rw [same] at mem
  cases mem
  exact h

namespace Leads

theorem guard (h : t.Leads rest p) (failed : Bool) : t.Leads (.guard failed :: rest) p :=
  .frame h (.guard failed) (sees_of_none rfl)

/-- An input that stands where the work below leads to. -/
theorem input (h : t.Leads rest p) {i : Input φ} {props : Props} (has : t.Has p i)
    (sees : t.props.context.At p props.context) (fromFunction : Bool) :
    t.Leads (.input i props fromFunction :: rest) p :=
  .frame h (.input props fromFunction has) (sees_of_some rfl sees)

theorem guarded (h : t.Leads rest p) {i : Input φ} {props : Props} (has : t.Has p i)
    (sees : t.props.context.At p props.context) : t.Leads (Frame.guarded i props ++ rest) p :=
  input (guard h false) has sees false

/-- What lies below a sequence that has failed leads somewhere, too. -/
theorem of_belowFailed (h : t.Leads stack p) {left : List (Frame φ)}
    (failed : Frame.belowFailed stack = some left) : ∃ q, t.Leads left q := by
  induction h with
  | nothing => cases failed
  | @frame f rest below p leads works sees ih =>
      unfold Frame.belowFailed at failed
      split at failed
      next => cases failed
      next rest same =>
        cases same
        cases failed
        exact ⟨_, leads⟩
      next g rest marked same =>
        cases same
        exact ih failed

theorem mark (h : t.Leads stack p) : t.Leads (stack.map Frame.mark) p := by
  induction h with
  | nothing => exact .nothing
  | @frame f rest below p leads works sees ih =>
      rw [List.map_cons, ← Frame.childPath_mark]
      cases works with
      | guard failed => exact .frame ih (.guard true) (sees_of_none rfl)
      | input props fromFunction has => exact .frame ih (.input props fromFunction has) sees
      | items props index has => exact .frame ih (.items props index has) sees
      | contents props index has opens => exact .frame ih (.contents props index has opens) sees
      | loop props next has => exact .frame ih (.loop props next has) sees
      | map props next has => exact .frame ih (.map props next has) sees
      | feed signals => exact .frame ih (.feed signals) sees
      | awaitShared props has => exact .frame ih (.awaitShared props has) sees
      | awaitFresh polls props has => exact .frame ih (.awaitFresh polls props has) sees
      | waiting props index has => exact .frame ih (.waiting props index has) sees
      | generation props left has => exact .frame ih (.generation props left has) sees

end Leads

/-! ## Shared futures -/

variable (t) in
/-- What the cell of a shared future may hold in a run of the tree. -/
def MayHold (cell : Nat) : FutureCell φ → Prop
  | .unresolved future _ =>
      ∃ before, t.world.futures[cell]? = some (.unresolved future before)
  | .resolved result => t.Brings cell result

variable (t) in
/-- The cells of shared futures hold what they may. -/
def HoldsFutures (futures : List (FutureCell φ)) : Prop :=
  ∀ (cell : Nat) (c : FutureCell φ), futures[cell]? = some c → t.MayHold cell c

theorem holdsFutures_start (t : Tree φ ν) : t.HoldsFutures t.world.futures := by
  intro cell c found
  cases c with
  | unresolved future polls => exact ⟨polls, found⟩
  | resolved result => exact .inl found

theorem HoldsFutures.set {futures : List (FutureCell φ)} (h : t.HoldsFutures futures) {cell : Nat}
    {c : FutureCell φ} (may : t.MayHold cell c) : t.HoldsFutures (futures.set cell c) := by
  intro other c' found
  rw [List.getElem?_set] at found
  split at found
  next same =>
    split at found
    next =>
      cases found
      exact same ▸ may
    next => cases found
  next => exact h other c' found

/-! ## Steps -/

variable (t) in
/-- What holds of the work and the world that a step leaves. -/
structure Keeps (s : Step φ ν) : Prop where
  leads : ∃ p, t.Leads s.stack p
  futures : t.HoldsFutures s.world.futures

namespace Keeps

theorem more (leads : t.Leads stack p) (futures : t.HoldsFutures w.futures) :
    t.Keeps (.more ⟨stack, w⟩) := ⟨⟨p, leads⟩, futures⟩

theorem pending (leads : t.Leads stack p) (futures : t.HoldsFutures w.futures) :
    t.Keeps (.pending ⟨stack, w⟩) := ⟨⟨p, leads⟩, futures⟩

theorem deliver {result : Except Fault Element} (leads : t.Leads stack p)
    (futures : t.HoldsFutures w.futures) : t.Keeps (deliver result stack w) := by
  unfold PromptStream.deliver
  split
  next left failed =>
    obtain ⟨q, leads⟩ := leads.of_belowFailed failed
    exact more leads futures
  next =>
    cases result with
    | ok e => exact ⟨⟨p, leads⟩, futures⟩
    | error f => exact ⟨⟨p, leads.mark⟩, futures⟩

end Keeps

section Cases

variable (regular : t.Regular) (leads : t.Leads rest below) (futures : t.HoldsFutures w.futures)

include leads futures

/-! ### Inputs -/

section Input

variable {props : Props} (sees : t.props.context.At below props.context)

include sees

theorem keeps_list {items : List (Input φ)} (has : t.Has below (.list items)) :
    t.Keeps (.more ⟨.items props 0 items :: .guard false :: rest, w⟩) := by
  have works : t.Works below (.items props 0 (items.drop 0)) below := .items props 0 has
  exact .more (.frame (leads.guard false) works (sees_of_some rfl sees)) futures

theorem keeps_template {scope : Scope} {place : Option Place} {literals : List String}
    {slots : List (Slot φ)} (has : t.Has below (.action (.template scope literals slots)))
    (opens : scope.Opens place) :
    t.Keeps
      (.more ⟨binderFrames (props.fork (scope props.context)) literals slots ++ rest, w⟩) := by
  have works : t.Works below
      (.binder (props.fork (scope props.context)) (literals.drop 0) (slots.drop 0))
      (below ++ place.toList) := .contents _ 0 has opens
  exact .more (.frame (leads.guard false) works (sees_of_some rfl (sees.enter opens))) futures

include regular

theorem keeps_action {a : Action φ} (has : t.Has below (.action a)) :
    t.Keeps
      (.more ⟨(startAction t.host a props w).1 ++ rest, (startAction t.host a props w).2⟩) := by
  cases a with
  | template scope literals slots =>
      obtain ⟨place, opens⟩ := regular.scope has
      exact keeps_template leads futures sees has opens
  | generate name options =>
      refine .more (.frame leads (.generation props _ has) (sees_of_some rfl sees)) ?_
      rw [startAction, startGeneration, World.complete_futures]
      exact futures
  | loop id body options =>
      exact .more (.frame (leads.guard false) (.loop props 0 has) (sees_of_some rfl sees)) futures
  | map id count item =>
      exact .more (.frame (leads.guard false) (.map props 0 has) (sees_of_some rfl sees)) futures
  | wait key => exact .more (.frame leads (.waiting props none has) (sees_of_some rfl sees)) futures
  | custom f => exact absurd has regular.action

theorem keeps_input {i : Input φ} (has : t.Has below i) (fromFunction : Bool) :
    t.Keeps (stepInput t.host i props fromFunction rest w) := by
  cases i with
  | null => exact .more leads futures
  | number x =>
      rw [stepInput]
      exact .deliver leads futures
  | text s =>
      rw [stepInput]
      exact .deliver leads futures
  | list items => exact keeps_list leads futures sees has
  | function f =>
      refine .more (leads.input (.returned props w.scene has sees) sees true) ?_
      exact futures
  | deferred d =>
      cases d with
      | shared cell =>
          exact .more (.frame leads (.awaitShared props has) (sees_of_some rfl sees)) futures
      | fresh future =>
          exact .more (.frame leads (.awaitFresh 0 props has) (sees_of_some rfl sees)) futures
  | action a => exact keeps_action regular leads futures sees has
  | stream cell =>
      simp only [stepInput]
      split
      next signals w' taken =>
        refine .more (.frame (leads.guard false) (.feed signals) (sees_of_none rfl)) ?_
        rw [World.takeStream_futures taken]
        exact futures
      next => exact .more leads futures

end Input

/-! ### Awaited values -/

section Awaited

variable {props : Props} (sees : t.props.context.At below props.context)

include sees

theorem keeps_resolved {result : Except Fault (Input φ)}
    (has : ∀ i, result = .ok i → t.Has below i) :
    t.Keeps (stepResolved result props rest w) := by
  cases result with
  | ok i => exact .more (leads.input (has i rfl) sees false) futures
  | error f =>
      rw [stepResolved]
      exact .deliver leads futures

theorem keeps_awaitFresh {future : φ} (has : t.Has below (.deferred (.fresh future)))
    (polls : Nat) :
    t.Keeps (Machine.step t.host ⟨.awaitFresh future polls props :: rest, w⟩) := by
  simp only [Machine.step]
  split
  next =>
    exact .pending (.frame leads (.awaitFresh (polls + 1) props has) (sees_of_some rfl sees))
      futures
  next result arrived =>
    have left : t.HoldsFutures (w.writeAll (t.host.poll future polls w.scene).2).futures := futures
    refine keeps_resolved leads left sees ?_
    rintro i rfl
    exact .brought polls w.scene has arrived

theorem keeps_awaitShared {cell : Nat} (has : t.Has below (.deferred (.shared cell))) :
    t.Keeps (stepShared t.host cell props rest w) := by
  unfold stepShared
  split
  next => exact .more leads futures
  next result found =>
    refine keeps_resolved leads futures sees ?_
    rintro i rfl
    exact .shared has (futures cell _ found)
  next future polls found =>
    obtain ⟨before, start⟩ := futures cell _ found
    dsimp only
    split
    next =>
      refine .pending (.frame leads (.awaitShared props has) (sees_of_some rfl sees)) ?_
      exact futures.set ⟨before, start⟩
    next result arrived =>
      have brings : t.Brings cell result :=
        .inr ⟨future, before, polls, w.scene, start, arrived⟩
      have left : t.HoldsFutures (w.futures.set cell (.resolved result)) := futures.set brings
      refine keeps_resolved leads left sees ?_
      rintro i rfl
      exact .shared has brings

end Awaited

/-! ### Sequences -/

theorem keeps_items {items : List (Input φ)} {props : Props} (index : Nat)
    (has : t.Has below (.list items)) (sees : t.props.context.At below props.context) :
    t.Keeps (Machine.step t.host ⟨.items props index (items.drop index) :: rest, w⟩) := by
  cases left : items.drop index with
  | nil => exact .more leads futures
  | cons i more =>
      have found : items[index]? = some i := by
        rw [← List.head?_drop, left]
        rfl
      have later : more = items.drop (index + 1) := by
        rw [← List.tail_drop, left]
        rfl
      have works : t.Works below (.items props (index + 1) more) below :=
        later ▸ .items props (index + 1) has
      have above : t.Leads (.items props (index + 1) more :: rest) (below ++ [.position index]) :=
        .frame leads works (sees_of_some rfl sees)
      have child : t.props.context.At (below ++ [.position index])
          (props.descend index).context := sees.descend index
      exact .more (above.input (.item has found) child false) futures

theorem keeps_contents {scope : Scope} {place : Option Place} {literals : List String}
    {slots : List (Slot φ)} {props : Props} (index : Nat)
    (has : t.Has below (.action (.template scope literals slots))) (opens : scope.Opens place)
    (sees : t.props.context.At (below ++ place.toList) props.context) :
    t.Keeps (stepBinder props (literals.drop index) (slots.drop index) rest w) := by
  -- What is left of the template, with the slot above it if there is one.
  have stack : ∃ p, t.Leads
      (templateRest props (literals.drop index) (slots.drop index) rest) p := by
    have works : t.Works below
        (.binder props (literals.drop index).tail (slots.drop index).tail)
        (below ++ place.toList) := by
      rw [List.tail_drop, List.tail_drop]
      exact .contents props (index + 1) has opens
    have above := Leads.frame leads works (sees_of_some rfl sees)
    rcases templateRest_cases props (literals.drop index) (slots.drop index) rest
      with ⟨i, slot, stack⟩ | ⟨-, stack⟩
    · rw [stack]
      rw [List.head?_drop] at slot
      have found : slots[index]? = some (some i) := Option.join_eq_some_iff.1 slot
      exact ⟨_, above.guarded (.slot has opens found) sees⟩
    · rw [stack]
      exact ⟨_, above⟩
  obtain ⟨p, stack⟩ := stack
  by_cases exhausted : literals.drop index = [] ∧ slots.drop index = []
  · rw [exhausted.1, exhausted.2]
    exact .more leads futures
  · rw [stepBinder_of_left props rest w exhausted]
    split
    next =>
      split
      next => exact .more stack futures
      next => exact .deliver stack futures
    next => exact .more stack futures

omit leads in
theorem futures_loopEnds (props : Props) (options : LoopOptions φ) (i : Nat) :
    t.HoldsFutures (loopEnds t.host props options i w).2.futures := by
  unfold loopEnds
  split
  next => exact futures
  next =>
    split
    next => exact futures
    next => exact futures

theorem keeps_loop {id : String} {body : Input φ} {options : LoopOptions φ} {props : Props}
    (i : Nat) (has : t.Has below (.action (.loop id body options)))
    (sees : t.props.context.At below props.context) :
    t.Keeps (stepLoop t.host props id body options i rest w) := by
  have asked := futures_loopEnds futures props options i
  unfold stepLoop
  split
  next w' ends =>
    rw [ends] at asked
    exact .more leads asked
  next w' ends =>
    rw [ends] at asked
    have above := Leads.frame leads (.loop props (i + 1) has) (sees_of_some rfl sees)
    exact .more (above.guarded (.body i has) (sees.iteration id i)) asked

theorem keeps_map {id : String} {count : Nat} {item : φ} {props : Props} (i : Nat)
    (has : t.Has below (.action (.map id count item)))
    (sees : t.props.context.At below props.context) :
    t.Keeps (stepMap t.host props id count item i rest w) := by
  unfold stepMap
  split
  next => exact .more leads futures
  next goesOn =>
    have above := Leads.frame leads (.map props (i + 1) has) (sees_of_some rfl sees)
    have body := Has.mapped (enterIteration w id i).scene has (Nat.lt_of_not_le goesOn)
    exact .more (above.guarded body (sees.iteration id i)) futures

/-! ### Outside sources -/

theorem keeps_feed (signals : Feed Element) : t.Keeps (stepFeed signals rest w) := by
  have above : ∀ more : Feed Element, t.Leads (.feed more :: rest) below :=
    fun more => .frame leads (.feed more) (sees_of_none rfl)
  cases signals with
  | nil => exact .more leads futures
  | cons signal more =>
      cases signal with
      | item e =>
          rw [stepFeed]
          exact .deliver (above more) futures
      | failed f =>
          rw [stepFeed]
          exact .deliver (above more) futures
      | pending => exact .pending (above more) futures

theorem keeps_waiting {key : String} {props : Props} (index : Option Nat)
    (has : t.Has below (.action (.wait key))) (sees : t.props.context.At below props.context) :
    t.Keeps (stepWaiting key props index rest w) := by
  cases looked : w.scene.state.item? key (waitIndex w props index) with
  | some item =>
      rw [stepWaiting_of_item rest w looked, consumeItem]
      exact .deliver leads futures
  | none =>
      rw [stepWaiting_of_none rest w looked]
      refine .pending (.frame leads (.waiting props _ has) (sees_of_some rfl sees)) ?_
      unfold World.awaiting
      split <;> exact futures

omit leads in
theorem futures_heardDelta (fresh : Option String) (g : Generation) (props : Props) :
    t.HoldsFutures (heardDelta fresh g props w).futures := by
  unfold heardDelta
  cases fresh <;> split <;> exact futures

theorem keeps_fresh {g : Generation} {options : GenerationOptions} {props : Props}
    (fresh : Option String) (left : Feed Delta)
    (has : t.Has below (.action (.generate g.name options)))
    (sees : t.props.context.At below props.context) :
    t.Keeps (deliverFresh fresh g props left rest w) := by
  have above : t.Leads (.generation g props left :: rest) below :=
    .frame leads (.generation props left has) (sees_of_some rfl sees)
  cases fresh with
  | none => exact .more above futures
  | some s =>
      rw [deliverFresh]
      exact .deliver above futures

theorem keeps_generation {g : Generation} {options : GenerationOptions} {props : Props}
    (signals : Feed Delta) (has : t.Has below (.action (.generate g.name options)))
    (sees : t.props.context.At below props.context) :
    t.Keeps (stepGeneration g props signals rest w) := by
  have above : ∀ (g' : Generation) (left : Feed Delta), g'.name = g.name →
      t.Leads (.generation g' props left :: rest) below :=
    fun g' left same => .frame leads (.generation props left (same ▸ has)) (sees_of_some rfl sees)
  cases isDone : g.done with
  | true =>
      rw [stepGeneration_of_done props signals rest w isDone]
      exact .more leads futures
  | false =>
      match signals with
      | [] =>
          have same := (Generation.close_keeps g).1
          rw [stepGeneration_nil props rest w isDone, recordGeneration_close]
          exact keeps_fresh leads (futures_heardDelta futures _ _ props) _ _
            (same.symm ▸ has) sees
      | .item d :: more =>
          have same := (Generation.absorb_keeps g d).1
          rw [stepGeneration_item props more rest w d isDone]
          exact keeps_fresh leads (futures_heardDelta futures _ _ props) _ _
            (same.symm ▸ has) sees
      | .failed f :: more =>
          rw [stepGeneration_failed props more rest w f isDone]
          exact .deliver (above { g with done := true } more rfl) futures
      | .pending :: more =>
          rw [stepGeneration_pending props more rest w isDone]
          exact .pending (above g more rfl) futures

end Cases

/-- Every step leaves work that leads to a path, with contexts that belong to it. -/
theorem step_keeps (regular : t.Regular) {m : Machine φ ν} (leads : ∃ p, t.Leads m.stack p)
    (futures : t.HoldsFutures m.world.futures) : t.Keeps (Machine.step t.host m) := by
  obtain ⟨stack, w⟩ := m
  obtain ⟨p, leads⟩ := leads
  cases leads with
  | nothing => exact ⟨⟨_, .nothing⟩, futures⟩
  | @frame f rest below p leads works sees =>
      cases works with
      | guard failed => exact .more leads futures
      | input props fromFunction has =>
          exact keeps_input regular leads futures (sees props rfl) has fromFunction
      | items props index has => exact keeps_items leads futures index has (sees props rfl)
      | contents props index has opens =>
          exact keeps_contents leads futures index has opens (sees props rfl)
      | loop props next has => exact keeps_loop leads futures next has (sees props rfl)
      | map props next has => exact keeps_map leads futures next has (sees props rfl)
      | feed signals => exact keeps_feed leads futures signals
      | awaitShared props has => exact keeps_awaitShared leads futures (sees props rfl) has
      | awaitFresh polls props has =>
          exact keeps_awaitFresh leads futures (sees props rfl) has polls
      | waiting props index has => exact keeps_waiting leads futures index has (sees props rfl)
      | generation props left has => exact keeps_generation leads futures left has (sees props rfl)

end Tree

end PromptStream
