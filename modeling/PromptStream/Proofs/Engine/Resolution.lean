import PromptStream.Proofs.Engine.Reports

/-!
# What an input comes to

The machine resolves an input by small steps on a stack of frames.  Here the same is
said at once, by recursion over the input: `resolve` gives the elements that an input
yields, in order, and how they end.

The parts of an input are put together by `andThen`.  What comes next is resolved from
the world that is left, and only if there was no failure, so a failure is always the
last item (`handedOut`).

A function may return functions without end, a loop may have no bound, and what is
awaited may never come.  So `resolve` takes an amount of fuel, and what it does not
get to is `unfinished`.
-/

namespace PromptStream

variable {φ ν : Type}

/-- What the world is after the consumer has received an element, and after it has
found something pending and comes back. -/
structure Consumer (φ ν : Type) where
  receives : Element → World φ ν → World φ ν
  waits : World φ ν → World φ ν

/-! ## Items and how they end -/

/-- How some items end, and the world that they leave. -/
inductive Ending (φ ν : Type) where
  | ended (w : World φ ν)
  | failed (f : Fault) (w : World φ ν)
  | unfinished

/-- The elements that something yields, in order, and how they end. -/
structure Resolution (φ ν : Type) where
  items : List Element
  ending : Ending φ ν

namespace Resolution

def nothing (w : World φ ν) : Resolution φ ν := ⟨[], .ended w⟩

def failing (f : Fault) (w : World φ ν) : Resolution φ ν := ⟨[], .failed f w⟩

def unfinished : Resolution φ ν := ⟨[], .unfinished⟩

/-- One element, which the consumer receives. -/
def one (c : Consumer φ ν) (e : Element) (w : World φ ν) : Resolution φ ν :=
  ⟨[e], .ended (c.receives e w)⟩

/-- What comes next starts from the world that is left, unless there was a failure. -/
def andThen (r : Resolution φ ν) (next : World φ ν → Resolution φ ν) : Resolution φ ν :=
  match r.ending with
  | .ended w => ⟨r.items ++ (next w).items, (next w).ending⟩
  | _ => r

/-- Several parts, one after another. -/
def inOrder : List (World φ ν → Resolution φ ν) → World φ ν → Resolution φ ν
  | [], w => nothing w
  | part :: parts, w => (part w).andThen (inOrder parts)

/-- What is handed out: the elements, and a failure after them if they end with one. -/
def handedOut (r : Resolution φ ν) : List (Except Fault Element) :=
  r.items.map .ok ++
    match r.ending with
    | .failed f _ => [.error f]
    | _ => []

theorem andThen_nothing (r : Resolution φ ν) : r.andThen nothing = r := by
  obtain ⟨items, ending⟩ := r
  cases ending with
  | ended w => simp [andThen, nothing]
  | failed f w => rfl
  | unfinished => rfl

theorem andThen_assoc (r : Resolution φ ν) (next last : World φ ν → Resolution φ ν) :
    (r.andThen next).andThen last = r.andThen fun w => (next w).andThen last := by
  obtain ⟨items, ending⟩ := r
  cases ending with
  | ended w =>
      simp only [andThen]
      obtain ⟨later, ending⟩ := next w
      cases ending with
      | ended w' => simp
      | failed f w' => rfl
      | unfinished => rfl
  | failed f w => rfl
  | unfinished => rfl

end Resolution

open Resolution

/-! ## Outside sources -/

/-- The signals of a stream. -/
def resolveFeed (c : Consumer φ ν) : Feed Element → World φ ν → Resolution φ ν
  | [], w => nothing w
  | .item e :: more, w => (one c e w).andThen (resolveFeed c more)
  | .failed f :: _, w => failing f w
  | .pending :: more, w => resolveFeed c more (c.waits w)

/-- The text that a generation newly says, if there is any. -/
def freshPart (c : Consumer φ ν) (props : Props) (fresh : Option String) (w : World φ ν) :
    Resolution φ ν :=
  match fresh with
  | some s => one c (saidElement props.context.role s) w
  | none => nothing w

/-- What a generation says over the signals of its completion. -/
def resolveGeneration (c : Consumer φ ν) (props : Props) (g : Generation) (signals : Feed Delta)
    (w : World φ ν) : Resolution φ ν :=
  if g.done then nothing w
  else match signals with
    | [] =>
        let (fresh, g) := g.close
        freshPart c props fresh (heardDelta fresh g props w)
    | .item d :: more =>
        let (fresh, g) := g.absorb d
        (freshPart c props fresh (heardDelta fresh g props w)).andThen
          (resolveGeneration c props g more)
    | .failed f :: _ => failing f w
    | .pending :: more => resolveGeneration c props g more (c.waits w)

/-- The item that a wait is for, once it is there. -/
def resolveWait (c : Consumer φ ν) (key : String) (props : Props) :
    Nat → Option Nat → World φ ν → Resolution φ ν
  | 0, _, _ => unfinished
  | fuel + 1, index, w =>
      let i := waitIndex w props index
      match w.scene.state.item? key i with
      | some item =>
          one c ⟨itemText item, .parameter, props.context.role⟩
            ((w.record props.context.outputAddress key (.text (itemText item))).emit
              (.itemConsumed key i))
      | none => resolveWait c key props fuel (some i) (c.waits (w.awaiting key props index))

/-- What becomes of a future of its own, once it has brought its result. -/
def resolveFresh (host : Host φ ν) (c : Consumer φ ν)
    (result : Except Fault (Input φ) → World φ ν → Resolution φ ν) (future : φ) :
    Nat → Nat → World φ ν → Resolution φ ν
  | 0, _, _ => unfinished
  | fuel + 1, polls, w =>
      let (outcome, ws) := host.poll future polls w.scene
      match outcome with
      | some arrived => result arrived (w.writeAll ws)
      | none => resolveFresh host c result future fuel (polls + 1) (c.waits (w.writeAll ws))

/-- The same for a future that is shared: whoever polls it leaves its state to all. -/
def resolveShared (host : Host φ ν) (c : Consumer φ ν)
    (result : Except Fault (Input φ) → World φ ν → Resolution φ ν) (cell : Nat) :
    Nat → World φ ν → Resolution φ ν
  | 0, _ => unfinished
  | fuel + 1, w =>
      match w.futures[cell]? with
      | none => nothing w
      | some (.resolved arrived) => result arrived w
      | some (.unresolved future polls) =>
          let (outcome, ws) := host.poll future polls w.scene
          let w := w.writeAll ws
          match outcome with
          | some arrived =>
              result arrived { w with futures := w.futures.set cell (.resolved arrived) }
          | none =>
              let futures := w.futures.set cell (.unresolved future (polls + 1))
              resolveShared host c result cell fuel (c.waits { w with futures := futures })

/-! ## Actions -/

/-- How inputs are resolved, with the source that a plain value gets. -/
abbrev Resolver (φ ν : Type) := Input φ → Props → Source → World φ ν → Resolution φ ν

section Actions

variable (host : Host φ ν) (c : Consumer φ ν) (again : Resolver φ ν)

/-- A literal of a template; an empty one is skipped. -/
def literalPart (props : Props) (literal : Option String) (w : World φ ν) : Resolution φ ν :=
  match literal with
  | some s =>
      if s.isEmpty then nothing w else one c (Element.stored ⟨s, .prompt, props.context.role⟩) w
  | none => nothing w

/-- A slot of a template, resolved with the literal that follows it. -/
def slotPart (props : Props) (slot : Option (Input φ)) (next : Option String) (w : World φ ν) :
    Resolution φ ν :=
  match slot with
  | some i => again i { props with nextLiteral := next } .constant w
  | none => nothing w

/-- A position of a template: its literal, then its slot. -/
def templatePart (props : Props) (literals : List String) (slots : List (Slot φ)) (i : Nat)
    (w : World φ ν) : Resolution φ ν :=
  (literalPart c props literals[i]? w).andThen
    (slotPart again props slots[i]?.join literals[i + 1]?)

/-- A template: its positions in order, as long as there are literals or slots. -/
def resolveTemplate (props : Props) (literals : List String) (slots : List (Slot φ)) :
    World φ ν → Resolution φ ν :=
  inOrder ((List.range (max literals.length slots.length)).map
    (templatePart c again props literals slots))

/-- The body of an iteration, in the context of that iteration. -/
def iterationPart (props : Props) (id : String) (i : Nat) (body : Input φ) :
    World φ ν → Resolution φ ν :=
  again body (iterationProps props id i) .constant

/-- The iterations of a loop from `i` on. -/
def resolveLoop (props : Props) (id : String) (body : Input φ) (options : LoopOptions φ) :
    Nat → Nat → World φ ν → Resolution φ ν
  | 0, _, _ => unfinished
  | fuel + 1, i, w =>
      match loopEnds host props options i w with
      | (true, w) => nothing (leaveLoop w id i)
      | (false, w) =>
          (iterationPart again props id i body (enterIteration w id i)).andThen
            (resolveLoop props id body options fuel (i + 1))

/-- An iteration of a map, whose body is asked for when it starts. -/
def mapPart (props : Props) (id : String) (item : φ) (i : Nat) (w : World φ ν) :
    Resolution φ ν :=
  let w := enterIteration w id i
  let (body, ws) := host.item item i w.scene
  iterationPart again props id i body (w.writeAll ws)

/-- What an action yields in its place. -/
def resolveAction (fuel : Nat) (a : Action φ) (props : Props) (w : World φ ν) : Resolution φ ν :=
  match a with
  | .template scope literals slots =>
      resolveTemplate c again (props.fork (scope props.context)) literals slots w
  | .generate name options =>
      let (completion, w) := askConnector name options props w
      resolveGeneration c props (freshGeneration name options props) completion w
  | .loop id body options => resolveLoop host again props id body options fuel 0 w
  | .map id count item =>
      (inOrder ((List.range count).map (mapPart host again props id item)) w).andThen
        fun w => nothing (leaveLoop w id count)
  | .wait key => resolveWait c key props fuel none w
  | .custom f =>
      let (work, ws) := host.perform f props w.scene
      let w := w.writeAll ws
      match work with
      | .resolve i props => again i props .constant w
      | .bind literals slots props => resolveTemplate c again props literals slots w
      | .emit signals => resolveFeed c signals w

/-! ## Inputs -/

/-- What becomes of an awaited value: it is a plain value, whoever awaited it. -/
def resolveArrived (props : Props) (arrived : Except Fault (Input φ)) (w : World φ ν) :
    Resolution φ ν :=
  match arrived with
  | .ok i => again i props .constant w
  | .error f => failing f w

/-- Resolves an input whose parts are resolved in a given way. -/
def resolveParts (fuel : Nat) : Resolver φ ν
  | .null, _, _, w => nothing w
  | .number x, props, source, w => one c ⟨formatNumber x, source, props.context.role⟩ w
  | .text s, props, source, w => one c ⟨s, source, props.context.role⟩ w
  | .function f, props, _, w =>
      let (produced, ws) := host.call f props w.scene
      again produced props .parameter (w.writeAll ws)
  | .deferred (.fresh future), props, _, w =>
      resolveFresh host c (resolveArrived again props) future fuel 0 w
  | .deferred (.shared cell), props, _, w =>
      resolveShared host c (resolveArrived again props) cell fuel w
  | .list items, props, _, w =>
      inOrder (items.zipIdx.map fun (i, index) =>
        again i { props with context := { props.context with
          leafId := props.context.leafId ++ [index] } } .constant) w
  | .stream cell, _, _, w =>
      match w.takeStream? cell with
      | some (signals, w) => resolveFeed c signals w
      | none => nothing w
  | .action a, props, _, w => resolveAction host c again fuel a props w

end Actions

/-- Resolves an input, with the source that a plain value gets. -/
def resolve (host : Host φ ν) (c : Consumer φ ν) : Nat → Resolver φ ν
  | 0 => fun _ _ _ _ => unfinished
  | fuel + 1 => resolveParts host c (resolve host c fuel) fuel

end PromptStream
