import PromptStream.Context
import PromptStream.Generation
import PromptStream.Json.Value
import PromptStream.Text.Literal

/-!
# Inputs and actions

An input is what an author may put into a slot of a template: plain values,
lists, functions, values that arrive later, streams of elements, and actions.
An action is a producer of elements that runs in a context of its own.

Author code (functions, futures, loop predicates) is named by codes of a type
`φ`.  What a code does is given by a host (`Engine.Host`), so inputs are plain
data.  Streams that can be consumed only once and futures that are shared
between slots are named by their cell in the world of the run.
-/

namespace PromptStream

/-! ## Props -/

/-- What a node sees of its place: its context, the parameters of the run, and
the literal that follows its slot. -/
structure Props where
  /-- The context. -/
  context : Context
  /-- The parameters of the run. -/
  params : Json := .null
  /-- The literal that follows the slot, if any. -/
  nextLiteral : Option String := none
  deriving Inhabited

namespace Props

/-- Props whose context has a patch laid over it. -/
def fork (p : Props) (patch : Patch) : Props := { p with context := p.context.fork patch }

/-- Props one level deeper, at a position. -/
def descend (p : Props) (index : Nat) : Props := { p with context := p.context.descend index }

/-- Props of a slot that is followed by a literal, or by none. -/
def withNextLiteral (p : Props) (next : Option String) : Props := { p with nextLiteral := next }

end Props

/-! ## Inputs -/

/-- A value that arrives later. -/
inductive Deferred (φ : Type) where
  /-- A future that several slots may await, by its cell. -/
  | shared (cell : Nat)
  /-- A future of its own. -/
  | fresh (future : φ)
  deriving DecidableEq, Repr

/-- When a loop ends. -/
structure LoopOptions (φ : Type) where
  /-- The most iterations, if there is a bound. -/
  maxIterations : Option Nat := none
  /-- The predicate that ends the loop after an iteration. -/
  until? : Option φ := none

mutual

/-- What an author may put into a slot. -/
inductive Input (φ : Type) where
  /-- Nothing. -/
  | null
  /-- A number. -/
  | number (x : Binary)
  /-- A text. -/
  | text (s : String)
  /-- A stream of elements, by its cell. -/
  | stream (cell : Nat)
  /-- A function of the props. -/
  | function (f : φ)
  /-- A value that arrives later. -/
  | deferred (d : Deferred φ)
  /-- An action. -/
  | action (a : Action φ)
  /-- Several inputs in order. -/
  | list (items : List (Input φ))

/-- A producer of elements. -/
inductive Action (φ : Type) where
  /-- A template in a context of its own.  A slot may be absent. -/
  | template (scope : Context → Patch) (literals : List String) (slots : List (Option (Input φ)))
  /-- A model generation. -/
  | generate (name : String) (options : GenerationOptions)
  /-- A body that is repeated. -/
  | loop (id : String) (body : Input φ) (options : LoopOptions φ)
  /-- A function of the position, for a number of positions. -/
  | map (id : String) (count : Nat) (item : φ)
  /-- A wait for a queue item. -/
  | wait (key : String)
  /-- Author code. -/
  | custom (f : φ)

end

namespace Input

variable {φ : Type}

instance : Inhabited (Input φ) := ⟨.null⟩

/-- The input that holds a natural number. -/
def ofNat (n : Nat) : Input φ := .number (BinaryFormat.double.ofNat n)

/-- The name of the shape of an input. -/
def kind : Input φ → String
  | .null => "null"
  | .number _ => "number"
  | .text _ => "text"
  | .stream _ => "stream"
  | .function _ => "function"
  | .deferred _ => "deferred"
  | .action _ => "action"
  | .list _ => "list"

end Input

/-- A slot of a template: an input, or none at all.  An absent slot is skipped,
while a slot that holds `null` is resolved to nothing. -/
abbrev Slot (φ : Type) := Option (Input φ)

/-! ## Scopes -/

/-- What a scope lays over the context it is entered with. -/
abbrev Scope := Context → Patch

namespace Scope

variable {φ : Type}

/-- The scope of a speaking role. -/
def ofRole (role : Role) : Scope := fun _ => Patch.ofRole role

/-- The scope that groups results under a name. -/
def block (name : String) : Scope := fun c => { outputAddress := some (c.addressWith [name]) }

/-- A template in a scope.  Its literals are normalized once, here. -/
def template (scope : Scope) (literals : List String) (slots : List (Slot φ)) : Action φ :=
  .template scope (literals.map normalizeLiteral) slots

/-- A template made of one literal. -/
def text (scope : Scope) (literal : String) : Action φ := template scope [literal] []

/-- A scope around one slot, without text of its own. -/
def wrap (scope : Scope) (slot : Slot φ) : Action φ := template scope [] [slot]

end Scope

namespace Action

variable {φ : Type}

/-- A turn of the assistant that holds one generation. -/
def ai (name : String) (options : GenerationOptions) : Action φ :=
  (Scope.ofRole .assistant).wrap (some (.action (.generate name options)))

end Action

end PromptStream
