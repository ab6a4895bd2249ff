import PromptStream.Proofs.Engine.Reports

/-!
# Paths of a tree

The way from the root of a tree to a node passes through places (`Place`): positions of
lists, role scopes, blocks, and iterations of loops.  They are all that a node can
learn of where it stands: a context is *at* a path (`Context.At`) if its position, its
address, its role and its loop are those that the path spells.

A tree unfolds as it is resolved.  `Tree.Has` says which inputs it may come to hold at
which paths: what a function returns or a future brings stands where the function or
the future stood, and so does what lies in a slot of a template, but for the place that
the scope of the template opens.
-/

namespace PromptStream

variable {φ ν : Type}

/-! ## Places and paths -/

/-- What is passed on the way to a node. -/
inductive Place where
  /-- A position of a list. -/
  | position (index : Nat)
  /-- A role scope. -/
  | role (r : Role)
  /-- A block. -/
  | block (name : String)
  /-- An iteration of a loop or a map. -/
  | iteration (id : String) (i : Nat)
  deriving DecidableEq, Repr

/-- The places on the way from the root to a node, outermost first. -/
abbrev Path := List Place

namespace Path

/-- The positions and iterations on a path, in order. -/
def positions (p : Path) : List Nat :=
  p.filterMap fun
    | .position index => some index
    | .iteration _ i => some i
    | _ => none

/-- The segments that blocks and iterations add to an address. -/
def segments (p : Path) : List String :=
  p.flatMap fun
    | .block name => [name]
    | .iteration id i => [id, toString i]
    | _ => []

/-- The innermost role on a path. -/
def role? (p : Path) : Option Role :=
  (p.filterMap fun
    | .role r => some r
    | _ => none).getLast?

/-- The innermost loop on a path. -/
def loop? (p : Path) : Option String :=
  (p.filterMap fun
    | .iteration id _ => some id
    | _ => none).getLast?

end Path

/-! ## Contexts at a path -/

/-- A context is the one that belongs to a path from a root. -/
structure Context.At (root : Context) (p : Path) (c : Context) : Prop where
  /-- The position is that of the root, followed by those on the path. -/
  leafId : c.leafId = root.leafId ++ Path.positions p
  /-- The address is that of the root, followed by the segments on the path. -/
  outputAddress : c.outputAddress = root.outputAddress ++ Path.segments p
  /-- The role is the innermost one, or else that of the root. -/
  role : c.role = (Path.role? p).getD root.role
  /-- The loop is the innermost one, or else that of the root. -/
  loopId : c.loopId = (Path.loop? p).or root.loopId

/-- A scope opens a place, or it leaves role, loop, address and position alone. -/
inductive Scope.Opens : Scope → Option Place → Prop where
  | role (r : Role) : Scope.Opens (Scope.ofRole r) (some (.role r))
  | block (name : String) : Scope.Opens (Scope.block name) (some (.block name))
  | settings {scope : Scope} :
      (∀ c, (scope c).role = none ∧ (scope c).loopId = none ∧ (scope c).outputAddress = none ∧
        (scope c).leafId = none) → Scope.Opens scope none

namespace Context.At

variable {root c : Context} {p : Path}

theorem start (root : Context) : root.At [] root :=
  ⟨(List.append_nil _).symm, (List.append_nil _).symm, rfl, rfl⟩

theorem descend (h : root.At p c) (index : Nat) :
    root.At (p ++ [.position index]) (c.descend index) := by
  refine ⟨?_, ?_, ?_, ?_⟩
  · simp [Context.descend, h.leafId, Path.positions]
  · simp [Context.descend, h.outputAddress, Path.segments]
  · simp [Context.descend, h.role, Path.role?]
  · simp [Context.descend, h.loopId, Path.loop?]

theorem iteration (h : root.At p c) (id : String) (i : Nat) :
    root.At (p ++ [.iteration id i]) ((c.fork (Patch.iteration c id i)).descend i) := by
  refine ⟨?_, ?_, ?_, ?_⟩
  · simp [Context.descend, Context.fork, Patch.iteration, h.leafId, Path.positions]
  · simp [Context.descend, Context.fork, Patch.iteration, Context.addressWith, h.outputAddress,
      Path.segments]
  · simp [Context.descend, Context.fork, Patch.iteration, h.role, Path.role?]
  · simp [Context.descend, Context.fork, Patch.iteration, Path.loop?]

/-- Entering a scope. -/
theorem enter (h : root.At p c) {scope : Scope} {place : Option Place}
    (opens : scope.Opens place) : root.At (p ++ place.toList) (c.fork (scope c)) := by
  cases opens with
  | role r =>
      refine ⟨?_, ?_, ?_, ?_⟩
      · simp [Context.fork, Scope.ofRole, Patch.ofRole, h.leafId, Path.positions]
      · simp [Context.fork, Scope.ofRole, Patch.ofRole, h.outputAddress, Path.segments]
      · simp [Context.fork, Scope.ofRole, Patch.ofRole, Path.role?]
      · simp [Context.fork, Scope.ofRole, Patch.ofRole, h.loopId, Path.loop?]
  | block name =>
      refine ⟨?_, ?_, ?_, ?_⟩
      · simp [Context.fork, Scope.block, h.leafId, Path.positions]
      · simp [Context.fork, Scope.block, Context.addressWith, h.outputAddress, Path.segments]
      · simp [Context.fork, Scope.block, h.role, Path.role?]
      · simp [Context.fork, Scope.block, h.loopId, Path.loop?]
  | settings untouched =>
      obtain ⟨role, loopId, outputAddress, leafId⟩ := untouched c
      rw [Option.toList_none, List.append_nil]
      refine ⟨?_, ?_, ?_, ?_⟩
      · rw [Context.fork, leafId]; exact h.leafId
      · rw [Context.fork, outputAddress]; exact h.outputAddress
      · rw [Context.fork, role]; exact h.role
      · rw [Context.fork, loopId]; exact h.loopId

end Context.At

/-! ## What a tree holds -/

/-- A tree to be resolved: the input at its root, and what it is resolved with. -/
structure Tree (φ ν : Type) where
  /-- The meaning of author code. -/
  host : Host φ ν
  /-- The input at the root. -/
  input : Input φ
  /-- The props of the root. -/
  props : Props
  /-- The world in which it is resolved. -/
  world : World φ ν

namespace Tree

variable (t : Tree φ ν)

/-- The run of a tree that has not done anything yet. -/
def run : Run φ ν := ⟨Frame.guarded t.input t.props, t.world⟩

/-- What a shared future may bring. -/
def Brings (cell : Nat) (result : Except Fault (Input φ)) : Prop :=
  t.world.futures[cell]? = some (.resolved result) ∨
    ∃ (future : φ) (before polls : Nat) (s : Scene ν),
      t.world.futures[cell]? = some (.unresolved future before) ∧
        (t.host.poll future polls s).1 = some result

/-- The inputs that a tree may come to hold at its paths. -/
inductive Has : Path → Input φ → Prop where
  | root : Has [] t.input
  | item {p : Path} {items : List (Input φ)} {index : Nat} {i : Input φ} :
      Has p (.list items) → items[index]? = some i → Has (p ++ [.position index]) i
  | slot {p : Path} {scope : Scope} {place : Option Place} {literals : List String}
      {slots : List (Slot φ)} {index : Nat} {i : Input φ} :
      Has p (.action (.template scope literals slots)) → Scope.Opens scope place →
      slots[index]? = some (some i) → Has (p ++ place.toList) i
  | body {p : Path} {id : String} {body : Input φ} {options : LoopOptions φ} (i : Nat) :
      Has p (.action (.loop id body options)) → Has (p ++ [.iteration id i]) body
  | mapped {p : Path} {id : String} {count : Nat} {item : φ} {i : Nat} (s : Scene ν) :
      Has p (.action (.map id count item)) → i < count →
      Has (p ++ [.iteration id i]) (t.host.item item i s).1
  | returned {p : Path} {f : φ} (props : Props) (s : Scene ν) :
      Has p (.function f) → t.props.context.At p props.context → Has p (t.host.call f props s).1
  | brought {p : Path} {future : φ} {i : Input φ} (polls : Nat) (s : Scene ν) :
      Has p (.deferred (.fresh future)) → (t.host.poll future polls s).1 = some (.ok i) → Has p i
  | shared {p : Path} {cell : Nat} {i : Input φ} :
      Has p (.deferred (.shared cell)) → t.Brings cell (.ok i) → Has p i

/-- Every template of a tree has a scope that opens at most one place, and no action of
a tree is author code that makes contexts of its own. -/
structure Regular : Prop where
  scope : ∀ {p : Path} {scope : Scope} {literals : List String} {slots : List (Slot φ)},
    t.Has p (.action (.template scope literals slots)) → ∃ place, Scope.Opens scope place
  action : ∀ {p : Path} {f : φ}, ¬ t.Has p (.action (.custom f))

end Tree

/-! ## Regular trees -/

/-- An input that is made of lists, templates in role scopes and blocks, loops and the
like. -/
inductive Input.Regular : Input φ → Prop where
  | null : Input.Regular .null
  | number (x : Binary) : Input.Regular (.number x)
  | text (s : String) : Input.Regular (.text s)
  | stream (cell : Nat) : Input.Regular (.stream cell)
  | function (f : φ) : Input.Regular (.function f)
  | deferred (d : Deferred φ) : Input.Regular (.deferred d)
  | list {items : List (Input φ)} : (∀ i ∈ items, Input.Regular i) → Input.Regular (.list items)
  | template {scope : Scope} {place : Option Place} {literals : List String}
      {slots : List (Slot φ)} : Scope.Opens scope place →
      (∀ i, some i ∈ slots → Input.Regular i) →
      Input.Regular (.action (.template scope literals slots))
  | generate (name : String) (options : GenerationOptions) :
      Input.Regular (.action (.generate name options))
  | loop {id : String} {body : Input φ} {options : LoopOptions φ} :
      Input.Regular body → Input.Regular (.action (.loop id body options))
  | map (id : String) (count : Nat) (item : φ) : Input.Regular (.action (.map id count item))
  | wait (key : String) : Input.Regular (.action (.wait key))

/-- A tree is regular if its input is, and all that author code may add to it. -/
theorem Tree.regular_of_inputs {t : Tree φ ν} (input : t.input.Regular)
    (calls : ∀ f props s, (t.host.call f props s).1.Regular)
    (items : ∀ item i s, (t.host.item item i s).1.Regular)
    (polls : ∀ future polls s i, (t.host.poll future polls s).1 = some (.ok i) → i.Regular)
    (futures : ∀ (cell : Nat) (i : Input φ),
      t.world.futures[cell]? = some (.resolved (.ok i)) → i.Regular) : t.Regular := by
  have held : ∀ {p i}, t.Has p i → i.Regular := by
    intro p i has
    induction has with
    | root => exact input
    | item _ found list =>
        cases list with
        | list regular => exact regular _ (List.mem_of_getElem? found)
    | slot _ _ found template =>
        cases template with
        | template _ regular => exact regular _ (List.mem_of_getElem? found)
    | body i _ loop =>
        cases loop with
        | loop regular => exact regular
    | mapped s _ _ _ => exact items _ _ s
    | returned props s _ _ _ => exact calls _ props s
    | brought n s _ arrived _ => exact polls _ n s _ arrived
    | shared _ brings _ =>
        rcases brings with there | ⟨future, before, n, s, -, arrived⟩
        · exact futures _ _ there
        · exact polls future n s _ arrived
  refine ⟨fun has => ?_, fun has => ?_⟩
  · cases held has with
    | template opens _ => exact ⟨_, opens⟩
  · cases held has

end PromptStream
