import PromptStream.Proofs.Engine.Reaching
import PromptStream.Proofs.Generation.Room
import PromptStream.Proofs.Outputs.IterationLists

/-!
# Loops in one another

A nest is made of loops and maps in one another, with a generation within some blocks as the
innermost body (`Nest`).  Each iteration at each level opens a subtree of its own in the
outputs (`Outputs.Opens`), and the generation of every innermost iteration gets the next reply
of its connector.  So the run of a nest leaves the reply of each iteration at the path of
that iteration, and lists that are as long as their loops ran (`nested_loops_outputs`).

A list comes to be with the first result that is recorded below it.  So if a loop at some
level runs for no iteration at all, no result is recorded, and the loops around it leave no
lists either (`no_list_around_empty_loop`).
-/

namespace PromptStream

variable {φ ν : Type}

open Generation (AllFit gathered)
open Outputs (Opens InRange harvest harvests branch afterIterations iterationPath runs rank)

/-! ## Replies that are available -/

/-- A connector answers the next requests, whatever they are, with some feeds. -/
def Connector.Serves : Connector → List (Feed Delta) → Prop
  | _, [] => True
  | c, feed :: later => ∀ request,
      (c.complete request).1 = feed ∧ Connector.Serves (c.complete request).2 later

/-- A scripted connector answers with its replies. -/
theorem Connector.serves_replies (c : Connector) {replies : List (List Delta)}
    (script : c.script = .replies replies) : c.Serves (replies.map (List.map .item)) := by
  induction replies generalizing c with
  | nil => trivial
  | cons reply replies ih =>
      intro request
      have answered : c.complete request
          = (reply.map .item, { c with
              requests := c.requests ++ [request], script := .replies replies }) := by
        simp [Connector.complete, script]
      rw [answered]
      exact ⟨rfl, ih _ rfl⟩

/-- A connector of a world answers the next requests with some feeds. -/
def World.Serves (w : World φ ν) (ref : ConnectorRef) (feeds : List (Feed Delta)) : Prop :=
  ∃ c, w.connectors[ref.index]? = some c ∧ c.Serves feeds

/-- A generation is given the next feed. -/
theorem World.Serves.asked {w : World φ ν} {feed : Feed Delta} {later : List (Feed Delta)}
    {props : Props} (h : w.Serves props.context.llm.completion (feed :: later)) (name : String)
    (options : GenerationOptions) :
    completionOf name options props w = feed ∧
      (askConnector name options props w).2.Serves props.context.llm.completion later := by
  obtain ⟨c, found, serves⟩ := h
  obtain ⟨given, left⟩ := askConnector_of_connector name options found
  exact ⟨given.trans (serves _).1, _, left, (serves _).2⟩

/-! ## Nests -/

/-- An input within some blocks, the outermost first. -/
def inBlocks (inner : Input φ) : List String → Input φ
  | [] => inner
  | block :: blocks => .action ((Scope.block block).wrap (some (inBlocks inner blocks)))

/-- Nothing was recorded or requested in between. -/
structure World.SameResults (w w' : World φ ν) : Prop where
  outputs : w'.scene.outputs = w.scene.outputs
  connectors : w'.connectors = w.connectors

/-- Loops and maps in one another, with their ids and the number of their iterations,
outermost first.  Their author code may write, but it records no result. -/
inductive Nest (host : Host φ ν) (occurs : Frame φ → World φ ν → Prop) (inner : Input φ) :
    List (String × Nat) → Input φ → Prop where
  | inner : Nest host occurs inner [] inner
  | level {id : String} {n : Nat} {levels : List (String × Nat)} {body : Input φ}
      {a : Action φ} : Repeats host occurs World.SameResults id n body a →
      Nest host occurs inner levels body →
      Nest host occurs inner ((id, n) :: levels) (.action a)

section Nests

variable {host : Host φ ν} {start : Run φ ν} {name : String} {options : GenerationOptions}
  {blocks : List String} {llm : LlmContext} {feeds : List (Feed Delta)}

/-- The innermost body takes the next feed and records what it brings. -/
theorem brings_inBlocks (free : options.stop = none) {props : Props} {address : List String}
    (stands : props.Stands address llm) {w : World φ ν} {feed : Feed Delta}
    {later : List (Feed Delta)} (serves : w.Serves llm.completion (feed :: later))
    (healthy : ∀ f, .failed f ∉ feed) :
    Brings host start (inBlocks (.action (.generate name options)) blocks) props w
      fun _ w' => w'.Serves llm.completion later ∧
        w'.scene.outputs
          = w.scene.outputs.insertAt (address ++ blocks) name (.ofTexts (gathered feed)) := by
  induction blocks generalizing props address with
  | nil =>
      rw [← stands.llm] at serves
      obtain ⟨given, left⟩ := serves.asked name options
      refine (Brings.generate (stands.unstopped free) (given ▸ healthy)).mono
        fun items w' generated => ⟨?_, ?_⟩
      · rw [World.Serves, generated.connectors, ← stands.llm]
        exact left
      · rw [generated.outputs, given, stands.address, List.append_nil]
  | cons block blocks ih =>
      refine Brings.wrap ((ih (stands.block block)).mono fun items w' recorded => ?_)
      rwa [List.append_assoc] at recorded

/-- What the run of the innermost body leaves that takes the feed at a position. -/
def recordedAt (feeds : List (Feed Delta)) (name : String) (blocks : List String) (k : Nat) :
    Outputs :=
  branch name (.ofTexts (gathered (feeds.getD k []))) blocks

/-- The world of a loop in a nest after some iterations: what they have recorded has been
added to the outputs, and the feeds after theirs are left. -/
structure LoopAfter (llm : LlmContext) (feeds : List (Feed Delta)) (name : String)
    (blocks : List String) (levels : List (String × Nat)) (o : Outputs)
    (fill : Outputs → Outputs) (id : String) (k i : Nat) (w : World φ ν) : Prop where
  serves : w.Serves llm.completion (feeds.drop (k + i * runs levels))
  outputs : w.scene.outputs
    = afterIterations o fill id (harvests (recordedAt feeds name blocks) levels k i)

namespace LoopAfter

variable {levels : List (String × Nat)} {o : Outputs} {fill : Outputs → Outputs} {id : String}
  {k i : Nat} {w w' : World φ ν}

theorem begins (serves : w.Serves llm.completion (feeds.drop k)) :
    LoopAfter llm feeds name blocks levels w.scene.outputs fill id k 0 w where
  serves := by
    rw [Nat.zero_mul, Nat.add_zero]
    exact serves
  outputs := rfl

theorem of_same (h : LoopAfter llm feeds name blocks levels o fill id k i w)
    (same : World.SameResults w w') :
    LoopAfter llm feeds name blocks levels o fill id k i w' where
  serves := by
    rw [World.Serves, same.connectors]
    exact h.serves
  outputs := same.outputs.trans h.outputs

/-- The next iteration opens its own subtree. -/
theorem opens {address : List String} (around : Opens o address fill)
    (h : LoopAfter llm feeds name blocks levels o fill id k i w) (short : i < indexBound) :
    Opens w.scene.outputs (address ++ [id, toString i]) fun s =>
      fill [(id, .nestedList (harvests (recordedAt feeds name blocks) levels k i ++ [s]))] := by
  have next := around.iteration id (harvests (recordedAt feeds name blocks) levels k i)
    (by rwa [Outputs.length_harvests])
  rwa [Outputs.length_harvests, ← h.outputs] at next

/-- After it, the loop is one iteration further. -/
theorem next (serves : w.Serves llm.completion (feeds.drop (k + i * runs levels + runs levels)))
    (outputs : w.scene.outputs
      = fill [(id, .nestedList (harvests (recordedAt feeds name blocks) levels k i
        ++ [harvest (recordedAt feeds name blocks) levels (k + i * runs levels)]))]) :
    LoopAfter llm feeds name blocks levels o fill id k (i + 1) w where
  serves := by
    rw [Nat.succ_mul, ← Nat.add_assoc]
    exact serves
  outputs := by
    rw [outputs, Outputs.afterIterations_of_ne_nil (Outputs.harvests_ne_nil (Nat.succ_pos i)),
      Outputs.harvests_succ]

end LoopAfter

/-- A nest in which every loop runs at least once leaves what its innermost runs record. -/
theorem Nest.brings {levels : List (String × Nat)} {input : Input φ}
    (nest : Nest host (Occurs host start) (inBlocks (.action (.generate name options)) blocks)
      levels input)
    (free : options.stop = none) (plain : ∀ block ∈ blocks, readIndex? block = none)
    (healthy : ∀ feed ∈ feeds, ∀ f, .failed f ∉ feed)
    (short : ∀ level ∈ levels, level.2 ≤ indexBound) (positive : ∀ level ∈ levels, 0 < level.2)
    {props : Props} {address : List String} (stands : props.Stands address llm) {w : World φ ν}
    {fill : Outputs → Outputs} (opens : Opens w.scene.outputs address fill) {k : Nat}
    (serves : w.Serves llm.completion (feeds.drop k)) (enough : k + runs levels ≤ feeds.length) :
    Brings host start input props w fun _ w' =>
      w'.Serves llm.completion (feeds.drop (k + runs levels)) ∧
      w'.scene.outputs = fill (harvest (recordedAt feeds name blocks) levels k) := by
  induction nest generalizing props address w fill k with
  | inner =>
      have there : k < feeds.length := enough
      have next : feeds.drop k = feeds.getD k [] :: feeds.drop (k + 1) := by
        rw [List.drop_eq_getElem_cons there, List.getD_eq_getElem?_getD,
          List.getElem?_eq_getElem there]
        rfl
      have served : feeds.getD k [] ∈ feeds := by
        rw [List.getD_eq_getElem?_getD, List.getElem?_eq_getElem there]
        exact List.getElem_mem there
      rw [next] at serves
      refine (brings_inBlocks free stands serves (healthy _ served)).mono fun _ w' h => ⟨h.1, ?_⟩
      rw [h.2, Outputs.insertAt, opens.first, Outputs.modifyAt_blocks name _ plain]
      rfl
  | @level id n levels body a repeats nest ih =>
      have counted : runs ((id, n) :: levels) = n * runs levels := rfl
      rw [counted] at enough ⊢
      refine (repeats.brings
        (fun i _ => LoopAfter llm feeds name blocks levels w.scene.outputs fill id k i)
        (fun _ => ⟨rfl, rfl⟩) (fun _ _ _ _ same now => now.of_same same) (.begins serves)
        fun i items before w' lt now same => ?_).mono ?_
      · have now : LoopAfter llm feeds name blocks levels w.scene.outputs fill id k i w' :=
          LoopAfter.of_same (w := enterIteration before id i) ⟨now.serves, now.outputs⟩ same
        have reach : k + i * runs levels + runs levels ≤ feeds.length := by
          have upTo : (i + 1) * runs levels ≤ n * runs levels := Nat.mul_le_mul_right _ lt
          rw [Nat.succ_mul] at upTo
          omega
        have small : i < indexBound := Nat.lt_of_lt_of_le lt (short (id, n) List.mem_cons_self)
        exact (ih (fun level mem => short level (List.mem_cons_of_mem _ mem))
          (fun level mem => positive level (List.mem_cons_of_mem _ mem)) (stands.iteration id i)
          (now.opens opens small) now.serves reach).mono fun _ _ left => .next left.1 left.2
      · rintro items w' ⟨last, ended, rfl⟩
        refine ⟨ended.serves, ended.outputs.trans ?_⟩
        have ran := positive (id, n) List.mem_cons_self
        rw [Outputs.afterIterations_of_ne_nil (Outputs.harvests_ne_nil ran), Outputs.harvest_cons]

/-- A nest in which some loop does not run at all records nothing. -/
theorem Nest.brings_nothing {inner : Input φ} {levels : List (String × Nat)} {input : Input φ}
    (nest : Nest host (Occurs host start) inner levels input)
    (empty : ∃ level ∈ levels, level.2 = 0) (props : Props) (w : World φ ν) :
    Brings host start input props w fun _ w' => w'.scene.outputs = w.scene.outputs := by
  induction nest generalizing props w with
  | inner =>
      obtain ⟨level, mem, -⟩ := empty
      cases mem
  | @level id n levels body a repeats nest ih =>
      refine (repeats.brings (fun _ _ w' => w'.scene.outputs = w.scene.outputs)
        (fun _ => ⟨rfl, rfl⟩) (fun _ _ _ _ same outputs => same.outputs.trans outputs) rfl
        fun i items before w' lt outputs same => ?_).mono ?_
      · obtain ⟨level, mem, none⟩ := empty
        rcases List.mem_cons.1 mem with rfl | mem
        · have zero : n = 0 := none
          exact absurd lt (by omega)
        · exact (ih ⟨level, mem, none⟩ _ _).mono fun _ _ left =>
            left.trans (same.outputs.trans outputs)
      · rintro items w' ⟨last, outputs, rfl⟩
        exact outputs

end Nests

theorem Outputs.rank_lt_runs {levels : List (String × Nat)} {js : List Nat}
    (inRange : InRange levels js) : rank levels js < runs levels := by
  induction inRange with
  | nil => exact Nat.one_pos
  | @cons level j levels js lt _ ih =>
      have upTo : (j + 1) * runs levels ≤ level.2 * runs levels := Nat.mul_le_mul_right _ lt
      rw [Nat.succ_mul] at upTo
      change j * runs levels + rank levels js < level.2 * runs levels
      omega

/-! ## What a nest records -/

/-- The outputs of a nest: the reply of each iteration at the path of that iteration, and
lists that are as long as their loops ran. -/
structure Outputs.HoldsRuns (o : Outputs) (levels : List (String × Nat)) (path : List String)
    (feeds : List (Feed Delta)) : Prop where
  reply : ∀ js, InRange levels js → ∃ feed, feeds[rank levels js]? = some feed ∧
    o.lookup? (iterationPath levels js ++ path) = some (.ofTexts (gathered feed))
  list : ∀ outer id n inner js, levels = outer ++ (id, n) :: inner → InRange outer js →
    ∃ items, o.lookup? (iterationPath outer js ++ [id]) = some (.nestedList items) ∧
      items.length = n

theorem holdsRuns_harvest {levels : List (String × Nat)} {name : String} {blocks : List String}
    {feeds : List (Feed Delta)} (short : ∀ level ∈ levels, level.2 ≤ indexBound)
    (enough : runs levels ≤ feeds.length) :
    (harvest (recordedAt feeds name blocks) levels 0).HoldsRuns levels (blocks ++ [name])
      feeds where
  reply := by
    intro js inRange
    have there : rank levels js < feeds.length :=
      Nat.lt_of_lt_of_le (Outputs.rank_lt_runs inRange) enough
    refine ⟨feeds[rank levels js], List.getElem?_eq_getElem there, ?_⟩
    rw [Outputs.lookup?_harvest short inRange, Nat.zero_add, recordedAt, Outputs.lookup?_branch,
      List.getD_eq_getElem?_getD, List.getElem?_eq_getElem there]
    rfl
  list _ _ _ _ _ same inRange := Outputs.list_harvest short same inRange 0

section

variable {host : Host φ ν} {llm : Llm} {params : Json} {w : World φ ν} {input : Input φ}
  {levels : List (String × Nat)} {name : String} {options : GenerationOptions}
  {blocks : List String} {feeds : List (Feed Delta)}

/-- The run of a nest whose replies are available does not fail.  If no choice in a reply has
the largest number of all, there is room for every choice, and the run comes to its end.  If every
loop runs at least once, it leaves the reply of each iteration at the path of that iteration, and
at every level a list with one entry for each iteration of its loop.  If some loop does not run at
all, it leaves nothing. -/
theorem nested_loops_outputs
    (nest : Nest host (Occurs host (Run.start llm input params w))
      (inBlocks (.action (.generate name options)) blocks) levels input)
    (fresh : w.scene.outputs = []) (free : options.stop = none)
    (plain : ∀ block ∈ blocks, readIndex? block = none)
    (short : ∀ level ∈ levels, level.2 ≤ indexBound) (serves : w.Serves llm.completion feeds)
    (healthy : ∀ feed ∈ feeds, ∀ f, .failed f ∉ feed) (enough : runs levels ≤ feeds.length) :
    ((∀ feed ∈ feeds, feed.Countable) →
      (∀ feed ∈ feeds, AllFit (.fresh name none) feed) ∧
      ∃ many, ∀ fuels : List Nat, (∀ fuel ∈ fuels, 0 < fuel) → many < fuels.length →
        .ended ∈ (Run.polls host fuels (Run.start llm input params w)).1) ∧
    ∀ fuels, .ended ∈ (Run.polls host fuels (Run.start llm input params w)).1 →
      let played := Run.polls host fuels (Run.start llm input params w)
      (∀ f, .failed f ∉ played.1) ∧
        ((∀ level ∈ levels, 0 < level.2) →
          played.2.world.scene.outputs.HoldsRuns levels (blocks ++ [name]) feeds) ∧
        ((∃ level ∈ levels, level.2 = 0) → played.2.world.scene.outputs = []) := by
  have brought : Brings host (Run.start llm input params w) input ⟨llm.context, params, none⟩ w
      fun _ w' => ((∀ level ∈ levels, 0 < level.2) →
          w'.scene.outputs.HoldsRuns levels (blocks ++ [name]) feeds) ∧
        ((∃ level ∈ levels, level.2 = 0) → w'.scene.outputs = []) := by
    by_cases positive : ∀ level ∈ levels, 0 < level.2
    · have stands : (⟨llm.context, params, none⟩ : Props).Stands [] ⟨llm.completion, llm.isChat⟩ :=
        ⟨rfl, rfl, rfl⟩
      have opens : Opens w.scene.outputs [] id := fresh ▸ Opens.root
      refine (nest.brings free plain healthy short positive stands opens (k := 0) serves
        (by omega)).mono fun _ w' left => ⟨fun _ => ?_, fun ⟨level, mem, zero⟩ => ?_⟩
      · rw [left.2]
        exact holdsRuns_harvest short enough
      · exact absurd zero (Nat.pos_iff_ne_zero.1 (positive level mem))
    · have empty : ∃ level ∈ levels, level.2 = 0 := by
        obtain ⟨level, notSome⟩ := not_forall.1 positive
        obtain ⟨mem, notPositive⟩ := Classical.not_imp.1 notSome
        exact ⟨level, mem, Nat.eq_zero_of_not_pos notPositive⟩
      exact (nest.brings_nothing empty _ w).mono fun _ w' same =>
        ⟨fun all => absurd all positive, fun _ => same.trans fresh⟩
  obtain ⟨items, w', left, ends, atEnd⟩ := brought.polls
  refine ⟨fun countable => ⟨fun feed mem => ?_, ends⟩, fun fuels ended => ?_⟩
  · exact Generation.allFit_of_countable name none (countable feed mem)
  · obtain ⟨spoken, world⟩ := atEnd fuels ended
    refine ⟨not_failed_of_handedOut spoken, ?_⟩
    rw [world]
    exact left

end

/-- A host whose maps give one body to every item. -/
def Host.mapping (body : Input Unit) : Host Unit ν where
  call _ _ _ := (.list [], [])
  poll _ _ _ := (.none, [])
  until? _ _ _ _ := (true, [])
  item _ _ _ := (body, [])
  perform _ _ _ := (.emit [], [])

/-- A loop around a map: the first iteration of the map in the second one of the loop gets
the third reply. -/
theorem nested_loops_outputs_of_loop_around_map :
    let generation : Input Unit := inBlocks (.action (.generate "answer" {})) ["part"]
    let input : Input Unit :=
      .action (.loop "outer" (.action (.map "inner" 2 ())) { maxIterations := some 2 })
    let w : World Unit Empty := { connectors := [.scripted
      [[⟨0, "a"⟩], [⟨0, "b"⟩], [⟨0, "c"⟩], [⟨0, "d"⟩]]] }
    ∃ fuels, .ended ∈ (Run.polls (.mapping generation) fuels (Run.start default input .null w)).1 ∧
      (Run.polls (.mapping generation) fuels
        (Run.start default input .null w)).2.world.scene.outputs.lookup?
          ["outer", "1", "inner", "0", "part", "answer"] = some (.text "c") := by
  intro generation input w
  have nest : Nest (.mapping generation)
      (Occurs (.mapping generation) (Run.start default input .null w)) generation
      [("outer", 2), ("inner", 2)] input :=
    .level ((Repeats.of_maxIterations _ _ _ 2 _).mono fun _ _ same => same ▸ ⟨rfl, rfl⟩)
      (.level (.map fun _ _ _ _ _ => ⟨rfl, rfl, rfl⟩) .inner)
  have serves : w.Serves (default : Llm).completion
      ([[⟨0, "a"⟩], [⟨0, "b"⟩], [⟨0, "c"⟩], [⟨0, "d"⟩]].map (List.map Signal.item)) :=
    ⟨_, rfl, Connector.serves_replies _ rfl⟩
  obtain ⟨comesToEnd, left⟩ := nested_loops_outputs nest rfl rfl (by decide) (by decide) serves
    (by simp) (by decide)
  obtain ⟨-, many, ends⟩ := comesToEnd (by decide)
  have ended := ends (List.replicate (many + 1) 1)
    (fun fuel mem => by rw [List.eq_of_mem_replicate mem]; decide) (by simp)
  refine ⟨_, ended, ?_⟩
  obtain ⟨feed, served, recorded⟩ := ((left _ ended).2.1 (by decide)).reply [1, 0]
    (.cons (by decide) (.cons (by decide) .nil))
  cases served
  exact recorded

/-- A loop around one that never runs leaves no list, although it ran an iteration. -/
theorem no_list_around_empty_loop :
    let empty : Input Empty := .action (.loop "inner" (.action (.generate "answer" {}))
      { maxIterations := some 0 })
    let input : Input Empty := .action (.loop "outer" empty { maxIterations := some 1 })
    let played := Run.polls .none (List.replicate 20 1)
      (Run.start default input .null ({} : World Empty Empty))
    .ended ∈ played.1 ∧
      .loopFinished "outer" 1 ∈ played.2.world.scene.events ∧
      played.2.world.scene.outputs.lookup? ["outer"] = none := by
  decide +kernel

end PromptStream
