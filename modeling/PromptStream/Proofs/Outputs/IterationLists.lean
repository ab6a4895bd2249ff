import Mathlib.Data.List.Forall2
import PromptStream.Proofs.Outputs.Write
import PromptStream.Proofs.Text.Index

/-!
# Lists of iterations

An iteration records its results at a position of a list, and the iterations of a loop
come in order, so each position is at most one past the end of the list: the list grows by
one entry, and what is there is kept.  `Opens` says so of all the levels at once.  A write
below the address of an iteration acts on the subtree of that iteration, which is fresh at
first, and leaves everything around it as it is.

When every iteration of some nested loops has made its write, the outputs are `harvest`:
under each id a list with one entry for each iteration, and at the innermost level what was
written there.
-/

namespace PromptStream

namespace Outputs

open OutputValue (asNested asNestedList)

/-! ## Entries of a list -/

section Entry

variable (f : Outputs → Outputs) (id : String) {items : List Outputs} (more : List String)

/-- A write one past the end of a list adds an entry. -/
theorem modifyAt_next (short : items.length < indexBound) (o : Outputs)
    (there : asNestedList (o.find? id) = items) :
    (modifyAt f (id :: toString items.length :: more) o).1
      = o.insert id (.nestedList (items ++ [(modifyAt f more []).1])) := by
  have missing : items.getD items.length [] = [] := by simp
  have filled : padTo (items.length + 1) items = items ++ [[]] := by simp [padTo]
  rw [modifyAt_item f o id more (readIndex?_toString short) (by rw [there]; omega), there, missing,
    filled]
  simp

/-- A write at the last entry of a list changes that entry. -/
theorem modifyAt_last (short : items.length < indexBound) (o s : Outputs)
    (there : asNestedList (o.find? id) = items ++ [s]) :
    (modifyAt f (id :: toString items.length :: more) o).1
      = o.insert id (.nestedList (items ++ [(modifyAt f more s).1])) := by
  have found : (items ++ [s]).getD items.length [] = s := by simp
  have filled : padTo (items.length + 1) (items ++ [s]) = items ++ [s] := by simp [padTo]
  rw [modifyAt_item f o id more (readIndex?_toString short) (by rw [there]; simp; omega), there,
    found, filled]
  simp

end Entry

/-! ## Subtrees of iterations -/

/-- Writes below an address act on a subtree of the outputs, which is fresh at first;
`fill` puts a subtree there. -/
structure Opens (o : Outputs) (address : List String) (fill : Outputs → Outputs) : Prop where
  first : ∀ f more, (modifyAt f (address ++ more) o).1 = fill (modifyAt f more []).1
  later : ∀ f more s, (modifyAt f (address ++ more) (fill s)).1 = fill (modifyAt f more s).1

theorem Opens.root : Opens [] [] id := ⟨fun _ _ => rfl, fun _ _ _ => rfl⟩

/-- The outputs once some iterations of a loop have left their subtrees. -/
def afterIterations (o : Outputs) (fill : Outputs → Outputs) (id : String)
    (done : List Outputs) : Outputs :=
  if done = [] then o else fill [(id, .nestedList done)]

theorem afterIterations_of_ne_nil {o : Outputs} {fill : Outputs → Outputs} {id : String}
    {done : List Outputs} (ran : done ≠ []) :
    afterIterations o fill id done = fill [(id, .nestedList done)] := if_neg ran

theorem find?_singleton (id : String) (v : OutputValue) :
    Dict.find? id [(id, v)] = some v := by
  simp [Dict.find?]

theorem insert_singleton (id : String) (v v' : OutputValue) :
    Dict.insert id v' [(id, v)] = [(id, v')] := by
  simp [Dict.insert]

/-- The next iteration of a loop opens its own subtree, at the next position. -/
theorem Opens.iteration {o : Outputs} {address : List String} {fill : Outputs → Outputs}
    (h : Opens o address fill) (id : String) (done : List Outputs)
    (short : done.length < indexBound) :
    Opens (afterIterations o fill id done) (address ++ [id, toString done.length])
      fun s => fill [(id, .nestedList (done ++ [s]))] := by
  have split : ∀ more : List String, address ++ [id, toString done.length] ++ more
      = address ++ id :: toString done.length :: more := by simp
  refine ⟨fun f more => ?_, fun f more s => ?_⟩
  · rw [split]
    by_cases none : done = []
    · subst none
      rw [afterIterations, if_pos rfl, h.first, modifyAt_next f id more short [] rfl]
      rfl
    · rw [afterIterations_of_ne_nil none, h.later, modifyAt_next f id more short, insert_singleton]
      rw [find?_singleton]
      rfl
  · rw [split, h.later, modifyAt_last f id more short _ s, insert_singleton]
    rw [find?_singleton]
    rfl

/-! ## Blocks -/

/-- A value under a name within some blocks. -/
def branch (name : String) (v : OutputValue) : List String → Outputs
  | [] => [(name, v)]
  | block :: blocks => [(block, .nested (branch name v blocks))]

theorem modifyAt_blocks (name : String) (v : OutputValue) {blocks : List String}
    (plain : ∀ block ∈ blocks, readIndex? block = none) :
    (modifyAt (fun entries => entries.insert name v) blocks []).1 = branch name v blocks := by
  induction blocks with
  | nil => rfl
  | cons block blocks ih =>
      have noIndex : leadingIndex? blocks = none := by
        cases blocks with
        | nil => rfl
        | cons next blocks => exact plain next (by simp)
      rw [modifyAt_nested _ _ _ noIndex]
      have later := ih fun block mem => plain block (List.mem_cons_of_mem _ mem)
      exact congrArg (fun s => [(block, OutputValue.nested s)]) later

theorem lookup?_branch (name : String) (v : OutputValue) (blocks : List String) :
    lookup? (branch name v blocks) (blocks ++ [name]) = some v := by
  induction blocks with
  | nil =>
      rw [branch, List.nil_append, lookup?_cons, find?_singleton, Option.bind_some, lookupIn?]
  | cons block blocks ih =>
      rw [branch, List.cons_append, lookup?_cons, find?_singleton, Option.bind_some,
        lookupIn?_nested (by simp)]
      exact ih

/-! ## Nested loops -/

/-- The path to an iteration of nested loops. -/
def iterationPath : List (String × Nat) → List Nat → List String
  | (id, _) :: levels, j :: js => id :: toString j :: iterationPath levels js
  | _, _ => []

/-- How often the body of nested loops runs. -/
def runs (levels : List (String × Nat)) : Nat := levels.foldr (fun level n => level.2 * n) 1

/-- How many runs of the body come before an iteration of nested loops. -/
def rank : List (String × Nat) → List Nat → Nat
  | (_, _) :: levels, j :: js => j * runs levels + rank levels js
  | _, _ => 0

/-- One position for each level, each within the iterations of its loop. -/
abbrev InRange (levels : List (String × Nat)) (js : List Nat) : Prop :=
  List.Forall₂ (fun level j => j < level.2) levels js

/-- What nested loops leave when the runs of their body leave `leaf k`, `leaf (k + 1)` and so
on. -/
def harvest (leaf : Nat → Outputs) : List (String × Nat) → Nat → Outputs
  | [], k => leaf k
  | (id, n) :: levels, k =>
      [(id, .nestedList ((List.range n).map fun i => harvest leaf levels (k + i * runs levels)))]

/-- What the first iterations of a loop leave. -/
def harvests (leaf : Nat → Outputs) (levels : List (String × Nat)) (k n : Nat) : List Outputs :=
  (List.range n).map fun i => harvest leaf levels (k + i * runs levels)

section Harvest

variable {leaf : Nat → Outputs} {levels : List (String × Nat)} {js : List Nat}

theorem harvest_cons (leaf : Nat → Outputs) (id : String) (n : Nat)
    (levels : List (String × Nat)) (k : Nat) :
    harvest leaf ((id, n) :: levels) k = [(id, .nestedList (harvests leaf levels k n))] := rfl

@[simp] theorem length_harvests (k n : Nat) : (harvests leaf levels k n).length = n := by
  simp [harvests]

theorem getElem_harvests {k n j : Nat} (within : j < (harvests leaf levels k n).length) :
    (harvests leaf levels k n)[j] = harvest leaf levels (k + j * runs levels) := by
  simp [harvests]

theorem harvests_succ (k n : Nat) :
    harvests leaf levels k (n + 1)
      = harvests leaf levels k n ++ [harvest leaf levels (k + n * runs levels)] := by
  simp only [harvests, List.range_succ, List.map_append, List.map_singleton]

theorem harvests_ne_nil {k n : Nat} (positive : 0 < n) : harvests leaf levels k n ≠ [] :=
  List.ne_nil_of_length_pos (by rwa [length_harvests])

/-- A path into the list of a loop goes on in the entry at its position. -/
theorem lookup?_entry {id : String} {items : List Outputs} {j : Nat} (rest : List String)
    (within : j < items.length) (small : j < indexBound) :
    lookup? [(id, .nestedList items)] (id :: toString j :: rest) = lookup? items[j] rest := by
  rw [lookup?_cons, find?_singleton, Option.bind_some, lookupIn?_nestedList,
    readIndex?_toString small, Option.bind_some, List.getElem?_eq_getElem within, Option.bind_some]

variable (short : ∀ level ∈ levels, level.2 ≤ indexBound)

include short

/-- At the position of an iteration stands what its run has left. -/
theorem lookup?_harvest (inRange : InRange levels js) (k : Nat) (rest : List String) :
    lookup? (harvest leaf levels k) (iterationPath levels js ++ rest)
      = lookup? (leaf (k + rank levels js)) rest := by
  induction inRange generalizing k with
  | nil => rfl
  | @cons level j levels js lt inRange ih =>
      have small : j < indexBound := Nat.lt_of_lt_of_le lt (short level List.mem_cons_self)
      have within : j < (harvests leaf levels k level.2).length := by rwa [length_harvests]
      rw [harvest_cons, iterationPath, List.cons_append, List.cons_append,
        lookup?_entry _ within small, getElem_harvests,
        ih fun level mem => short level (List.mem_cons_of_mem _ mem), rank, Nat.add_assoc]

/-- The list of a loop, at every level, has one entry for each iteration. -/
theorem list_harvest {outer inner : List (String × Nat)} {id : String} {n : Nat}
    (same : levels = outer ++ (id, n) :: inner) (inRange : InRange outer js) (k : Nat) :
    ∃ items, lookup? (harvest leaf levels k) (iterationPath outer js ++ [id])
      = some (.nestedList items) ∧ items.length = n := by
  induction inRange generalizing levels k with
  | nil =>
      subst same
      refine ⟨harvests leaf inner k n, ?_, length_harvests k n⟩
      rw [List.nil_append, harvest_cons]
      change lookup? [(id, _)] [id] = _
      rw [lookup?_cons, find?_singleton, Option.bind_some, lookupIn?]
  | @cons level j outer js lt inRange ih =>
      subst same
      have small : j < indexBound := Nat.lt_of_lt_of_le lt (short level List.mem_cons_self)
      rw [List.cons_append, harvest_cons, iterationPath, List.cons_append, List.cons_append,
        lookup?_entry _ (by rwa [length_harvests]) small, getElem_harvests]
      exact ih (fun level mem => short level (List.mem_cons_of_mem _ mem)) rfl _

end Harvest

end Outputs

end PromptStream
