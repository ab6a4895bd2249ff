import PromptStream.Proofs.Dict.Sorted
import PromptStream.Proofs.Engine.Changes

/-!
# Queues

Queues are only ever pushed to: no step takes an item away or moves one
(`items_prefix_of_changes`), and no queue is empty once it is there, so the queues of a run
are known from their items (`RunState.Tidy.queue_ext`).
-/

namespace PromptStream

variable {φ ν : Type}

/-! ## Queues of a state -/

namespace RunState

variable {s s' : RunState}

theorem items_push_self (s : RunState) (key : String) (item : Json) :
    (s.push key item).items key = s.items key ++ [item] := by
  rw [items, push, Dict.find?_insert_self]
  rfl

theorem items_push_of_ne (s : RunState) {key other : String} (item : Json) (ne : key ≠ other) :
    (s.push key item).items other = s.items other := by
  rw [items, push, Dict.find?_insert_of_ne _ _ ne]
  rfl

/-- A push moves no item. -/
theorem items_prefix_push (s : RunState) (key : String) (item : Json) (other : String) :
    s.items other <+: (s.push key item).items other := by
  by_cases same : key = other
  · subst same
    rw [items_push_self]
    exact List.prefix_append _ _
  · exact (items_push_of_ne s item same).symm ▸ List.prefix_rfl

/-- An item keeps its position while its queue grows. -/
theorem item?_of_prefix {key : String} {i : Nat} {item : Json}
    (grown : s.items key <+: s'.items key) (there : s.item? key i = some item) :
    s'.item? key i = some item := by
  obtain ⟨later, same⟩ := grown
  rw [item?, ← same, List.getElem?_append_left (List.getElem?_eq_some_iff.1 there).1]
  exact there

/-- What is missing was missing before. -/
theorem item?_eq_none_of_prefix {key : String} {i : Nat} (grown : s.items key <+: s'.items key)
    (missing : s'.item? key i = none) : s.item? key i = none := by
  cases there : s.item? key i with
  | none => rfl
  | some item =>
      have later := item?_of_prefix grown there
      rw [missing] at later
      cases later

/-- The queues are in order, and none of them is empty. -/
structure Tidy (s : RunState) : Prop where
  sorted : Dict.Sorted s.queue
  nonempty : ∀ e ∈ s.queue, e.2 ≠ []

theorem Tidy.empty : Tidy {} := ⟨List.Pairwise.nil, fun _ mem => nomatch mem⟩

theorem Tidy.push (h : s.Tidy) (key : String) (item : Json) : (s.push key item).Tidy := by
  refine ⟨h.sorted.insert key _, fun e mem => ?_⟩
  rcases Dict.mem_insert mem with rfl | mem
  · simp
  · exact h.nonempty e mem

/-- A queue is there exactly if it has items. -/
theorem Tidy.find?_queue (h : s.Tidy) (key : String) :
    s.queue.find? key = if s.items key = [] then none else some (s.items key) := by
  rw [items]
  cases found : s.queue.find? key with
  | none => rfl
  | some xs => exact (if_neg (h.nonempty _ (Dict.mem_of_find? found))).symm

theorem Tidy.queue_ext (h : s.Tidy) (h' : s'.Tidy) (same : ∀ key, s.items key = s'.items key) :
    s.queue = s'.queue := by
  refine h.sorted.ext h'.sorted fun key => ?_
  rw [h.find?_queue, h'.find?_queue, same]

end RunState

/-! ## Queues along changes -/

/-- A host whose author code pushes nothing. -/
def Host.NeverPushes (host : Host φ ν) : Prop := ∀ key item, ¬ host.Asks (.push key item)

section Changes

variable {host : Host φ ν} {w w' : World φ ν}

/-- Only author code changes a queue, by a push. -/
theorem World.Change.queue (h : w.Change host w') :
    w'.scene.state.queue = w.scene.state.queue ∨
      ∃ key item, host.Asks (.push key item) ∧
        w'.scene.state.queue = (w.scene.state.push key item).queue := by
  cases h with
  | @write x asks =>
      cases x with
      | push key item => exact .inr ⟨key, item, asks, rfl⟩
      | _ => exact .inl rfl
  | complete ref request =>
      rw [World.complete_scene]
      exact .inl rfl
  | take taken =>
      unfold World.takeStream? at taken
      split at taken
      · cases taken
        exact .inl rfl
      · cases taken
  | _ => exact .inl rfl

theorem RunState.items_congr {s s' : RunState} (same : s'.queue = s.queue) :
    s'.items = s.items := by
  funext key
  rw [items, items, same]

/-- The items of a queue stay where they are. -/
theorem items_prefix_of_changes (h : w.Changes host w') (key : String) :
    w.scene.state.items key <+: w'.scene.state.items key := by
  induction h with
  | refl => exact List.prefix_rfl
  | tail _ last ih =>
      refine ih.trans ?_
      rcases last.queue with same | ⟨key', item, -, same⟩
      · exact (RunState.items_congr same).symm ▸ List.prefix_rfl
      · rw [RunState.items_congr same]
        exact RunState.items_prefix_push _ key' item key

theorem tidy_of_changes (h : w.Changes host w') (tidy : w.scene.state.Tidy) :
    w'.scene.state.Tidy := by
  have of_same : ∀ {s s' : RunState}, s'.queue = s.queue → s.Tidy → s'.Tidy := by
    intro s s' same tidy
    exact ⟨same ▸ tidy.sorted, same ▸ tidy.nonempty⟩
  induction h with
  | refl => exact tidy
  | tail _ last ih =>
      rcases last.queue with same | ⟨key, item, -, same⟩
      · exact of_same same ih
      · exact of_same same (ih.push key item)

theorem queue_of_neverPushes (never : host.NeverPushes) (h : w.Changes host w') :
    w'.scene.state.queue = w.scene.state.queue := by
  induction h with
  | refl => rfl
  | tail _ last ih =>
      rcases last.queue with same | ⟨key, item, asks, -⟩
      · exact same.trans ih
      · exact absurd asks (never key item)

end Changes

end PromptStream
