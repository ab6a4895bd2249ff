import PromptStream.Outputs

/-!
# Writes to outputs

An address leads through levels of two kinds: a subtree under a key, or an entry
of a list under a key, when the segment after the key reads as a position.
`Address.induction` is the induction over these levels; a write and a lookup have
one equation for each kind.

A write is dropped exactly when a position on its way lies too far past the end of
the list there (`drops_iff_farOut`).  After a write that was not dropped, the full
path leads to the value written; after one that was dropped, it leads nowhere
(`lookup?_insertAt`, `written_insertAt`).
-/

namespace PromptStream

/-- The position that an address begins with, if it begins with one. -/
def leadingIndex? (address : List String) : Option Nat := address.head?.bind readIndex?

/-- Induction over the levels of an address. -/
theorem Address.induction {motive : List String → Prop} (nil : motive [])
    (nested : ∀ key rest, leadingIndex? rest = none → motive rest → motive (key :: rest))
    (item : ∀ key segment i rest, readIndex? segment = some i → motive rest →
      motive (key :: segment :: rest))
    (address : List String) : motive address := by
  match address with
  | [] => exact nil
  | [key] => exact nested key [] rfl nil
  | key :: segment :: rest =>
      cases position : readIndex? segment with
      | none =>
          exact nested key _ position (Address.induction nil nested item (segment :: rest))
      | some i => exact item key segment i rest position (Address.induction nil nested item rest)

namespace Outputs

open OutputValue (asNested asNestedList)

/-! ## One level of a write -/

section Levels

variable (f : Outputs → Outputs) (o : Outputs) (key : String)

theorem modifyAt_nested {rest : List String} (plain : leadingIndex? rest = none) :
    modifyAt f (key :: rest) o
      = (o.insert key (.nested (modifyAt f rest (asNested (o.find? key))).1),
        (modifyAt f rest (asNested (o.find? key))).2) := by
  cases rest with
  | nil => rfl
  | cons segment rest =>
      have noIndex : readIndex? segment = none := plain
      simp [modifyAt, noIndex]

variable {segment : String} {i : Nat} (rest : List String)

/-- A write that reaches too far only creates the list that it would extend. -/
theorem modifyAt_far (position : readIndex? segment = some i)
    (far : (asNestedList (o.find? key)).length + maxIndexGap < i) :
    modifyAt f (key :: segment :: rest) o
      = (o.insert key (.nestedList (asNestedList (o.find? key))), false) := by
  simp [modifyAt, position, far]

theorem getD_padTo (length : Nat) (items : List Outputs) :
    (padTo length items).getD i [] = items.getD i [] := by
  rw [padTo, List.getD_eq_getElem?_getD, List.getD_eq_getElem?_getD, List.getElem?_append]
  split
  next => rfl
  next outside =>
    rw [List.getElem?_eq_none (Nat.le_of_not_lt outside), List.getElem?_replicate]
    split <;> rfl

theorem modifyAt_item (position : readIndex? segment = some i)
    (near : i ≤ (asNestedList (o.find? key)).length + maxIndexGap) :
    modifyAt f (key :: segment :: rest) o
      = (o.insert key (.nestedList ((padTo (i + 1) (asNestedList (o.find? key))).set i
          (modifyAt f rest ((asNestedList (o.find? key)).getD i [])).1)),
        (modifyAt f rest ((asNestedList (o.find? key)).getD i [])).2) := by
  have notFar : ¬ (asNestedList (o.find? key)).length + maxIndexGap < i := Nat.not_lt.2 near
  simp only [modifyAt, position, if_neg notFar, getD_padTo]

/-- The position that is written exists once the list is filled up. -/
theorem getElem?_padTo_set (items : List Outputs) (entry : Outputs) :
    ((padTo (i + 1) items).set i entry)[i]? = some entry := by
  rw [List.getElem?_set_self]
  simp only [padTo, List.length_append, List.length_replicate]
  omega

end Levels

/-! ## One level of a lookup -/

section Lookups

variable {o entries : Outputs} {key : String}

theorem lookup?_cons (o : Outputs) (key : String) (rest : List String) :
    o.lookup? (key :: rest) = (o.find? key).bind (lookupIn? · rest) := by
  rw [lookup?]
  cases o.find? key <;> rfl

theorem lookup?_cons_of_ne {other : String} (ne : key ≠ other) (value : OutputValue)
    (rest : List String) :
    lookup? (o.insert key value) (other :: rest) = o.lookup? (other :: rest) := by
  rw [lookup?_cons, lookup?_cons, Dict.find?_insert_of_ne value o ne]

theorem lookup?_insert_cons (o : Outputs) (key : String) (value : OutputValue)
    (rest : List String) : lookup? (o.insert key value) (key :: rest) = lookupIn? value rest := by
  rw [lookup?_cons, Dict.find?_insert_self]
  rfl

theorem lookupIn?_nested {rest : List String} (some : rest ≠ []) :
    lookupIn? (.nested entries) rest = entries.lookup? rest := by
  cases rest with
  | nil => exact absurd rfl some
  | cons segment rest => rw [lookupIn?, lookup?]

theorem lookupIn?_nestedList (items : List Outputs) (segment : String) (rest : List String) :
    lookupIn? (.nestedList items) (segment :: rest)
      = (readIndex? segment).bind fun i => items[i]?.bind (lookup? · rest) := by
  rw [lookupIn?]
  cases readIndex? segment with
  | none => rfl
  | some i => cases found : items[i]? <;> simp [found]

end Lookups

/-! ## Dropped writes -/

/-- Addresses with a position that lies too far past the end of the list there. -/
inductive FarOut : Outputs → List String → Prop where
  | here {o : Outputs} {key segment : String} {i : Nat} {rest : List String} :
      readIndex? segment = some i → (asNestedList (o.find? key)).length + maxIndexGap < i →
      FarOut o (key :: segment :: rest)
  | nested {o : Outputs} {key : String} {rest : List String} :
      leadingIndex? rest = none → FarOut (asNested (o.find? key)) rest → FarOut o (key :: rest)
  | item {o : Outputs} {key segment : String} {i : Nat} {rest : List String} :
      readIndex? segment = some i → FarOut ((asNestedList (o.find? key)).getD i []) rest →
      FarOut o (key :: segment :: rest)

theorem drops_nested (o : Outputs) (key : String) {rest : List String}
    (plain : leadingIndex? rest = none) :
    o.drops (key :: rest) = (asNested (o.find? key)).drops rest := by
  rw [drops, modifyAt_nested id o key plain]
  rfl

theorem drops_item (o : Outputs) (key : String) {segment : String} {i : Nat} (rest : List String)
    (position : readIndex? segment = some i)
    (near : i ≤ (asNestedList (o.find? key)).length + maxIndexGap) :
    o.drops (key :: segment :: rest) = ((asNestedList (o.find? key)).getD i []).drops rest := by
  rw [drops, modifyAt_item id o key rest position near]
  rfl

theorem drops_of_far (o : Outputs) (key : String) {segment : String} {i : Nat} (rest : List String)
    (position : readIndex? segment = some i)
    (far : (asNestedList (o.find? key)).length + maxIndexGap < i) :
    o.drops (key :: segment :: rest) = true := by
  rw [drops, modifyAt_far id o key rest position far]
  rfl

/-- An entry that exists already is near enough to be written. -/
theorem drops_of_entry (o : Outputs) (key : String) {segment : String} {i : Nat}
    {rest : List String} (position : readIndex? segment = some i) {entries : Outputs}
    (entry : (asNestedList (o.find? key))[i]? = some entries) :
    o.drops (key :: segment :: rest) = entries.drops rest := by
  have inRange := (List.getElem?_eq_some_iff.1 entry).1
  rw [drops_item o key rest position (by omega), List.getD_eq_getElem?_getD, entry]
  rfl

/-- A write below a position keeps the other entries of the list, changes the one at
the position below, and may fill up the list. -/
theorem modifyAt_index (f : Outputs → Outputs) (o : Outputs) (key : String) {segment : String}
    {i : Nat} (rest : List String) (position : readIndex? segment = some i) :
    ∃ items' : List Outputs,
      (modifyAt f (key :: segment :: rest) o).1 = o.insert key (.nestedList items') ∧
      (asNestedList (o.find? key)).length ≤ items'.length ∧
      ∀ j entries, (asNestedList (o.find? key))[j]? = some entries →
        items'[j]? = some (if j = i then (modifyAt f rest entries).1 else entries) := by
  by_cases far : (asNestedList (o.find? key)).length + maxIndexGap < i
  · rw [modifyAt_far f o key rest position far]
    refine ⟨_, rfl, Nat.le_refl _, ?_⟩
    intro j entries entry
    have inRange := (List.getElem?_eq_some_iff.1 entry).1
    rw [if_neg (by omega)]
    exact entry
  · rw [modifyAt_item f o key rest position (Nat.le_of_not_lt far)]
    refine ⟨_, rfl, ?_, ?_⟩
    · simp [padTo]
    · intro j entries entry
      by_cases same : j = i
      · subst same
        rw [getElem?_padTo_set, if_pos rfl, List.getD_eq_getElem?_getD, entry]
        rfl
      · have inRange := (List.getElem?_eq_some_iff.1 entry).1
        rw [List.getElem?_set_ne (Ne.symm same), padTo, List.getElem?_append_left inRange, entry,
          if_neg same]

/-- A write is dropped exactly when a position on its way lies too far out. -/
theorem drops_iff_farOut {o : Outputs} {address : List String} :
    o.drops address = true ↔ o.FarOut address := by
  constructor
  · intro dropped
    induction address using Address.induction generalizing o with
    | nil => cases dropped
    | nested key rest plain ih =>
        rw [drops_nested o key plain] at dropped
        exact .nested plain (ih dropped)
    | item key segment i rest position ih =>
        by_cases far : (asNestedList (o.find? key)).length + maxIndexGap < i
        · exact .here position far
        · rw [drops_item o key rest position (Nat.le_of_not_lt far)] at dropped
          exact .item position (ih dropped)
  · intro farOut
    induction farOut with
    | here position far => exact drops_of_far _ _ _ position far
    | nested plain _ ih =>
        rw [drops_nested _ _ plain]
        exact ih
    | @item o key segment i rest position _ ih =>
        by_cases far : (asNestedList (o.find? key)).length + maxIndexGap < i
        · exact drops_of_far o key rest position far
        · rw [drops_item o key rest position (Nat.le_of_not_lt far)]
          exact ih

/-- A write whose positions all lie within the gap is never dropped. -/
theorem not_farOut_of_le {o : Outputs} {address : List String}
    (small : ∀ segment ∈ address, ∀ i, readIndex? segment = some i → i ≤ maxIndexGap) :
    ¬ o.FarOut address := by
  intro farOut
  induction farOut with
  | @here o key segment i rest position far =>
      have bound := small segment (by simp) i position
      omega
  | nested _ _ ih => exact ih fun segment mem => small segment (List.mem_cons_of_mem _ mem)
  | item _ _ ih =>
      refine ih fun segment mem => small segment ?_
      exact List.mem_cons_of_mem _ (List.mem_cons_of_mem _ mem)

/-! ## Reading what was written -/

/-- The full path of a write that was not dropped leads to the value. -/
theorem lookup?_insertAt_of_reached {o : Outputs} {address : List String}
    (reached : o.drops address = false) (key : String) (value : OutputValue) :
    (o.insertAt address key value).lookup? (address ++ [key]) = some value := by
  unfold insertAt
  induction address using Address.induction generalizing o with
  | nil =>
      refine (lookup?_insert_cons o key value []).trans ?_
      rw [lookupIn?]
  | nested next rest plain ih =>
      rw [drops_nested o next plain] at reached
      rw [modifyAt_nested _ o next plain, List.cons_append, lookup?_insert_cons,
        lookupIn?_nested (by simp)]
      exact ih reached
  | item next segment i rest position ih =>
      by_cases far : (asNestedList (o.find? next)).length + maxIndexGap < i
      · rw [drops_of_far o next rest position far] at reached
        cases reached
      · have near := Nat.le_of_not_lt far
        rw [drops_item o next rest position near] at reached
        rw [modifyAt_item _ o next rest position near, List.cons_append, lookup?_insert_cons,
          List.cons_append, lookupIn?_nestedList, position, Option.bind_some, getElem?_padTo_set]
        exact ih reached

/-- The address of a write that was dropped leads nowhere. -/
theorem lookup?_insertAt_of_drops {o : Outputs} {address : List String}
    (dropped : o.drops address = true) (key : String) (value : OutputValue) (path : List String) :
    (o.insertAt address key value).lookup? (address ++ path) = none := by
  unfold insertAt
  induction address using Address.induction generalizing o with
  | nil => cases dropped
  | nested next rest plain ih =>
      rw [drops_nested o next plain] at dropped
      have some : rest ++ path ≠ [] := by
        intro empty
        rw [(List.append_eq_nil_iff.1 empty).1] at dropped
        cases dropped
      rw [modifyAt_nested _ o next plain, List.cons_append, lookup?_insert_cons,
        lookupIn?_nested some]
      exact ih dropped
  | item next segment i rest position ih =>
      by_cases far : (asNestedList (o.find? next)).length + maxIndexGap < i
      · have outside : (asNestedList (o.find? next))[i]? = none :=
          List.getElem?_eq_none (by omega)
        rw [modifyAt_far _ o next rest position far, List.cons_append, lookup?_insert_cons,
          List.cons_append, lookupIn?_nestedList, position, Option.bind_some, outside]
        rfl
      · have near := Nat.le_of_not_lt far
        rw [drops_item o next rest position near] at dropped
        rw [modifyAt_item _ o next rest position near, List.cons_append, lookup?_insert_cons,
          List.cons_append, lookupIn?_nestedList, position, Option.bind_some, getElem?_padTo_set]
        exact ih dropped

/-- After a write its full path leads to the value, unless the write was dropped. -/
theorem lookup?_insertAt (o : Outputs) (address : List String) (key : String)
    (value : OutputValue) :
    (o.insertAt address key value).lookup? (address ++ [key])
      = if o.drops address then none else some value := by
  cases reached : o.drops address with
  | true => exact lookup?_insertAt_of_drops reached key value [key]
  | false => exact lookup?_insertAt_of_reached reached key value

/-- What a write leaves of some outputs.  The full path leads to the value, unless a position on
the way lies too far past the end of its list. -/
structure Written (o : Outputs) (address : List String) (key : String) (value : OutputValue)
    (o' : Outputs) : Prop where
  tree : o' = o.insertAt address key value
  found : ¬ o.FarOut address → o'.lookup? (address ++ [key]) = some value
  lost : o.FarOut address → o'.lookup? (address ++ [key]) = none

theorem written_insertAt (o : Outputs) (address : List String) (key : String)
    (value : OutputValue) : o.Written address key value (o.insertAt address key value) where
  tree := rfl
  found near := by
    rw [lookup?_insertAt, if_neg fun dropped => near (drops_iff_farOut.1 dropped)]
  lost far := by rw [lookup?_insertAt, if_pos (drops_iff_farOut.2 far)]

/-- A write at the root is never dropped. -/
theorem Written.lookup?_root {o o' : Outputs} {key : String} {value : OutputValue}
    (h : o.Written [] key value o') : o'.lookup? [key] = some value :=
  h.found (not_farOut_of_le nofun)

end Outputs

end PromptStream
