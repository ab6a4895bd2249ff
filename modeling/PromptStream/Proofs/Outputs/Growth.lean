import PromptStream.Proofs.Outputs.ReadAfterWrite

/-!
# How far lists grow

A list is found at a place, a path of keys and positions (`listAt`); where there is none it
counts as empty.  On its way down an address a write comes to some lists, each with a position
in it (`Arrives`).  A list with a position within the gap is filled up until the position is in
it, and with one further out it stays as it is (`Arrives.length_listAt`).  No other list gets
longer, except by what the value itself holds (`length_listAt_insertAt`).

The gap bounds how far past the end a position may lie, and the entry at the position is made
as well.  So no list grows by more than one entry over the gap, and by that only if a write comes
to it with the last position that is allowed (`grows_within_gap_iff`).
-/

namespace PromptStream

namespace Outputs

open OutputValue (asNested asNestedList)

/-! ## Lists and their places -/

/-- The list of subtrees that a place leads to from a value on. -/
def listUnder : Option OutputValue → List Segment → List Outputs
  | v, [] => asNestedList v
  | v, .key k :: rest => listUnder (Dict.find? k (asNested v)) rest
  | v, .position i :: rest => listUnder (some (.nested ((asNestedList v).getD i []))) rest

/-- The list of subtrees at a place of a tree. -/
def listAt (o : Outputs) (place : List Segment) : List Outputs := listUnder (some (.nested o)) place

/-- A write comes to the list at a place, with a position in that list. -/
inductive Arrives : Outputs → List String → List Segment → Nat → Prop where
  | here {o : Outputs} {key segment : String} {i : Nat} {rest : List String} :
      readIndex? segment = some i → Arrives o (key :: segment :: rest) [.key key] i
  | nested {o : Outputs} {key : String} {i : Nat} {rest : List String} {place : List Segment} :
      leadingIndex? rest = none → Arrives (asNested (o.find? key)) rest place i →
      Arrives o (key :: rest) (.key key :: place) i
  | item {o : Outputs} {key segment : String} {i j : Nat} {rest : List String}
      {place : List Segment} :
      readIndex? segment = some j → j ≤ (asNestedList (o.find? key)).length + maxIndexGap →
      Arrives ((asNestedList (o.find? key)).getD j []) rest place i →
      Arrives o (key :: segment :: rest) (.key key :: .position j :: place) i

section Places

variable {o : Outputs} {key : String} {i : Nat} {address : List String} {place : List Segment}
  {v : Option OutputValue}

theorem listAt_insert_self (o : Outputs) (key : String) (value : OutputValue)
    (place : List Segment) :
    listAt (o.insert key value) (.key key :: place) = listUnder (some value) place := by
  rw [listAt, listUnder, asNested, Dict.find?_insert_self]

/-- Only what is below a key changes with the value under it. -/
theorem listAt_insert_cases (o : Outputs) (key : String) (value : OutputValue)
    (place : List Segment) :
    listAt (o.insert key value) place = o.listAt place ∨ ∃ below, place = .key key :: below := by
  match place with
  | [] => exact .inl rfl
  | .position _ :: _ => exact .inl rfl
  | .key other :: below =>
      by_cases same : key = other
      · exact .inr ⟨below, same ▸ rfl⟩
      · refine .inl ?_
        rw [listAt, listUnder, asNested, Dict.find?_insert_of_ne value o same]
        rfl

/-- Below a value that holds nothing there is nothing. -/
theorem listUnder_eq_nil (noEntries : asNested v = []) (noItems : asNestedList v = [])
    (place : List Segment) : listUnder v place = [] := by
  induction place generalizing v with
  | nil => exact noItems
  | cons segment place ih =>
      cases segment with
      | key k =>
          rw [listUnder, noEntries]
          exact ih rfl rfl
      | position i =>
          rw [listUnder, noItems]
          exact ih rfl rfl

theorem listAt_empty (place : List Segment) : listAt [] place = [] :=
  listUnder_eq_nil rfl rfl place

theorem listUnder_of_isResult {value : OutputValue} (result : value.IsResult)
    (place : List Segment) : listUnder (some value) place = [] := by
  cases value with
  | text => exact listUnder_eq_nil rfl rfl place
  | textList => exact listUnder_eq_nil rfl rfl place
  | nested => exact result.elim
  | nestedList => exact result.elim

theorem listUnder_nestedList_key (items : List Outputs) (k : String) (place : List Segment) :
    listUnder (some (.nestedList items)) (.key k :: place) = [] :=
  listAt_empty (.key k :: place)

/-- A value that is taken for a subtree has the lists of that subtree, if it is one. -/
theorem length_listAt_asNested_le (v : Option OutputValue) (place : List Segment) :
    (listAt (asNested v) place).length ≤ (listUnder v place).length := by
  match place with
  | [] => exact Nat.zero_le _
  | .key k :: place => exact Nat.le_refl _
  | .position i :: place =>
      rw [show listAt (asNested v) (.position i :: place) = listAt [] place from rfl, listAt_empty]
      exact Nat.zero_le _

/-- The same for a value that is taken for a list. -/
theorem length_listUnder_asNestedList_le (v : Option OutputValue) (place : List Segment) :
    (listUnder (some (.nestedList (asNestedList v))) place).length
      ≤ (listUnder v place).length := by
  match place with
  | [] => exact Nat.le_refl _
  | .position i :: place => exact Nat.le_refl _
  | .key k :: place =>
      rw [listUnder_nestedList_key]
      exact Nat.zero_le _

theorem length_setItem (items : List Outputs) (i : Nat) (entry : Outputs) :
    (setItem items i entry).length = max items.length (i + 1) := by
  rw [setItem, List.length_set, padTo, List.length_append, List.length_replicate]
  omega

/-- A place that a write comes to begins with a key. -/
theorem Arrives.exists_cons (h : o.Arrives address place i) :
    ∃ key below, place = .key key :: below := by
  cases h with
  | here => exact ⟨_, _, rfl⟩
  | nested => exact ⟨_, _, rfl⟩
  | item => exact ⟨_, _, rfl⟩

/-- The list that a write comes to under a subtree is the one below its key. -/
theorem Arrives.listUnder_eq (h : (asNested v).Arrives address place i) :
    listUnder v place = listAt (asNested v) place := by
  obtain ⟨key, below, rfl⟩ := h.exists_cons
  rfl

/-- A list that a path finds stands at the place that the path spells. -/
theorem listAt_segments {path : List String} {items : List Outputs}
    (found : o.lookup? path = some (.nestedList items)) : o.listAt (o.segments path) = items := by
  fun_induction segments o path with
  | case1 => cases found
  | case2 o key =>
      rw [lookup?_cons] at found
      obtain ⟨u, under, inside⟩ := Option.bind_eq_some_iff.1 found
      cases inside
      rw [listAt, listUnder, asNested, under]
      rfl
  | case3 o key segment rest entries i position under ih =>
      rw [lookup?_cons, under, Option.bind_some, lookupIn?_nestedList_getD, position,
        Option.bind_some] at found
      rw [← ih found, listAt, listUnder, asNested, under]
      rfl
  | case4 o key segment rest other ih =>
      rw [lookup?_cons] at found
      obtain ⟨u, under, inside⟩ := Option.bind_eq_some_iff.1 found
      cases u with
      | text => cases inside
      | textList => cases inside
      | nestedList items' =>
          rw [lookupIn?_nestedList] at inside
          obtain ⟨i, position, -⟩ := Option.bind_eq_some_iff.1 inside
          exact (other items' i under position).elim
      | nested entries =>
          rw [lookupIn?_nested (List.cons_ne_nil _ _)] at inside
          rw [under] at ih ⊢
          rw [← ih inside, listAt, listUnder, asNested, under]
          rfl

end Places

/-! ## What a write does to the lists -/

section Writes

variable {o : Outputs} {address : List String} {place : List Segment} {i : Nat} (key : String)
  (value : OutputValue)

/-- A list to which a write comes is filled up until it has an entry at the position, unless the
position lies too far out. -/
theorem Arrives.length_listAt (h : o.Arrives address place i) :
    ((o.insertAt address key value).listAt place).length
      = if i ≤ (o.listAt place).length + maxIndexGap then max (o.listAt place).length (i + 1)
        else (o.listAt place).length := by
  induction h with
  | @here o next segment i rest position =>
      change _ = if i ≤ (asNestedList (o.find? next)).length + maxIndexGap then _ else _
      split
      next near =>
        rw [insertAt_item o next key value rest position near, listAt_insert_self]
        exact length_setItem _ i _
      next far =>
        rw [insertAt_far o next key value rest position (Nat.lt_of_not_le far), listAt_insert_self]
        rfl
  | @nested o next i rest place plain arrives ih =>
      obtain ⟨k, below, rfl⟩ := arrives.exists_cons
      rw [insertAt_nested o next key value plain, listAt_insert_self]
      exact ih
  | @item o next segment i j rest place position near _ ih =>
      rw [insertAt_item o next key value rest position near, listAt_insert_self, listUnder,
        asNestedList, getD_setItem, if_pos rfl]
      exact ih

/-- The value stands at the place that the full path spells, with the lists that it holds. -/
theorem listAt_written (reached : o.drops address = false) (below : List Segment) :
    (o.insertAt address key value).listAt
        ((o.insertAt address key value).segments (address ++ [key]) ++ below)
      = listUnder (some value) below := by
  induction address using Address.induction generalizing o with
  | nil => exact listAt_insert_self o key value below
  | nested next rest plain ih =>
      rw [drops_nested o next plain] at reached
      rw [insertAt_nested o next key value plain, List.cons_append, segments_insert_nested,
        List.cons_append, listAt_insert_self]
      exact ih reached
  | item next segment i rest position ih =>
      by_cases near : i ≤ (asNestedList (o.find? next)).length + maxIndexGap
      · rw [drops_item o next rest position near] at reached
        rw [insertAt_item o next key value rest position near, List.cons_append, List.cons_append,
          segments_insert_item o next _ _ position, getD_setItem, if_pos rfl, List.cons_append,
          List.cons_append, listAt_insert_self, listUnder, asNestedList, getD_setItem, if_pos rfl]
        exact ih reached
      · rw [drops_of_far o next rest position (Nat.lt_of_not_le near)] at reached
        cases reached

/-- A write makes no list longer but those to which it comes with a position within the gap, and
those that its value holds. -/
theorem length_listAt_insertAt (o : Outputs) (address : List String) (place : List Segment) :
    ((o.insertAt address key value).listAt place).length ≤ (o.listAt place).length ∨
      (∃ i, o.Arrives address place i ∧ i ≤ (o.listAt place).length + maxIndexGap) ∨
      (o.drops address = false ∧
        ∃ below, place = (o.insertAt address key value).segments (address ++ [key]) ++ below) := by
  induction address using Address.induction generalizing o place with
  | nil =>
      obtain same | ⟨below, rfl⟩ := listAt_insert_cases o key value place
      · exact .inl (Nat.le_of_eq (congrArg List.length same))
      · exact .inr (.inr ⟨rfl, below, rfl⟩)
  | nested next rest plain ih =>
      rw [insertAt_nested o next key value plain, drops_nested o next plain]
      obtain same | ⟨below, rfl⟩ := listAt_insert_cases o next
        (.nested (insertAt (asNested (o.find? next)) rest key value)) place
      · exact .inl (Nat.le_of_eq (congrArg List.length same))
      · rw [listAt_insert_self, List.cons_append, segments_insert_nested]
        obtain shorter | ⟨i, arrives, near⟩ | ⟨reached, deeper, rfl⟩ :=
          ih (asNested (o.find? next)) below
        · exact .inl (Nat.le_trans shorter (length_listAt_asNested_le (o.find? next) below))
        · refine .inr (.inl ⟨i, .nested plain arrives, ?_⟩)
          rw [← arrives.listUnder_eq] at near
          exact near
        · exact .inr (.inr ⟨reached, deeper, rfl⟩)
  | item next segment i rest position ih =>
      obtain ⟨write, written⟩ := insertAt_cons next (segment :: rest) key value
      obtain same | ⟨below, rfl⟩ := listAt_insert_cases o next (write (o.find? next)) place
      · rw [written]
        exact .inl (Nat.le_of_eq (congrArg List.length same))
      · by_cases near : i ≤ (asNestedList (o.find? next)).length + maxIndexGap
        · rw [insertAt_item o next key value rest position near,
            drops_item o next rest position near, listAt_insert_self, List.cons_append,
            List.cons_append, segments_insert_item o next _ _ position, getD_setItem, if_pos rfl]
          match below with
          | [] => exact .inr (.inl ⟨i, .here position, near⟩)
          | .key k :: below =>
              rw [listUnder_nestedList_key]
              exact .inl (Nat.zero_le _)
          | .position j :: below =>
              rw [listUnder, asNestedList, getD_setItem]
              split
              next here =>
                subst here
                obtain shorter | ⟨i, arrives, inner⟩ | ⟨reached, deeper, rfl⟩ :=
                  ih ((asNestedList (o.find? next)).getD j []) below
                · exact .inl shorter
                · exact .inr (.inl ⟨i, .item position near arrives, inner⟩)
                · exact .inr (.inr ⟨reached, deeper, rfl⟩)
              next => exact .inl (Nat.le_refl _)
        · -- The write ends at the list, which it leaves as it was.
          rw [insertAt_far o next key value rest position (Nat.lt_of_not_le near),
            listAt_insert_self]
          exact .inl (length_listUnder_asNestedList_le (o.find? next) below)

end Writes

/-- A list that is not part of the value grows by one entry over the gap at most. -/
theorem length_listAt_insertAt_le (o : Outputs) (address : List String) (key : String)
    (value : OutputValue) (place : List Segment) :
    ((o.insertAt address key value).listAt place).length
        ≤ (o.listAt place).length + maxIndexGap + 1 ∨
      (o.drops address = false ∧
        ∃ below, place = (o.insertAt address key value).segments (address ++ [key]) ++ below) := by
  obtain shorter | ⟨i, arrives, near⟩ | inValue := length_listAt_insertAt key value o address place
  · exact .inl (Nat.le_trans shorter (Nat.le_add_right _ (maxIndexGap + 1)))
  · refine .inl ?_
    rw [arrives.length_listAt key value, if_pos near]
    omega
  · exact .inr inValue

/-- How far one write makes lists grow.

Each list is longer by one entry over the gap at most than the one at its place before, unless it
stands at or below the end of the full path of a write that was not dropped: there the value
stands, with the lists that it holds.  A text or a list of texts holds none.

Each list stays even within the gap of its length before, exactly if the write comes to no list
with the last position that is allowed, and the value that it leaves, if it leaves it, holds no
list that is longer by more than the gap than the one at its place before.

A list to which the write comes is filled up to the position, if that is no further out than the
gap, and otherwise keeps its length; so every position that the write goes through is in its
list.  What a path finds as a list is what stands at the place that the path spells. -/
theorem grows_within_gap_iff (o : Outputs) (address : List String) (key : String)
    (value : OutputValue) :
    let o' := o.insertAt address key value
    (∀ place, (o'.listAt place).length ≤ (o.listAt place).length + maxIndexGap + 1 ∨
      (o.drops address = false ∧ ∃ below, place = o'.segments (address ++ [key]) ++ below)) ∧
    (value.IsResult →
      ∀ place, (o'.listAt place).length ≤ (o.listAt place).length + maxIndexGap + 1) ∧
    ((∀ place, (o'.listAt place).length ≤ (o.listAt place).length + maxIndexGap) ↔
      (∀ place i, o.Arrives address place i → i ≠ (o.listAt place).length + maxIndexGap) ∧
      (o.drops address = false → ∀ below, (listUnder (some value) below).length
        ≤ (o.listAt (o'.segments (address ++ [key]) ++ below)).length + maxIndexGap)) ∧
    (∀ place i, o.Arrives address place i → (o'.listAt place).length
      = if i ≤ (o.listAt place).length + maxIndexGap then max (o.listAt place).length (i + 1)
        else (o.listAt place).length) ∧
    (∀ place i, o.Arrives address place i → i ≤ (o.listAt place).length + maxIndexGap →
      i < (o'.listAt place).length) ∧
    ∀ path items, o'.lookup? path = some (.nestedList items) →
      o'.listAt (o'.segments path) = items := by
  intro o'
  have filled := fun place i (arrives : o.Arrives address place i) =>
    arrives.length_listAt key value
  refine ⟨length_listAt_insertAt_le o address key value, fun result place => ?_,
    ⟨fun within => ⟨fun place i arrives last => ?_, fun reached below => ?_⟩, ?_⟩,
    filled, fun place i arrives near => ?_, fun _ _ => listAt_segments⟩
  · obtain bounded | ⟨reached, below, rfl⟩ := length_listAt_insertAt_le o address key value place
    · exact bounded
    · rw [listAt_written key value reached below, listUnder_of_isResult result]
      exact Nat.zero_le _
  · have grown := within place
    rw [filled place i arrives, last, if_pos (Nat.le_refl _)] at grown
    omega
  · rw [← listAt_written key value reached below]
    exact within _
  · rintro ⟨noneLast, inValue⟩ place
    obtain shorter | ⟨i, arrives, near⟩ | ⟨reached, below, rfl⟩ :=
      length_listAt_insertAt key value o address place
    · exact Nat.le_trans shorter (Nat.le_add_right _ _)
    · have notLast := noneLast place i arrives
      rw [filled place i arrives, if_pos near]
      omega
    · rw [listAt_written key value reached below]
      exact inValue reached below
  · rw [filled place i arrives, if_pos near]
    omega

/-- A write at the last position that is allowed makes an empty list one entry longer than the
gap: the gap alone does not bound the growth. -/
theorem list_grows_past_gap :
    let o' : Outputs := insertAt [] ["chat", "1024"] "answer" (.text "yes")
    Arrives [] ["chat", "1024"] [.key "chat"] 1024 ∧ (listAt [] [.key "chat"]).length = 0 ∧
      (o'.listAt [.key "chat"]).length = maxIndexGap + 1 := by
  intro o'
  have position : readIndex? "1024" = some 1024 := by decide
  refine ⟨.here position, rfl, ?_⟩
  rw [show o' = _ from insertAt_item [] "chat" "answer" (.text "yes") [] position (by decide),
    listAt_insert_self]
  exact length_setItem [] 1024 _

end Outputs

end PromptStream
