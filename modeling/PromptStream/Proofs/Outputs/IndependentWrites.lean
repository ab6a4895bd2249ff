import PromptStream.Proofs.Dict.Sorted
import PromptStream.Proofs.Outputs.ReadAfterWrite

/-!
# Independent writes

Two writes whose paths are apart can be made in any order, if each of them finds what it
needs in both orders (`insertAt_comm_of_apart`).  The trees are equal as they are iterated,
with all the levels and the empty subtrees that the writes create.

A write changes the entry under the first key of its path (`insertAt_eq_insert`), so two
writes with different first keys have nothing to do with each other.  With the same first
key they go into the same subtree or into the same list; there they go into two entries, or
into the same one, and then the argument goes on below.
-/

namespace PromptStream

namespace Outputs

open OutputValue (asNested asNestedList)

/-! ## Lists that are filled up -/

section Items

variable (items : List Outputs) {i j : Nat} (entry entry' : Outputs)

theorem setItem_setItem (i : Nat) :
    setItem (setItem items i entry) i entry' = setItem items i entry' := by
  have filled : padTo (i + 1) (setItem items i entry) = setItem items i entry := by
    simp only [padTo, setItem, List.length_set, List.length_append, List.length_replicate]
    rw [show i + 1 - (items.length + (i + 1 - items.length)) = 0 by omega]
    simp
  rw [setItem, filled, setItem, List.set_set]
  rfl

/-- Entries at two positions may be put in any order, also where both fill up the list. -/
theorem setItem_comm (ne : i ≠ j) :
    setItem (setItem items i entry) j entry' = setItem (setItem items j entry') i entry := by
  refine List.ext_getElem? fun n => ?_
  simp only [setItem, padTo, List.getElem?_set, List.getElem?_append, List.getElem?_replicate,
    List.length_set, List.length_append, List.length_replicate]
  grind

theorem setItem_ne_nil (i : Nat) : setItem items i entry ≠ [] := by
  intro none
  have long : (setItem items i entry).length = 0 := by rw [none, List.length_nil]
  simp only [setItem, padTo, List.length_set, List.length_append, List.length_replicate] at long
  omega

end Items

/-! ## Writes with different first keys -/

theorem insertAt_ne_nil (o : Outputs) (address : List String) (key : String)
    (value : OutputValue) : o.insertAt address key value ≠ [] := by
  obtain ⟨write, written⟩ := insertAt_eq_insert address key value
  intro none
  have found := Dict.find?_insert_self (address.headD key) (write (o.find? (address.headD key))) o
  rw [← written, none] at found
  cases found

/-- Writes with different first keys may be made in any order. -/
theorem insertAt_comm_of_headD_ne {address address' : List String} {key key' : String}
    (ne : address.headD key ≠ address'.headD key') (o : Outputs) (value value' : OutputValue) :
    (o.insertAt address key value).insertAt address' key' value'
      = (o.insertAt address' key' value').insertAt address key value := by
  obtain ⟨write, written⟩ := insertAt_eq_insert address key value
  obtain ⟨write', written'⟩ := insertAt_eq_insert address' key' value'
  rw [written, written', written', written, Dict.find?_insert_of_ne _ o ne,
    Dict.find?_insert_of_ne _ o ne.symm]
  exact Dict.insert_comm ne _ _ o

/-! ## Writes that are taken -/

/-- Whether a write at an address is neither dropped nor replaces anything but an empty
level. -/
structure Takes (o : Outputs) (address : List String) : Prop where
  reached : o.drops address = false
  free : o.Unobstructed address

section Takes

variable {o : Outputs} {first key segment : String} {i : Nat} {rest rest' : List String}
  {value : OutputValue}

theorem Takes.nested (h : o.Takes (first :: rest)) (plain : leadingIndex? rest = none) :
    Takes (asNested (o.find? first)) rest :=
  ⟨drops_nested o first plain ▸ h.reached, h.free.nested⟩

theorem Takes.near (h : o.Takes (first :: segment :: rest))
    (position : readIndex? segment = some i) :
    i ≤ (asNestedList (o.find? first)).length + maxIndexGap := by
  by_contra far
  have dropped := drops_of_far o first rest position (Nat.lt_of_not_le far)
  rw [h.reached] at dropped
  cases dropped

theorem Takes.item (h : o.Takes (first :: segment :: rest))
    (position : readIndex? segment = some i) :
    Takes ((asNestedList (o.find? first)).getD i []) rest :=
  ⟨drops_item o first rest position (h.near position) ▸ h.reached, h.free.item position⟩

/-! ### After another write -/

variable {key' segment' : String} {j : Nat} {value' : OutputValue}

theorem Takes.nested_after (plain : leadingIndex? rest = none)
    (h : (o.insertAt (first :: rest) key value).Takes (first :: rest'))
    (plain' : leadingIndex? rest' = none) :
    Takes ((asNested (o.find? first)).insertAt rest key value) rest' := by
  have below := h.nested plain'
  rwa [insertAt_nested o first key value plain, Dict.find?_insert_self] at below

/-- Two writes into one subtree. -/
theorem insertAt_insertAt_nested (plain : leadingIndex? rest = none)
    (plain' : leadingIndex? rest' = none) :
    (o.insertAt (first :: rest) key value).insertAt (first :: rest') key' value'
      = o.insert first (.nested
          (((asNested (o.find? first)).insertAt rest key value).insertAt rest' key' value')) := by
  rw [insertAt_nested _ first key' value' plain', insertAt_nested o first key value plain,
    Dict.find?_insert_self, Dict.insert_insert]
  rfl

theorem Takes.item_after (h : o.Takes (first :: segment :: rest))
    (position : readIndex? segment = some i)
    (h' : (o.insertAt (first :: segment :: rest) key value).Takes (first :: segment' :: rest'))
    (position' : readIndex? segment' = some j) :
    let items := asNestedList (o.find? first)
    Takes ((setItem items i ((items.getD i []).insertAt rest key value)).getD j []) rest' := by
  have below := h'.item position'
  rwa [insertAt_item o first key value rest position (h.near position),
    Dict.find?_insert_self] at below

/-- Two writes into one list. -/
theorem insertAt_insertAt_item (h : o.Takes (first :: segment :: rest))
    (position : readIndex? segment = some i)
    (h' : (o.insertAt (first :: segment :: rest) key value).Takes (first :: segment' :: rest'))
    (position' : readIndex? segment' = some j) :
    let items := asNestedList (o.find? first)
    let items' := setItem items i ((items.getD i []).insertAt rest key value)
    (o.insertAt (first :: segment :: rest) key value).insertAt
        (first :: segment' :: rest') key' value'
      = o.insert first (.nestedList (setItem items' j
          ((items'.getD j []).insertAt rest' key' value'))) := by
  have near := h'.near position'
  rw [insertAt_item o first key value rest position (h.near position)] at near ⊢
  rw [insertAt_item _ first key' value' rest' position' near, Dict.find?_insert_self,
    Dict.insert_insert]
  rfl

/-- After a write, a second one with the same first key finds the shape of the first. -/
theorem Takes.same_shape (h : o.Takes (first :: rest))
    (h' : (o.insertAt (first :: rest) key value).Takes (first :: rest')) :
    leadingIndex? rest = none ↔ leadingIndex? rest' = none := by
  by_cases plain : leadingIndex? rest = none
  · have level := h'.free.head (by rw [insertAt_nested o first key value plain,
      Dict.find?_insert_self])
    rcases level with fits | empty | empty
    · exact iff_of_true plain fits
    · exact absurd (OutputValue.nested.inj empty) (insertAt_ne_nil _ _ _ _)
    · cases empty
  · obtain ⟨segment, i, rest, rfl, position⟩ := exists_cons_of_leadingIndex? plain
    have level := h'.free.head (by rw [insertAt_item o first key value rest position
      (h.near position), Dict.find?_insert_self])
    rcases level with fits | empty | empty
    · exact iff_of_false plain fits
    · cases empty
    · exact absurd (OutputValue.nestedList.inj empty) (setItem_ne_nil _ _ _)

end Takes

/-! ## Two writes -/

/-- Two paths that are apart begin with different keys or both go on behind the same one. -/
theorem Apart.heads {o : Outputs} {address address' : List String} {key key' : String}
    (h : o.Apart (address ++ [key]) (address' ++ [key'])) :
    address.headD key ≠ address'.headD key' ∨
      ∃ first, (∃ rest, address = first :: rest) ∧ ∃ rest', address' = first :: rest' := by
  by_cases same : address.headD key = address'.headD key'
  · right
    cases address with
    | nil =>
        obtain rfl : key = address'.headD key' := same
        cases address' with
        | nil => exact h.not_singleton.elim
        | cons first' rest' => exact h.symm.not_singleton.elim
    | cons first rest =>
        cases address' with
        | nil =>
            obtain rfl : first = key' := same
            exact h.not_singleton.elim
        | cons first' rest' =>
            obtain rfl : first = first' := same
            exact ⟨first, ⟨rest, rfl⟩, rest', rfl⟩
  · exact .inl same

/-- Two writes whose paths are apart may be made in any order, if neither of them is dropped
or replaces a value in either order, empty levels apart.  The trees are equal, with all
that the writes create on their ways. -/
theorem insertAt_comm_of_apart {o : Outputs} {address address' : List String}
    {key key' : String} (value value' : OutputValue)
    (apart : Apart ((o.insertAt address key value).insertAt address' key' value')
      (address ++ [key]) (address' ++ [key']))
    (first : o.Takes address) (second : (o.insertAt address key value).Takes address')
    (first' : o.Takes address') (second' : (o.insertAt address' key' value').Takes address) :
    (o.insertAt address key value).insertAt address' key' value'
      = (o.insertAt address' key' value').insertAt address key value := by
  induction address using Address.induction generalizing o address' with
  | nil =>
      obtain others | ⟨_, ⟨_, none⟩, -⟩ := apart.heads
      · exact insertAt_comm_of_headD_ne others o value value'
      · cases none
  | nested next rest plain ih =>
      obtain others | ⟨_, ⟨_, ⟨⟩⟩, rest', rfl⟩ := apart.heads
      · exact insertAt_comm_of_headD_ne others o value value'
      · -- A level of another shape would be replaced, so both writes need the same one.
        have plain' : leadingIndex? rest' = none := (first.same_shape second).1 plain
        have below := second.nested_after plain plain'
        have below' := second'.nested_after plain' plain
        rw [insertAt_insertAt_nested plain plain'] at apart ⊢
        rw [insertAt_insertAt_nested plain' plain]
        rw [ih (apart_insert_nested.1 apart) (first.nested plain) below
          (first'.nested plain') below']
  | item next segment i rest position ih =>
      obtain others | ⟨_, ⟨_, ⟨⟩⟩, rest', rfl⟩ := apart.heads
      · exact insertAt_comm_of_headD_ne others o value value'
      · obtain ⟨segment', j, rest', rfl, position'⟩ := exists_cons_of_leadingIndex?
          (mt (first.same_shape second).2 (leadingIndex?_ne_none position rest))
        have below := first.item_after position second position'
        have below' := first'.item_after position' second' position
        rw [insertAt_insertAt_item first position second position'] at apart ⊢
        rw [insertAt_insertAt_item first' position' second' position]
        by_cases shared : j = i
        · subst shared
          have apartBelow := (apart_insert_item position position').1 apart
          simp only [getD_setItem, if_true, setItem_setItem] at apartBelow below below' ⊢
          rw [ih apartBelow (first.item position) below (first'.item position') below']
        · rw [getD_setItem, getD_setItem, if_neg shared, if_neg (Ne.symm shared),
            setItem_comm _ _ _ (Ne.symm shared)]

/-- Two writes that fill up the list of a chat to different lengths, one of them within a
subtree of its entry and under a key that looks like a position. -/
theorem insertAt_comm_of_apart_of_two_lengths :
    let o : Outputs := [("chat", .nestedList [[("name", .text "Ada")]])]
    let address := ["chat", "3"]
    let address' := ["chat", "+05", "notes"]
    let o₁ := o.insertAt address "answer" (.text "yes")
    let o₂ := o.insertAt address' "1" (.text "brief")
    o₁.insertAt address' "1" (.text "brief") = o₂.insertAt address "answer" (.text "yes") ∧
      Apart (o₁.insertAt address' "1" (.text "brief")) (address ++ ["answer"]) (address' ++ ["1"]) ∧
      o.Takes address ∧ o₁.Takes address' ∧ o.Takes address' ∧ o₂.Takes address := by
  intro o address address' o₁ o₂
  have apart : Apart (o₁.insertAt address' "1" (.text "brief")) (address ++ ["answer"])
      (address' ++ ["1"]) := by decide +kernel
  have first : o.Takes address := ⟨by decide +kernel, by decide +kernel⟩
  have second : o₁.Takes address' := ⟨by decide +kernel, by decide +kernel⟩
  have first' : o.Takes address' := ⟨by decide +kernel, by decide +kernel⟩
  have second' : o₂.Takes address := ⟨by decide +kernel, by decide +kernel⟩
  exact ⟨insertAt_comm_of_apart _ _ apart first second first' second', apart, first, second,
    first', second'⟩

end Outputs

end PromptStream
