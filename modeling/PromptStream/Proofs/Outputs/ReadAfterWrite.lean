import PromptStream.Proofs.Outputs.DroppedWrite
import PromptStream.Proofs.Text.Index

/-!
# Reading after a write

A write changes what is found under its own path, and nothing else.

Under its own path the value is found exactly if no position on the way lies too far out;
a write that is dropped takes nothing of its value into the tree (`modifyAt_fst_of_drops`).

Every other path finds what it found before (`lookup?_insertAt_of_apart`).  Which paths are
others depends on the tree: below a list a segment counts as the position that it spells,
everywhere else as a text (`segments`).  The write may fill up a list, but the subtrees
that it adds are empty and no path finds anything in them.
-/

namespace PromptStream

namespace Outputs

open OutputValue (asNested asNestedList)

/-! ## The path of the write -/

/-- A write that is dropped leaves the same tree whatever it would have done. -/
theorem modifyAt_fst_of_drops {o : Outputs} {address : List String}
    (dropped : o.drops address = true) (f g : Outputs → Outputs) :
    (modifyAt f address o).1 = (modifyAt g address o).1 := by
  induction address using Address.induction generalizing o with
  | nil => cases dropped
  | nested key rest plain ih =>
      rw [drops_nested o key plain] at dropped
      rw [modifyAt_nested f o key plain, modifyAt_nested g o key plain, ih dropped]
  | item key segment i rest position ih =>
      by_cases far : (asNestedList (o.find? key)).length + maxIndexGap < i
      · rw [modifyAt_far f o key rest position far, modifyAt_far g o key rest position far]
      · have near := Nat.le_of_not_lt far
        rw [drops_item o key rest position near] at dropped
        rw [modifyAt_item f o key rest position near, modifyAt_item g o key rest position near,
          ih dropped]

theorem exists_ne (value : OutputValue) : ∃ value' : OutputValue, value' ≠ value := by
  cases value with
  | text s => exact ⟨.textList [], nofun⟩
  | _ => exact ⟨.text "", nofun⟩

/-- A write is dropped exactly if, on the way down its address, a segment that is taken as
a position exceeds the length of the list there by more than the gap.  Then, and only then,
the tree does not depend on the key and the value; in all other cases the value is found
under the full path.  A segment is a position exactly if it spells one that fits, with a
plus sign and leading zeros or without. -/
theorem insertAt_dropped_iff_farOut (o : Outputs) (address : List String) (key : String)
    (value : OutputValue) :
    (o.drops address = true ↔ o.FarOut address) ∧
      ((∀ key' value', o.insertAt address key' value' = o.insertAt address key value)
        ↔ o.FarOut address) ∧
      ((o.insertAt address key value).lookup? (address ++ [key]) = some value
        ↔ ¬ o.FarOut address) ∧
      ∀ segment i, readIndex? segment = some i ↔ i < indexBound ∧ SpellsIndex segment i := by
  have reads : ∀ value, (o.insertAt address key value).lookup? (address ++ [key]) = some value
      ↔ ¬ o.FarOut address := by
    intro value
    rw [lookup?_insertAt, ← drops_iff_farOut]
    cases o.drops address <;> simp
  refine ⟨drops_iff_farOut, ⟨fun same => ?_, fun farOut key' value' => ?_⟩, reads value,
    fun segment i => readIndex?_eq_some_iff⟩
  · by_contra near
    obtain ⟨value', other⟩ := exists_ne value
    have found := (reads value').2 near
    rw [same key value', (reads value).2 near] at found
    exact other (Option.some.inj found).symm
  · exact modifyAt_fst_of_drops (drops_iff_farOut.2 farOut) _ _

/-- A number that does not fit is a key, also where a list could stand. -/
example :
    (insertAt [] ["chat", "18446744073709551616"] "answer" (.text "yes")).lookup?
      ["chat", "18446744073709551616", "answer"] = some (.text "yes") := rfl

/-! ## One level of a write -/

/-- An address that begins with a position. -/
theorem exists_cons_of_leadingIndex? {address : List String}
    (index : leadingIndex? address ≠ none) :
    ∃ segment i rest, address = segment :: rest ∧ readIndex? segment = some i := by
  cases address with
  | nil => exact absurd rfl index
  | cons segment rest =>
      obtain ⟨i, position⟩ := Option.ne_none_iff_exists'.1 index
      exact ⟨segment, i, rest, rfl, position⟩

/-- A list of subtrees with an entry put at a position, filled up as far as it takes. -/
def setItem (items : List Outputs) (i : Nat) (entry : Outputs) : List Outputs :=
  (padTo (i + 1) items).set i entry

theorem getD_setItem (items : List Outputs) (i : Nat) (entry : Outputs) (j : Nat) :
    (setItem items i entry).getD j [] = if j = i then entry else items.getD j [] := by
  rw [setItem]
  split
  next same =>
    rw [same, List.getD_eq_getElem?_getD, getElem?_padTo_set]
    rfl
  next other =>
    rw [← getD_padTo (i + 1) items, List.getD_eq_getElem?_getD,
      List.getElem?_set_ne (Ne.symm other), List.getD_eq_getElem?_getD]

section Levels

variable (o : Outputs) (first : String) (key : String) (value : OutputValue)

theorem insertAt_nested {rest : List String} (plain : leadingIndex? rest = none) :
    o.insertAt (first :: rest) key value
      = o.insert first (.nested ((asNested (o.find? first)).insertAt rest key value)) := by
  rw [insertAt, modifyAt_nested _ o first plain]
  rfl

theorem insertAt_far {segment : String} {i : Nat} (rest : List String)
    (position : readIndex? segment = some i)
    (far : (asNestedList (o.find? first)).length + maxIndexGap < i) :
    o.insertAt (first :: segment :: rest) key value
      = o.insert first (.nestedList (asNestedList (o.find? first))) := by
  rw [insertAt, modifyAt_far _ o first rest position far]

theorem insertAt_item {segment : String} {i : Nat} (rest : List String)
    (position : readIndex? segment = some i)
    (near : i ≤ (asNestedList (o.find? first)).length + maxIndexGap) :
    o.insertAt (first :: segment :: rest) key value
      = o.insert first (.nestedList (setItem (asNestedList (o.find? first)) i
          (insertAt ((asNestedList (o.find? first)).getD i []) rest key value))) := by
  rw [insertAt, modifyAt_item _ o first rest position near]
  rfl

end Levels

theorem insertAt_cons (first : String) (rest : List String) (key : String) (value : OutputValue) :
    ∃ write : Option OutputValue → OutputValue, ∀ o : Outputs,
      o.insertAt (first :: rest) key value = o.insert first (write (o.find? first)) := by
  by_cases plain : leadingIndex? rest = none
  · exact ⟨fun u => .nested ((asNested u).insertAt rest key value),
      fun o => insertAt_nested o first key value plain⟩
  · obtain ⟨segment, i, rest, rfl, position⟩ := exists_cons_of_leadingIndex? plain
    refine ⟨fun u =>
      if (asNestedList u).length + maxIndexGap < i then .nestedList (asNestedList u)
      else .nestedList (setItem (asNestedList u) i
        (insertAt ((asNestedList u).getD i []) rest key value)), fun o => ?_⟩
    beta_reduce
    split
    next far => exact insertAt_far o first key value rest position far
    next near => exact insertAt_item o first key value rest position (Nat.le_of_not_lt near)

/-- A write changes the entry under the first key of its path, and what it leaves there
depends on nothing but what stood there. -/
theorem insertAt_eq_insert (address : List String) (key : String) (value : OutputValue) :
    ∃ write : Option OutputValue → OutputValue, ∀ o : Outputs,
      o.insertAt address key value
        = o.insert (address.headD key) (write (o.find? (address.headD key))) := by
  cases address with
  | nil => exact ⟨fun _ => value, fun _ => rfl⟩
  | cons first rest => exact insertAt_cons first rest key value

/-! ## Paths as a tree reads them -/

/-- A segment of a path as a tree reads it. -/
inductive Segment where
  /-- The key of an entry. -/
  | key (s : String)
  /-- The position of a subtree in a list. -/
  | position (i : Nat)
  deriving DecidableEq, Repr

/-- The segments of a path as a tree reads them.  Behind a key under which a list stands, a
segment that reads as a position is one; any other segment is a key. -/
def segments (o : Outputs) : List String → List Segment
  | [] => []
  | [key] => [.key key]
  | key :: segment :: rest =>
      match o.find? key, readIndex? segment with
      | some (.nestedList items), some i =>
          .key key :: .position i :: segments (items.getD i []) rest
      | v, _ => .key key :: segments (asNested v) (segment :: rest)

/-- Neither of two paths leads to the other or below it, as a tree reads them. -/
def Apart (o : Outputs) (path path' : List String) : Prop :=
  ¬ o.segments path <+: o.segments path' ∧ ¬ o.segments path' <+: o.segments path

instance (o : Outputs) (path path' : List String) : Decidable (o.Apart path path') :=
  inferInstanceAs (Decidable (_ ∧ _))

section Segments

variable {o : Outputs} {key segment : String} {i : Nat} {path path' : List String}

theorem segments_singleton_isPrefix (o : Outputs) (key : String) (path : List String) :
    o.segments [key] <+: o.segments (key :: path) := by
  have first : ∃ more, o.segments (key :: path) = .key key :: more := by
    cases path with
    | nil => exact ⟨[], rfl⟩
    | cons segment rest =>
        unfold segments
        split <;> exact ⟨_, rfl⟩
  obtain ⟨more, whole⟩ := first
  rw [whole]
  exact ⟨more, rfl⟩

theorem segments_insert_nested (o : Outputs) (key : String) (entries : Outputs)
    (path : List String) :
    segments (o.insert key (.nested entries)) (key :: path)
      = .key key :: entries.segments path := by
  cases path with
  | nil => rfl
  | cons segment rest => simp [segments, Dict.find?_insert_self, OutputValue.asNested]

theorem segments_insert_item (o : Outputs) (key : String) (items : List Outputs)
    (path : List String) (position : readIndex? segment = some i) :
    segments (o.insert key (.nestedList items)) (key :: segment :: path)
      = .key key :: .position i :: segments (items.getD i []) path := by
  simp [segments, Dict.find?_insert_self, position]

theorem Apart.symm (h : o.Apart path path') : o.Apart path' path := ⟨h.2, h.1⟩

/-- No path is apart from a key of its own. -/
theorem Apart.not_singleton (h : o.Apart (key :: path) [key]) : False :=
  h.2 (segments_singleton_isPrefix o key path)

/-- A path that is apart begins with another key or goes on behind the same one. -/
theorem Apart.exists_cons (h : o.Apart (key :: path) path') :
    ∃ other rest, path' = other :: rest ∧ (key ≠ other ∨ key = other ∧ rest ≠ []) := by
  cases path' with
  | nil => exact absurd List.nil_prefix h.2
  | cons other rest =>
      refine ⟨other, rest, rfl, (em (key = other)).symm.imp_right fun same => ⟨same, ?_⟩⟩
      rintro rfl
      subst same
      exact h.not_singleton

theorem apart_insert_nested {entries : Outputs} :
    Apart (o.insert key (.nested entries)) (key :: path) (key :: path')
      ↔ entries.Apart path path' := by
  simp only [Apart, segments_insert_nested, List.cons_prefix_cons, true_and]

theorem apart_insert_item {items : List Outputs} {segment' : String}
    (position : readIndex? segment = some i) (position' : readIndex? segment' = some i) :
    Apart (o.insert key (.nestedList items)) (key :: segment :: path) (key :: segment' :: path')
      ↔ Apart (items.getD i []) path path' := by
  simp only [Apart, segments_insert_item o key items _ position,
    segments_insert_item o key items _ position', List.cons_prefix_cons, true_and]

end Segments

/-! ## All other paths -/

section Lookups

variable {o : Outputs} {key : String} {rest : List String}

@[simp] theorem lookup?_empty (path : List String) : lookup? [] path = none := by
  cases path <;> rfl

/-- Nothing is found past the end of a list, as in an empty subtree. -/
theorem lookupIn?_nestedList_getD (items : List Outputs) (segment : String) (rest : List String) :
    lookupIn? (.nestedList items) (segment :: rest)
      = (readIndex? segment).bind fun i => lookup? (items.getD i []) rest := by
  rw [lookupIn?_nestedList]
  refine congrArg _ (funext fun i => ?_)
  rw [List.getD_eq_getElem?_getD]
  cases items[i]? with
  | none => exact (lookup?_empty rest).symm
  | some entries => rfl

/-- Empty subtrees at the end of a list make no difference to what a path finds. -/
theorem lookupIn?_padTo (length : Nat) (items : List Outputs) (segment : String)
    (rest : List String) :
    lookupIn? (.nestedList (padTo length items)) (segment :: rest)
      = lookupIn? (.nestedList items) (segment :: rest) := by
  simp only [lookupIn?_nestedList_getD, getD_padTo]

/-- The level that a write goes into, of the shape that the rest of its address needs. -/
def levelFor (after : List String) (v : Option OutputValue) : OutputValue :=
  if leadingIndex? after = none then .nested (asNested v) else .nestedList (asNestedList v)

theorem levelFor_plain {after : List String} (plain : leadingIndex? after = none)
    (v : Option OutputValue) : levelFor after v = .nested (asNested v) := if_pos plain

theorem levelFor_index {after : List String} (index : leadingIndex? after ≠ none)
    (v : Option OutputValue) : levelFor after v = .nestedList (asNestedList v) := if_neg index

/-- Where nothing obstructs a write, a path goes on in the level that the write goes into. -/
theorem lookup?_cons_of_unobstructed (free : o.Unobstructed (key :: rest)) {path : List String}
    (deeper : path ≠ []) :
    o.lookup? (key :: path) = lookupIn? (levelFor rest (o.find? key)) path := by
  have nothing : ∀ v, asNested v = [] → asNestedList v = [] →
      lookupIn? (levelFor rest v) path = none := by
    intro v noEntries noItems
    refine lookupIn?_of_isEmpty ?_ deeper
    rw [levelFor, noEntries, noItems]
    split
    next => exact .inl rfl
    next => exact .inr rfl
  rw [lookup?_cons]
  cases under : o.find? key with
  | none => exact (nothing none rfl rfl).symm
  | some u =>
      rcases free.head under with fits | empty
      · cases u with
        | text => cases fits
        | textList => cases fits
        | nested entries =>
            rw [levelFor_plain fits]
            rfl
        | nestedList items =>
            rw [levelFor_index fits]
            rfl
      · refine (lookupIn?_of_isEmpty empty deeper).trans (Eq.symm ?_)
        rcases empty with rfl | rfl <;> exact nothing _ rfl rfl

/-- An entry that is put into a list makes no difference to paths that are apart from some
path below it, if it makes none to those that go on in the entry itself. -/
theorem lookupIn?_setItem {items : List Outputs} {entry : Outputs} {segment segment' : String}
    {i : Nat} {path : List String} (position : readIndex? segment = some i)
    (below : ∀ path, entry.Apart rest path → entry.lookup? path = lookup? (items.getD i []) path)
    (apart : Apart (o.insert key (.nestedList (setItem items i entry))) (key :: segment :: rest)
      (key :: segment' :: path)) :
    lookupIn? (.nestedList (setItem items i entry)) (segment' :: path)
      = lookupIn? (.nestedList items) (segment' :: path) := by
  rw [lookupIn?_nestedList_getD, lookupIn?_nestedList_getD]
  cases position' : readIndex? segment' with
  | none => rfl
  | some j =>
      rw [Option.bind_some, Option.bind_some, getD_setItem]
      split
      next same =>
        subst same
        have apartBelow := (apart_insert_item position position').1 apart
        rw [getD_setItem, if_pos rfl] at apartBelow
        exact below path apartBelow
      next => rfl

end Lookups

/-- A write makes no difference to any path that is apart from its own: neither by the
value that it leaves nor by the levels and the empty subtrees that it creates on its way. -/
theorem lookup?_insertAt_of_apart {o : Outputs} {address : List String}
    (free : o.Unobstructed address) (key : String) (value : OutputValue) :
    (∀ path, (o.insertAt address key value).Apart (address ++ [key]) path →
        (o.insertAt address key value).lookup? path = o.lookup? path) ∧
      ∀ length items segment rest, lookupIn? (.nestedList (padTo length items)) (segment :: rest)
        = lookupIn? (.nestedList items) (segment :: rest) := by
  refine ⟨fun path apart => ?_, lookupIn?_padTo⟩
  -- Along the address; at each level the path takes another key or goes on in the same level.
  induction address using Address.induction generalizing o path with
  | nil =>
      obtain ⟨other, path, rfl, others | ⟨rfl, -⟩⟩ := apart.exists_cons
      · exact lookup?_cons_of_ne others value path
      · exact apart.symm.not_singleton.elim
  | nested next rest plain ih =>
      rw [insertAt_nested o next key value plain] at apart ⊢
      obtain ⟨other, path, rfl, others | ⟨rfl, deeper⟩⟩ := apart.exists_cons
      · exact lookup?_cons_of_ne others _ path
      · rw [lookup?_insert_cons, lookup?_cons_of_unobstructed free deeper, levelFor_plain plain,
          lookupIn?_nested deeper, lookupIn?_nested deeper]
        exact ih free.nested path (apart_insert_nested.1 apart)
  | item next segment i rest position ih =>
      obtain ⟨other, path, rfl, others | ⟨rfl, deeper⟩⟩ := apart.exists_cons
      · obtain ⟨write, written⟩ := insertAt_cons next (segment :: rest) key value
        rw [written]
        exact lookup?_cons_of_ne others _ path
      · rw [lookup?_cons_of_unobstructed free deeper,
          levelFor_index (leadingIndex?_ne_none position rest)]
        by_cases far : (asNestedList (o.find? next)).length + maxIndexGap < i
        · -- The write ends at the list, which it leaves as it was.
          rw [insertAt_far o next key value rest position far, lookup?_insert_cons]
        · rw [insertAt_item o next key value rest position (Nat.le_of_not_lt far)] at apart ⊢
          obtain ⟨segment', path, rfl⟩ := List.exists_cons_of_ne_nil deeper
          rw [lookup?_insert_cons]
          exact lookupIn?_setItem position (ih (free.item position)) apart

/-- An answer in a list that another one fills up is found as before, however its position
is spelled, and nothing is found in between.  Another spelling of the written position is
not apart. -/
theorem lookup?_insertAt_of_apart_of_filled_list :
    let o : Outputs := [("chat", .nestedList [[("answer", .text "yes")]])]
    let o' := o.insertAt ["chat", "+3"] "answer" (.text "no")
    o.Unobstructed ["chat", "+3"] ∧
      o'.Apart (["chat", "+3"] ++ ["answer"]) ["chat", "00", "answer"] ∧
      o'.lookup? ["chat", "00", "answer"] = some (.text "yes") ∧
      o'.Apart (["chat", "+3"] ++ ["answer"]) ["chat", "2", "answer"] ∧
      o'.lookup? ["chat", "2", "answer"] = none ∧
      ¬ o'.Apart (["chat", "+3"] ++ ["answer"]) ["chat", "03", "answer"] := by
  intro o o'
  have free : o.Unobstructed ["chat", "+3"] := by decide
  have first : o'.Apart (["chat", "+3"] ++ ["answer"]) ["chat", "00", "answer"] := by
    decide +kernel
  have between : o'.Apart (["chat", "+3"] ++ ["answer"]) ["chat", "2", "answer"] := by
    decide +kernel
  obtain ⟨kept, -⟩ := lookup?_insertAt_of_apart free "answer" (.text "no")
  exact ⟨free, first, kept _ first, between, kept _ between, by decide +kernel⟩

end Outputs

end PromptStream
