import PromptStream.Proofs.Outputs.Write

/-!
# What a dropped write leaves behind

A write finds out only on its way that a position lies too far out.  By then it
has created the levels above, and a value of another shape that stood on its way is
gone.  So a write that is dropped keeps everything (`Keeps`) exactly when nothing
of another shape stands on its way, empty levels apart (`Unobstructed`,
`keeps_insertAt_iff`).

Both directions follow the levels of the address.  What stands at the first key is
either a level that the write goes into, and then the rest happens below it, or it
is replaced.
-/

namespace PromptStream

namespace OutputValue

/-- Whether a value is a result and no level. -/
def IsResult : OutputValue → Prop
  | .text _ => True
  | .textList _ => True
  | .nested _ => False
  | .nestedList _ => False

/-- Whether a value is a level of the shape that the rest of an address needs. -/
def Fits (after : List String) : OutputValue → Prop
  | .nested _ => leadingIndex? after = none
  | .nestedList _ => leadingIndex? after ≠ none
  | _ => False

/-- Whether a value is a level that holds nothing. -/
def IsEmpty (v : OutputValue) : Prop := v = .nested [] ∨ v = .nestedList []

instance (after : List String) : (v : OutputValue) → Decidable (v.Fits after)
  | .nested _ => inferInstanceAs (Decidable (leadingIndex? after = none))
  | .nestedList _ => inferInstanceAs (Decidable (leadingIndex? after ≠ none))
  | .text _ => inferInstanceAs (Decidable False)
  | .textList _ => inferInstanceAs (Decidable False)

instance : (v : OutputValue) → Decidable v.IsEmpty
  | .nested [] => isTrue (.inl rfl)
  | .nestedList [] => isTrue (.inr rfl)
  | .nested (_ :: _) => isFalse fun | .inl h | .inr h => nomatch h
  | .nestedList (_ :: _) => isFalse fun | .inl h | .inr h => nomatch h
  | .text _ => isFalse fun | .inl h | .inr h => nomatch h
  | .textList _ => isFalse fun | .inl h | .inr h => nomatch h

/-- Whether what is found in place of a value still has all that the value had: each
entry of a level, and a result as it was. -/
def KeptIn (found : Option OutputValue) : OutputValue → Prop
  | .nested entries => ∀ key, (Dict.find? key entries).isSome →
      ∃ entries', found = some (.nested entries') ∧ (Dict.find? key entries').isSome
  | .nestedList items => ∀ i < items.length,
      ∃ items', found = some (.nestedList items') ∧ i < items'.length
  | result => found = some result

end OutputValue

namespace Outputs

open OutputValue (asNested asNestedList)

/-- Whether nothing is lost between two trees: results stay where they are, and the
values along an address lose no entry. -/
structure Keeps (o o' : Outputs) (address : List String) : Prop where
  results : ∀ path v, v.IsResult → o.lookup? path = some v → o'.lookup? path = some v
  levels : ∀ before after v, address = before ++ after → o.lookup? before = some v →
    v.KeptIn (o'.lookup? before)

/-- Whether every value on the way of a write has the shape that is needed there, or
is an empty level. -/
def Unobstructed (o : Outputs) (address : List String) : Prop :=
  ∀ before after v, address = before ++ after → o.lookup? before = some v →
    v.Fits after ∨ v.IsEmpty

/-- What stands on the way of a write is found at the beginnings of its address. -/
theorem unobstructed_iff {o : Outputs} {address : List String} :
    o.Unobstructed address ↔ ∀ n ≤ address.length, ∀ v ∈ o.lookup? (address.take n),
      v.Fits (address.drop n) ∨ v.IsEmpty := by
  constructor
  · intro free n _ v found
    exact free _ _ v (List.take_append_drop n address).symm found
  · rintro free before after v rfl found
    have standsAt := free before.length (by simp) v (by rwa [List.take_left])
    rwa [List.drop_left] at standsAt

instance (o : Outputs) (address : List String) : Decidable (o.Unobstructed address) :=
  decidable_of_iff _ unobstructed_iff.symm

/-! ## Values on the way -/

section Levels

variable {o : Outputs} {key segment : String} {i : Nat} {rest path : List String}
  {u v : OutputValue}

theorem not_isResult (free : u.Fits rest ∨ u.IsEmpty) : ¬ u.IsResult := by
  rcases free with fits | rfl | rfl
  · cases u with
    | text => cases fits
    | textList => cases fits
    | nested => exact id
    | nestedList => exact id
  · exact id
  · exact id

theorem lookupIn?_of_isEmpty (empty : u.IsEmpty) (some : path ≠ []) : lookupIn? u path = none := by
  cases path with
  | nil => exact absurd rfl some
  | cons segment path =>
      rcases empty with rfl | rfl
      · rfl
      · rw [lookupIn?_nestedList]
        cases readIndex? segment <;> rfl

theorem keptIn_of_isEmpty (empty : u.IsEmpty) (found : Option OutputValue) : u.KeptIn found := by
  rcases empty with rfl | rfl
  · intro key stood
    cases stood
  · intro i inRange
    cases inRange

/-- Where a subtree is needed, a path goes on below a subtree. -/
theorem nested_of_lookup (plain : leadingIndex? rest = none) (free : u.Fits rest ∨ u.IsEmpty)
    (some : path ≠ []) (found : lookupIn? u path = .some v) :
    ∃ entries : Outputs, u = .nested entries ∧ entries.lookup? path = .some v := by
  rcases free with fits | empty
  · cases u with
    | text => cases fits
    | textList => cases fits
    | nested entries => exact ⟨entries, rfl, (lookupIn?_nested some).symm.trans found⟩
    | nestedList => exact absurd plain fits
  · rw [lookupIn?_of_isEmpty empty some] at found
    cases found

/-- Where a list is needed, a path goes on below an entry of a list. -/
theorem nestedList_of_lookup (index : leadingIndex? rest ≠ none) (free : u.Fits rest ∨ u.IsEmpty)
    (found : lookupIn? u (segment :: path) = some v) :
    ∃ items j entries, u = .nestedList items ∧ readIndex? segment = some j ∧
      items[j]? = some entries ∧ lookup? entries path = some v := by
  rcases free with fits | empty
  · cases u with
    | text => cases fits
    | textList => cases fits
    | nested => exact absurd fits index
    | nestedList items =>
        rw [lookupIn?_nestedList] at found
        obtain ⟨j, position, found⟩ := Option.bind_eq_some_iff.1 found
        obtain ⟨entries, entry, found⟩ := Option.bind_eq_some_iff.1 found
        exact ⟨items, j, entries, rfl, position, entry, found⟩
  · rw [lookupIn?_of_isEmpty empty (List.cons_ne_nil _ _)] at found
    cases found

/-- What stands below the subtree under a key stands below the key. -/
theorem lookup?_below_nested (found : (asNested (o.find? key)).lookup? path = some v) :
    o.lookup? (key :: path) = some v := by
  have some : path ≠ [] := by
    rintro rfl
    cases found
  rw [lookup?_cons]
  cases under : o.find? key with
  | none =>
      rw [under] at found
      cases path <;> cases found
  | some u =>
      rw [under] at found
      cases u with
      | nested entries => exact (lookupIn?_nested some).trans found
      | _ => cases path <;> cases found

/-- What stands below an entry of the list under a key stands below its position. -/
theorem lookup?_below_item (position : readIndex? segment = some i)
    (found : ((asNestedList (o.find? key)).getD i []).lookup? path = some v) :
    o.lookup? (key :: segment :: path) = some v := by
  rw [List.getD_eq_getElem?_getD] at found
  cases entry : (asNestedList (o.find? key))[i]? with
  | none =>
      rw [entry] at found
      cases path <;> cases found
  | some entries =>
      rw [entry] at found
      rw [lookup?_cons]
      cases under : o.find? key with
      | none =>
          rw [under] at entry
          cases entry
      | some u =>
          rw [under] at entry
          cases u with
          | nestedList items =>
              rw [Option.bind_some, lookupIn?_nestedList, position, Option.bind_some,
                show items[i]? = some entries from entry]
              exact found
          | _ => cases entry

theorem Unobstructed.head (free : o.Unobstructed (key :: rest)) (under : o.find? key = some u) :
    u.Fits rest ∨ u.IsEmpty := by
  refine free [key] rest u rfl ?_
  rw [lookup?_cons, under, Option.bind_some, lookupIn?]

theorem Unobstructed.nested (free : o.Unobstructed (key :: rest)) :
    Unobstructed (asNested (o.find? key)) rest := by
  intro before after v split found
  exact free (key :: before) after v (by rw [split]; rfl) (lookup?_below_nested found)

theorem Unobstructed.item (free : o.Unobstructed (key :: segment :: rest))
    (position : readIndex? segment = some i) :
    Unobstructed ((asNestedList (o.find? key)).getD i []) rest := by
  intro before after v split found
  exact free (key :: segment :: before) after v (by rw [split]; rfl)
    (lookup?_below_item position found)

end Levels

/-! ## What is kept -/

section Kept

variable {o : Outputs} {address : List String} {v : OutputValue} (f : Outputs → Outputs)

/-- A write that is dropped changes one entry of the tree. -/
theorem modifyAt_of_drops (dropped : o.drops address = true) :
    ∃ key value, (modifyAt f address o).1 = o.insert key value := by
  induction address using Address.induction with
  | nil => cases dropped
  | nested key rest plain _ =>
      rw [modifyAt_nested f o key plain]
      exact ⟨key, _, rfl⟩
  | item key segment i rest position _ =>
      obtain ⟨items', written, -⟩ := modifyAt_index f o key rest position
      exact ⟨key, _, written⟩

theorem isSome_find?_of_drops (dropped : o.drops address = true) {key : String}
    (stood : (o.find? key).isSome) : (Dict.find? key (modifyAt f address o).1).isSome := by
  obtain ⟨other, value, changed⟩ := modifyAt_of_drops f dropped
  rw [changed]
  by_cases same : other = key
  · rw [same, Dict.find?_insert_self]
    rfl
  · rw [Dict.find?_insert_of_ne value o same]
    exact stood

theorem leadingIndex?_ne_none {segment : String} {i : Nat} (position : readIndex? segment = some i)
    (rest : List String) : leadingIndex? (segment :: rest) ≠ none := by
  rw [leadingIndex?, List.head?_cons, Option.bind_some, position]
  exact Option.some_ne_none i

/-- A result stays where it is if nothing obstructs the write. -/
theorem lookup?_result_of_drops (dropped : o.drops address = true)
    (free : o.Unobstructed address) (result : v.IsResult) {path : List String}
    (found : o.lookup? path = some v) : lookup? (modifyAt f address o).1 path = some v := by
  induction address using Address.induction generalizing o path with
  | nil => cases dropped
  | nested key rest plain ih =>
      rw [drops_nested o key plain] at dropped
      rw [modifyAt_nested f o key plain]
      cases path with
      | nil => cases found
      | cons other path =>
          by_cases same : key = other
          · subst same
            rw [lookup?_cons] at found
            obtain ⟨u, under, inside⟩ := Option.bind_eq_some_iff.1 found
            -- A level stands at the key itself, and no result.
            have deeper : path ≠ [] := by
              rintro rfl
              cases inside
              exact not_isResult (free.head under) result
            obtain ⟨entries, rfl, below⟩ := nested_of_lookup plain (free.head under) deeper inside
            have freeBelow := free.nested
            rw [under] at dropped freeBelow ⊢
            rw [lookup?_insert_cons, lookupIn?_nested deeper]
            exact ih dropped freeBelow below
          · rw [lookup?_cons_of_ne same]
            exact found
  | item key segment i rest position ih =>
      obtain ⟨items', written, -, entriesKept⟩ := modifyAt_index f o key rest position
      rw [written]
      cases path with
      | nil => cases found
      | cons other path =>
          by_cases same : key = other
          · subst same
            rw [lookup?_cons] at found
            obtain ⟨u, under, inside⟩ := Option.bind_eq_some_iff.1 found
            cases path with
            | nil =>
                cases inside
                exact absurd result (not_isResult (free.head under))
            | cons next path =>
                have index := leadingIndex?_ne_none position rest
                obtain ⟨items, j, entries, rfl, read, entry, below⟩ :=
                  nestedList_of_lookup index (free.head under) inside
                have stands : (asNestedList (o.find? key))[j]? = some entries := by
                  rw [under]
                  exact entry
                rw [lookup?_insert_cons, lookupIn?_nestedList, read, Option.bind_some,
                  entriesKept j entries stands, Option.bind_some]
                -- Only the entry at the position is written.
                split
                next same =>
                  subst same
                  have freeBelow := free.item position
                  rw [List.getD_eq_getElem?_getD, stands] at freeBelow
                  rw [drops_of_entry o key position stands] at dropped
                  exact ih dropped freeBelow below
                next => exact below
          · rw [lookup?_cons_of_ne same]
            exact found

/-- The values along the address of an unobstructed write lose no entry. -/
theorem keptIn_of_drops (dropped : o.drops address = true) (free : o.Unobstructed address)
    {before after : List String} (split : address = before ++ after)
    (found : o.lookup? before = some v) :
    v.KeptIn (lookup? (modifyAt f address o).1 before) := by
  induction address using Address.induction generalizing o before with
  | nil => cases dropped
  | nested key rest plain ih =>
      rw [drops_nested o key plain] at dropped
      rw [modifyAt_nested f o key plain]
      cases before with
      | nil => cases found
      | cons _ before =>
          obtain ⟨rfl, splitRest⟩ := List.cons.inj split
          rw [lookup?_cons] at found
          obtain ⟨u, under, inside⟩ := Option.bind_eq_some_iff.1 found
          rw [lookup?_insert_cons]
          by_cases here : before = []
          · subst here
            cases inside
            rcases free.head under with fits | empty
            · cases v with
              | text => cases fits
              | textList => cases fits
              | nested entries =>
                  rw [under] at dropped ⊢
                  intro key stood
                  exact ⟨_, rfl, isSome_find?_of_drops f dropped stood⟩
              | nestedList => exact absurd plain fits
            · exact keptIn_of_isEmpty empty _
          · obtain ⟨entries, rfl, below⟩ := nested_of_lookup plain (free.head under) here inside
            have freeBelow := free.nested
            rw [under] at dropped freeBelow ⊢
            rw [lookupIn?_nested here]
            exact ih dropped freeBelow splitRest below
  | item key segment i rest position ih =>
      obtain ⟨items', written, length, entriesKept⟩ := modifyAt_index f o key rest position
      rw [written]
      cases before with
      | nil => cases found
      | cons _ before =>
          obtain ⟨rfl, splitRest⟩ := List.cons.inj split
          rw [lookup?_cons] at found
          obtain ⟨u, under, inside⟩ := Option.bind_eq_some_iff.1 found
          rw [lookup?_insert_cons]
          cases before with
          | nil =>
              cases inside
              rcases free.head under with fits | empty
              · cases v with
                | text => cases fits
                | textList => cases fits
                | nested => exact absurd fits (leadingIndex?_ne_none position rest)
                | nestedList items =>
                    rw [under] at length
                    intro j inRange
                    exact ⟨items', rfl, Nat.lt_of_lt_of_le inRange length⟩
              · exact keptIn_of_isEmpty empty _
          | cons _ before =>
              obtain ⟨rfl, splitBelow⟩ := List.cons.inj splitRest
              obtain ⟨items, j, entries, rfl, read, entry, below⟩ :=
                nestedList_of_lookup (leadingIndex?_ne_none position rest) (free.head under) inside
              rw [position] at read
              cases read
              have stands : (asNestedList (o.find? key))[i]? = some entries := by
                rw [under]
                exact entry
              have freeBelow := free.item position
              rw [List.getD_eq_getElem?_getD, stands] at freeBelow
              rw [drops_of_entry o key position stands] at dropped
              rw [lookupIn?_nestedList, position, Option.bind_some, entriesKept i entries stands,
                if_pos rfl]
              exact ih dropped freeBelow splitBelow below

end Kept

/-! ## What is lost -/

section Lost

variable {o entries : Outputs} {key segment : String} {i : Nat} {rest : List String}
  {f : Outputs → Outputs}

theorem Keeps.nested (h : Keeps o (modifyAt f (key :: rest) o).1 (key :: rest))
    (plain : leadingIndex? rest = none) :
    Keeps (asNested (o.find? key)) (modifyAt f rest (asNested (o.find? key))).1 rest := by
  have inside : ∀ {path : List String} {v : OutputValue},
      lookup? (asNested (o.find? key)) path = some v →
      lookup? (modifyAt f (key :: rest) o).1 (key :: path)
        = lookup? (modifyAt f rest (asNested (o.find? key))).1 path := by
    intro path v found
    rw [modifyAt_nested f o key plain, lookup?_insert_cons, lookupIn?_nested]
    rintro rfl
    cases found
  constructor
  · intro path v result found
    rw [← inside found]
    exact h.results (key :: path) v result (lookup?_below_nested found)
  · intro before after v split found
    rw [← inside found]
    exact h.levels (key :: before) after v (by rw [split]; rfl) (lookup?_below_nested found)

theorem Keeps.item
    (h : Keeps o (modifyAt f (key :: segment :: rest) o).1 (key :: segment :: rest))
    (position : readIndex? segment = some i)
    (stands : (asNestedList (o.find? key))[i]? = some entries) :
    Keeps entries (modifyAt f rest entries).1 rest := by
  obtain ⟨items', written, -, entriesKept⟩ := modifyAt_index f o key rest position
  have inside : ∀ path, lookup? (modifyAt f (key :: segment :: rest) o).1 (key :: segment :: path)
      = lookup? (modifyAt f rest entries).1 path := by
    intro path
    rw [written, lookup?_insert_cons, lookupIn?_nestedList, position, Option.bind_some,
      entriesKept i entries stands, if_pos rfl, Option.bind_some]
  have below : ∀ {path : List String} {v : OutputValue}, lookup? entries path = some v →
      o.lookup? (key :: segment :: path) = some v := by
    intro path v found
    refine lookup?_below_item position ?_
    rw [List.getD_eq_getElem?_getD, stands]
    exact found
  constructor
  · intro path v result found
    rw [← inside path]
    exact h.results _ v result (below found)
  · intro before after v split found
    rw [← inside before]
    exact h.levels (key :: segment :: before) after v (by rw [split]; rfl) (below found)

/-- A subtree in the place of a value has kept what the value had only if the value is
a subtree or holds nothing. -/
theorem fits_of_keptIn_nested {u : OutputValue} {found : Option OutputValue}
    (plain : leadingIndex? rest = none) (kept : u.KeptIn found)
    (now : ∃ entries, found = some (.nested entries)) : u.Fits rest ∨ u.IsEmpty := by
  obtain ⟨entries, rfl⟩ := now
  cases u with
  | text s => cases kept
  | textList items => cases kept
  | nested => exact .inl plain
  | nestedList items =>
      cases items with
      | nil => exact .inr (.inr rfl)
      | cons item items =>
          obtain ⟨items', same, -⟩ := kept 0 (by simp)
          cases same

/-- The same for a list. -/
theorem fits_of_keptIn_nestedList {u : OutputValue} {found : Option OutputValue}
    (index : leadingIndex? rest ≠ none) (kept : u.KeptIn found)
    (now : ∃ items, found = some (.nestedList items)) : u.Fits rest ∨ u.IsEmpty := by
  obtain ⟨items, rfl⟩ := now
  cases u with
  | text s => cases kept
  | textList items => cases kept
  | nestedList => exact .inl index
  | nested entries =>
      cases entries with
      | nil => exact .inr (.inl rfl)
      | cons entry entries =>
          obtain ⟨entries', same, -⟩ := kept entry.1 (by simp [Dict.find?])
          cases same

/-- A write that loses nothing was unobstructed. -/
theorem Keeps.unobstructed {address : List String} (h : Keeps o (modifyAt f address o).1 address) :
    o.Unobstructed address := by
  intro before after v split found
  induction address using Address.induction generalizing o before with
  | nil =>
      rw [(List.append_eq_nil_iff.1 split.symm).1] at found
      cases found
  | nested key rest plain ih =>
      cases before with
      | nil => cases found
      | cons _ before =>
          obtain ⟨rfl, splitRest⟩ := List.cons.inj split
          -- What stands at the key was kept by a subtree that stands there now.
          have head : ∀ u, o.find? key = some u → u.Fits rest ∨ u.IsEmpty := by
            intro u under
            have kept := h.levels [key] rest u rfl (by rw [lookup?_cons, under]; rfl)
            refine fits_of_keptIn_nested plain kept ?_
            rw [modifyAt_nested f o key plain, lookup?_insert_cons]
            exact ⟨_, rfl⟩
          rw [lookup?_cons] at found
          obtain ⟨u, under, inside⟩ := Option.bind_eq_some_iff.1 found
          by_cases here : before = []
          · subst here
            cases inside
            rw [show after = rest from splitRest.symm]
            exact head v under
          · obtain ⟨entries, rfl, below⟩ := nested_of_lookup plain (head u under) here inside
            have keptBelow := h.nested plain
            rw [under] at keptBelow
            exact ih keptBelow before splitRest below
  | item key segment i rest position ih =>
      cases before with
      | nil => cases found
      | cons _ before =>
          obtain ⟨rfl, splitRest⟩ := List.cons.inj split
          have index := leadingIndex?_ne_none position rest
          have head : ∀ u, o.find? key = some u → u.Fits (segment :: rest) ∨ u.IsEmpty := by
            intro u under
            have kept := h.levels [key] (segment :: rest) u rfl (by rw [lookup?_cons, under]; rfl)
            refine fits_of_keptIn_nestedList index kept ?_
            obtain ⟨items', written, -⟩ := modifyAt_index f o key rest position
            rw [written, lookup?_insert_cons]
            exact ⟨_, rfl⟩
          rw [lookup?_cons] at found
          obtain ⟨u, under, inside⟩ := Option.bind_eq_some_iff.1 found
          cases before with
          | nil =>
              cases inside
              rw [show after = segment :: rest from splitRest.symm]
              exact head v under
          | cons _ before =>
              obtain ⟨rfl, splitBelow⟩ := List.cons.inj splitRest
              obtain ⟨items, j, entries, rfl, read, entry, below⟩ :=
                nestedList_of_lookup index (head u under) inside
              rw [position] at read
              cases read
              have stands : (asNestedList (o.find? key))[i]? = some entries := by
                rw [under]
                exact entry
              exact ih (h.item position stands) before splitBelow below

end Lost

/-- A write that is dropped loses nothing, neither a result anywhere nor an entry of a
level on its way, exactly when no value of another shape that holds something stands on
its way. -/
theorem keeps_insertAt_iff {o : Outputs} {address : List String}
    (dropped : o.drops address = true) (key : String) (value : OutputValue) :
    Keeps o (o.insertAt address key value) address ↔ o.Unobstructed address := by
  refine ⟨Keeps.unobstructed, fun free => ⟨?_, ?_⟩⟩
  · intro path v result found
    exact lookup?_result_of_drops _ dropped free result found
  · intro before after v split found
    exact keptIn_of_drops _ dropped free split found

/-- A write that reaches too far into the list of another chat keeps its answer. -/
theorem keeps_insertAt_of_far_chat :
    let o : Outputs :=
      [("chat", .nestedList [[("answer", .text "yes")]]), ("name", .text "Ada")]
    o.drops ["chat", "9999"] = true ∧
      Keeps o (o.insertAt ["chat", "9999"] "answer" (.text "no")) ["chat", "9999"] ∧
      (o.insertAt ["chat", "9999"] "answer" (.text "no")).lookup? ["chat", "0", "answer"]
        = some (.text "yes") := by
  intro o
  have dropped : o.drops ["chat", "9999"] = true := by decide +kernel
  have free : o.Unobstructed ["chat", "9999"] := by
    intro before after v split found
    match before with
    | [] => cases found
    | [chat] =>
        obtain ⟨rfl, rfl⟩ := List.cons.inj split
        cases found
        exact .inl (leadingIndex?_ne_none (i := 9999) (by decide) [])
    | chat :: position :: more =>
        obtain ⟨rfl, splitRest⟩ := List.cons.inj split
        obtain ⟨rfl, splitBelow⟩ := List.cons.inj splitRest
        rw [(List.append_eq_nil_iff.1 splitBelow.symm).1] at found
        cases found
  have kept := (keeps_insertAt_iff dropped "answer" (.text "no")).2 free
  exact ⟨dropped, kept, kept.results ["chat", "0", "answer"] _ trivial rfl⟩

/-- A write that is dropped may destroy what was there before: a text and a subtree in
the place of a list are gone. -/
theorem result_lost_by_dropped_write :
    let texts : Outputs := [("chat", .text "old")]
    let trees : Outputs := [("chat", .nested [("answer", .text "old")])]
    let address := ["chat", "99999999999"]
    texts.drops address = true ∧ texts.lookup? ["chat"] = some (.text "old") ∧
      (texts.insertAt address "answer" (.text "new")).lookup? ["chat"] = some (.nestedList []) ∧
      trees.drops address = true ∧ trees.lookup? ["chat", "answer"] = some (.text "old") ∧
      (trees.insertAt address "answer" (.text "new")).lookup? ["chat", "answer"] = none := by
  intro texts trees address
  have position : readIndex? "99999999999" = some 99999999999 := by decide
  have replaced : ∀ o : Outputs, asNestedList (o.find? "chat") = [] → o.drops address = true ∧
      o.insertAt address "answer" (.text "new") = o.insert "chat" (.nestedList []) := by
    intro o noList
    have far : (asNestedList (o.find? "chat")).length + maxIndexGap < 99999999999 := by
      rw [noList]
      decide
    refine ⟨drops_of_far o "chat" [] position far, ?_⟩
    rw [insertAt, modifyAt_far _ o "chat" [] position far, noList]
  obtain ⟨textsDropped, texts'⟩ := replaced texts rfl
  obtain ⟨treesDropped, trees'⟩ := replaced trees rfl
  rw [texts', trees']
  exact ⟨textsDropped, rfl, rfl, treesDropped, rfl, rfl⟩

end Outputs

end PromptStream
