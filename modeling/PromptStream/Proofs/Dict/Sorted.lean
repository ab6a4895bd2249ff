import Mathlib.Data.String.Basic
import PromptStream.Dict

/-!
# Sorted dictionaries

A dictionary is kept in order (`Dict.Sorted`): storing a value keeps the order
(`Dict.Sorted.insert`).  So it is known from what is found under each key
(`Dict.Sorted.ext`), and from its entries (`Dict.Sorted.ofList_eq`).  Under one key the
value stored last stays (`Dict.insert_insert`), and the order in which values are stored
under two keys makes no difference (`Dict.insert_comm`).
-/

namespace PromptStream

namespace Dict

variable {α : Type} {d d' : Dict α} {key : String}

/-- Every key is below all that come after it. -/
def Sorted (d : Dict α) : Prop := d.Pairwise fun e e' => e.1 < e'.1

theorem mem_insert {value : α} {e : String × α} (mem : e ∈ insert key value d) :
    e = (key, value) ∨ e ∈ d := by
  induction d with
  | nil => exact .inl (List.mem_singleton.1 mem)
  | cons first rest ih =>
      obtain ⟨k, v⟩ := first
      unfold insert at mem
      split at mem
      next =>
        rcases List.mem_cons.1 mem with rfl | mem
        · exact .inl rfl
        · exact .inr (List.mem_cons_of_mem _ mem)
      next =>
        split at mem
        next => exact List.mem_cons.1 mem
        next =>
          rcases List.mem_cons.1 mem with rfl | mem
          · exact .inr List.mem_cons_self
          · exact (ih mem).imp id (List.mem_cons_of_mem _)

theorem Sorted.insert (h : Sorted d) (key : String) (value : α) :
    Sorted (Dict.insert key value d) := by
  induction d with
  | nil => exact List.pairwise_singleton _ _
  | cons first rest ih =>
      obtain ⟨k, v⟩ := first
      obtain ⟨above, sorted⟩ := List.pairwise_cons.1 h
      unfold Dict.insert
      split
      next same =>
        subst same
        exact List.pairwise_cons.2 ⟨above, sorted⟩
      next ne =>
        split
        next lt =>
          refine List.pairwise_cons.2 ⟨fun e mem => ?_, h⟩
          rcases List.mem_cons.1 mem with rfl | mem
          · exact lt
          · exact lt_trans lt (above e mem)
        next notLt =>
          refine List.pairwise_cons.2 ⟨fun e mem => ?_, ih sorted⟩
          rcases mem_insert mem with rfl | mem
          · exact lt_of_le_of_ne (not_lt.1 notLt) ne
          · exact above e mem

/-- Nothing is found under a key that is below all others. -/
theorem find?_eq_none (above : ∀ e ∈ d, key < e.1) : find? key d = none := by
  induction d with
  | nil => rfl
  | cons first rest ih =>
      rw [find?, if_neg (ne_of_gt (above first List.mem_cons_self))]
      exact ih fun e mem => above e (List.mem_cons_of_mem _ mem)

theorem mem_of_find? {value : α} (found : find? key d = some value) : (key, value) ∈ d := by
  induction d with
  | nil => cases found
  | cons first rest ih =>
      obtain ⟨k, v⟩ := first
      unfold find? at found
      split at found
      next same =>
        cases found
        exact same ▸ List.mem_cons_self
      next => exact List.mem_cons_of_mem _ (ih found)

theorem Sorted.ext (h : Sorted d) (h' : Sorted d')
    (same : ∀ key, find? key d = find? key d') : d = d' := by
  induction d generalizing d' with
  | nil =>
      cases d' with
      | nil => rfl
      | cons first rest => simpa [find?] using same first.1
  | cons first rest ih =>
      obtain ⟨k, v⟩ := first
      obtain ⟨above, sorted⟩ := List.pairwise_cons.1 h
      have here : find? k d' = some v := by
        rw [← same k]
        simp [find?]
      cases d' with
      | nil => cases here
      | cons first' rest' =>
          obtain ⟨k', v'⟩ := first'
          obtain ⟨above', sorted'⟩ := List.pairwise_cons.1 h'
          -- The least keys are the same: each is found in the other dictionary.
          have there : find? k' ((k, v) :: rest) = some v' := by
            rw [same k']
            simp [find?]
          have le : k' ≤ k := by
            rcases List.mem_cons.1 (mem_of_find? here) with first | mem
            · exact le_of_eq (congrArg Prod.fst first).symm
            · exact le_of_lt (above' _ mem)
          have ge : k ≤ k' := by
            rcases List.mem_cons.1 (mem_of_find? there) with first | mem
            · exact le_of_eq (congrArg Prod.fst first).symm
            · exact le_of_lt (above _ mem)
          obtain rfl := le_antisymm le ge
          obtain rfl : v' = v := by simpa [find?] using here
          refine congrArg _ (ih sorted sorted' fun key => ?_)
          by_cases least : k' = key
          · subst least
            rw [find?_eq_none above, find?_eq_none above']
          · have later := same key
            rwa [find?, find?, if_neg least, if_neg least] at later

/-! ## Storing twice -/

/-- Of two values stored under one key the later one stays. -/
theorem insert_insert (key : String) (value value' : α) (d : Dict α) :
    insert key value' (insert key value d) = insert key value' d := by
  induction d with
  | nil => simp [insert]
  | cons first rest ih =>
      obtain ⟨k, v⟩ := first
      by_cases same : k = key
      · simp [insert, same]
      · by_cases lt : key < k
        · simp [insert, same, lt]
        · simp [insert, same, lt, ih]

theorem insert_comm_of_lt {key other : String} (lt : key < other) (value value' : α) (d : Dict α) :
    insert other value' (insert key value d) = insert key value (insert other value' d) := by
  have ne : key ≠ other := ne_of_lt lt
  have notLt : ¬ other < key := not_lt_of_gt lt
  induction d with
  | nil => simp [insert, lt, ne, notLt, ne.symm]
  | cons first rest ih =>
      obtain ⟨k, v⟩ := first
      rcases lt_trichotomy k key with below | rfl | above
      · have belowOther := below.trans lt
        simp [insert, ne_of_lt below, not_lt_of_gt below, ne_of_lt belowOther,
          not_lt_of_gt belowOther, ih]
      · simp [insert, ne, notLt]
      · by_cases same : k = other
        · subst same
          simp [insert, ne, ne.symm, lt, notLt]
        · by_cases before : other < k
          · simp [insert, same, before, ne_of_gt above, above, ne, ne.symm, lt, notLt]
          · simp [insert, same, before, ne_of_gt above, above, ne, notLt]

/-- Values stored under two keys may be stored in any order. -/
theorem insert_comm {key other : String} (ne : key ≠ other) (value value' : α) (d : Dict α) :
    insert other value' (insert key value d) = insert key value (insert other value' d) := by
  rcases lt_or_gt_of_ne ne with lt | gt
  · exact insert_comm_of_lt lt value value' d
  · exact (insert_comm_of_lt gt value' value d).symm

/-! ## Dictionaries from their entries -/

/-- An entry whose key is above all others comes last. -/
theorem insert_of_above {value : α} (above : ∀ e ∈ d, e.1 < key) :
    insert key value d = d ++ [(key, value)] := by
  induction d with
  | nil => rfl
  | cons first rest ih =>
      have lt := above first List.mem_cons_self
      rw [insert, if_neg (ne_of_lt lt), if_neg (not_lt_of_gt lt),
        ih fun e mem => above e (List.mem_cons_of_mem _ mem)]
      rfl

theorem foldl_insert_of_sorted (sorted : Sorted (d ++ d')) :
    d'.foldl (fun d (k, v) => d.insert k v) d = d ++ d' := by
  induction d' generalizing d with
  | nil => exact (List.append_nil d).symm
  | cons first rest ih =>
      obtain ⟨k, v⟩ := first
      have above : ∀ e ∈ d, e.1 < k := fun e mem =>
        (List.pairwise_append.1 sorted).2.2 e mem (k, v) List.mem_cons_self
      have last : d.insert k v = d ++ [(k, v)] := insert_of_above above
      rw [List.append_cons] at sorted ⊢
      simp only [List.foldl_cons, last]
      exact ih sorted

/-- The dictionary of entries that are in order has just these entries. -/
theorem Sorted.ofList_eq (h : Sorted d) : ofList d = d := foldl_insert_of_sorted h

end Dict

end PromptStream
