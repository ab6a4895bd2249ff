/-!
# Sorted dictionaries

A dictionary is an association list in increasing order of its keys, each key
once.  Keys compare by code point, which for UTF-8 is also the order of bytes.
Outputs, loop statuses, queues and JSON objects are dictionaries, so iterating
over one gives the same order on every run.
-/

namespace PromptStream

/-- Entries in increasing order of their keys. -/
abbrev Dict (α : Type) := List (String × α)

namespace Dict

variable {α : Type}

/-- The value under a key. -/
def find? (key : String) : Dict α → Option α
  | [] => none
  | (k, v) :: rest => if k = key then some v else find? key rest

/-- Stores a value under a key, replacing the one before. -/
def insert (key : String) (value : α) : Dict α → Dict α
  | [] => [(key, value)]
  | (k, v) :: rest =>
      if k = key then (key, value) :: rest
      else if key < k then (key, value) :: (k, v) :: rest
      else (k, v) :: insert key value rest

/-- The dictionary of some entries, the last one of a key winning. -/
def ofList (entries : List (String × α)) : Dict α :=
  entries.foldl (fun d (k, v) => d.insert k v) []

theorem find?_insert_self (key : String) (value : α) (d : Dict α) :
    find? key (insert key value d) = some value := by
  induction d with
  | nil => simp [insert, find?]
  | cons e rest ih =>
      obtain ⟨k, v⟩ := e
      by_cases h : k = key
      · simp [insert, find?, h]
      · by_cases hlt : key < k
        · simp [insert, find?, h, hlt]
        · simp [insert, find?, h, hlt, ih]

theorem find?_insert_of_ne {key other : String} (value : α) (d : Dict α) (h : key ≠ other) :
    find? other (insert key value d) = find? other d := by
  induction d with
  | nil => simp [insert, find?, h]
  | cons e rest ih =>
      obtain ⟨k, v⟩ := e
      by_cases hk : k = key
      · simp [insert, find?, hk, h]
      · by_cases hlt : key < k
        · simp [insert, find?, hk, hlt, h]
        · simp [insert, find?, hk, hlt, ih]

end Dict

end PromptStream
