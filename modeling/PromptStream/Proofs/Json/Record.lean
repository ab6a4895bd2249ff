import PromptStream.Json.Record
import PromptStream.Proofs.Json.Size

/-!
# Laws of records

The fields that are read from an object are its members with a known name
(`Record.mem_known?_iff`), and every known member is found under its name
(`Record.lookup_of_ofDocument?`).  A field is smaller than the document of its record
(`Record.size_lt_of_lookup`).
-/

namespace PromptStream

theorem Document.optional?_of_ne_null {α : Type} (read : Document → Option α) {d : Document}
    (given : d ≠ .null) : d.optional? read = (read d).map some := by
  cases d with
  | null => exact absurd rfl given
  | _ => rfl

/-- A list that is read item by item has one result for each. -/
theorem results_of_mapM {α β : Type} {f : α → Option β} {xs : List α} {ys : List β}
    (read : xs.mapM f = some ys) : ys.length = xs.length ∧ ∀ y ∈ ys, ∃ x ∈ xs, f x = some y := by
  induction xs generalizing ys with
  | nil =>
      cases read
      exact ⟨rfl, nofun⟩
  | cons x xs ih =>
      rw [List.mapM_cons] at read
      obtain ⟨y, first, read⟩ := Option.bind_eq_some_iff.1 read
      obtain ⟨later, rest, read⟩ := Option.bind_eq_some_iff.1 read
      cases read
      obtain ⟨same, each⟩ := ih rest
      refine ⟨congrArg (· + 1) same, fun z mem => ?_⟩
      rcases List.mem_cons.1 mem with rfl | mem
      · exact ⟨x, List.mem_cons_self, first⟩
      · obtain ⟨x', mem', read'⟩ := each z mem
        exact ⟨x', List.mem_cons_of_mem _ mem', read'⟩

namespace Record

variable {names : List String} {k : String} {d field : Document}

theorem mem_known?_iff {members : List (Option String × Document)}
    {fields : List (String × Document)} (read : known? names members = some fields) :
    (k, field) ∈ fields ↔ (some k, field) ∈ members ∧ k ∈ names := by
  induction members generalizing fields with
  | nil =>
      cases read
      simp
  | cons m members ih =>
      obtain ⟨key, value⟩ := m
      cases key with
      | none => cases read
      | some key =>
          rw [known?, Option.map_eq_some_iff] at read
          obtain ⟨later, read, rfl⟩ := read
          have rest := ih read
          by_cases known : key ∈ names
          · rw [if_pos known, List.mem_cons, List.mem_cons, rest]
            constructor
            · rintro (same | ⟨mem, named⟩)
              · cases same
                exact ⟨.inl rfl, known⟩
              · exact ⟨.inr mem, named⟩
            · rintro ⟨same | mem, named⟩
              · cases same
                exact .inl rfl
              · exact .inr ⟨mem, named⟩
          · rw [if_neg known, List.mem_cons, rest]
            refine ⟨fun ⟨mem, named⟩ => ⟨.inr mem, named⟩, ?_⟩
            rintro ⟨same | mem, named⟩
            · cases same
              exact absurd named known
            · exact ⟨mem, named⟩

theorem lookup_of_mem {fields : List (String × Document)} (distinct : namesDistinct fields = true)
    (mem : (k, d) ∈ fields) : fields.lookup k = some d := by
  induction fields with
  | nil => cases mem
  | cons field fields ih =>
      obtain ⟨key, value⟩ := field
      simp only [namesDistinct, Bool.and_eq_true, Bool.not_eq_true', List.any_eq_false] at distinct
      rcases List.mem_cons.1 mem with same | mem
      · cases same
        exact List.lookup_cons_self
      · have other : (k == key) = false := by
          simpa using distinct.1 _ mem
        rw [List.lookup_cons, other]
        exact ih distinct.2 mem

/-- A known member of an object is a field of the record. -/
theorem lookup_of_ofDocument? {members : List (Option String × Document)} {r : Record}
    (read : ofDocument? names (.object members) = some r) (mem : (some k, d) ∈ members)
    (known : k ∈ names) : r.fields.lookup k = some d := by
  rw [ofDocument?] at read
  split at read
  next fields found =>
    split at read
    next distinct =>
      cases read
      exact lookup_of_mem distinct ((mem_known?_iff found).2 ⟨mem, known⟩)
    next => cases read
  next => cases read

/-- A field of a record is smaller than the document that the record was read from. -/
theorem size_lt_of_lookup {r : Record} (read : ofDocument? names d = some r)
    (found : r.fields.lookup k = some field) : field.size < d.size := by
  obtain ⟨before, after, fields, -⟩ := List.lookup_eq_some_iff.1 found
  have mem : (k, field) ∈ r.fields := by simp [fields]
  cases d with
  | object members =>
      rw [ofDocument?] at read
      split at read
      next known =>
        rw [Option.ite_none_right_eq_some] at read
        obtain ⟨-, same⟩ := read
        cases same
        have small := Document.size_le_membersSize ((mem_known?_iff known).1 mem).1
        rw [Document.size]
        omega
      next => cases read
  | array items =>
      rw [ofDocument?, Option.ite_none_right_eq_some] at read
      obtain ⟨-, same⟩ := read
      cases same
      have small := Document.size_le_itemsSize (List.of_mem_zip mem).2
      rw [Document.size]
      omega
  | _ => cases read

end Record

end PromptStream
