import Mathlib.Data.List.SplitBy

/-!
# Groups of neighbours

A list is cut into groups by a key: the key is the same on a group, and another one on the
groups before and after it.  There is only one way to do so (`groupedBy_iff`), so these are the
longest groups of neighbours with one key.
-/

namespace PromptStream

variable {α κ : Type} {key : α → κ} {l : List α} {group : List α} {groups : List (List α)}

/-- A list that is cut into groups by a key. -/
structure GroupedBy (key : α → κ) (l : List α) (groups : List (List α)) : Prop where
  joined : groups.flatten = l
  nonempty : [] ∉ groups
  same : ∀ group ∈ groups, ∀ a ∈ group, ∀ b ∈ group, key a = key b
  apart : groups.IsChain fun group next => ∀ a ∈ group, ∀ b ∈ next, key a ≠ key b

namespace GroupedBy

theorem exists_cons (h : GroupedBy key l groups) (mem : group ∈ groups) :
    ∃ a rest, group = a :: rest := by
  cases group with
  | nil => exact absurd mem h.nonempty
  | cons a rest => exact ⟨a, rest, rfl⟩

/-- The groups after the first one are those of what they hold. -/
theorem tail (h : GroupedBy key l (group :: groups)) : GroupedBy key groups.flatten groups where
  joined := rfl
  nonempty mem := h.nonempty (List.mem_cons_of_mem _ mem)
  same g mem := h.same g (List.mem_cons_of_mem _ mem)
  apart := h.apart.tail

/-- What comes after the first group begins with another key. -/
theorem head_ne (h : GroupedBy key l (group :: groups)) {a b : α} (inside : a ∈ group)
    (next : groups.flatten.head? = some b) : key a ≠ key b := by
  cases groups with
  | nil => cases next
  | cons following groups =>
      obtain ⟨c, rest, rfl⟩ := h.exists_cons (List.mem_cons_of_mem _ List.mem_cons_self)
      obtain rfl : c = b := Option.some.inj next
      exact (List.isChain_cons_cons.1 h.apart).1 a inside c List.mem_cons_self

end GroupedBy

theorem groupedBy_splitBy [BEq κ] [LawfulBEq κ] (key : α → κ) (l : List α) :
    GroupedBy key l (l.splitBy fun a b => key a == key b) := by
  obtain ⟨joined, nonempty, chains, changes⟩ := List.splitBy_eq_iff.1 (Eq.refl
    (l.splitBy fun a b => key a == key b))
  generalize l.splitBy (fun a b => key a == key b) = groups at joined nonempty chains changes
  have same : ∀ group ∈ groups, ∀ a ∈ group, ∀ b ∈ group, key a = key b := by
    intro group mem
    have chain : (group.map key).IsChain (· = ·) :=
      (List.isChain_map _).2 ((chains group mem).imp fun _ _ => beq_iff_eq.1)
    have pairs := List.isChain_iff_pairwise.1 chain
    intro a inside b inside'
    exact pairs.forall_of_forall (fun _ _ => rfl) (List.mem_map_of_mem inside)
      (List.mem_map_of_mem inside')
  refine ⟨joined.symm, nonempty, same, ?_⟩
  refine changes.imp_of_mem_imp ?_
  rintro group next mem mem' ⟨some, some', differ⟩ a inside b inside'
  rw [same group mem a inside _ (List.getLast_mem some),
    same next mem' b inside' _ (List.head_mem some')]
  exact beq_eq_false_iff_ne.1 differ

/-- There is one way to cut a list into groups by a key. -/
theorem groupedBy_iff [BEq κ] [LawfulBEq κ] :
    GroupedBy key l groups ↔ groups = l.splitBy fun a b => key a == key b := by
  constructor
  · intro h
    refine (List.splitBy_eq_iff.2 ⟨h.joined.symm, h.nonempty, fun group mem => ?_, ?_⟩).symm
    · refine List.Pairwise.isChain (List.pairwise_of_forall_mem_list ?_)
      exact fun a inside b inside' => beq_iff_eq.2 (h.same group mem a inside b inside')
    · refine h.apart.imp_of_mem_imp fun group next mem mem' apart => ?_
      obtain ⟨a, rest, rfl⟩ := h.exists_cons mem
      obtain ⟨b, rest', rfl⟩ := h.exists_cons mem'
      refine ⟨List.cons_ne_nil _ _, List.cons_ne_nil _ _, beq_eq_false_iff_ne.2 ?_⟩
      exact apart _ (List.getLast_mem _) _ (List.head_mem _)
  · rintro rfl
    exact groupedBy_splitBy key l

end PromptStream
