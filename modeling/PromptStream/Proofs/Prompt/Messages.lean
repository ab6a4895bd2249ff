import Mathlib.Data.List.SplitBy
import PromptStream.Prompt

/-!
# Chat messages

The role groups of a prompt are its longest runs of neighbours with one role
(`Prompt.roleGroups_eq_splitBy`), so the messages of a prompt grow by one whenever a run of
elements of another role than the last one is consumed (`Prompt.messages_append`).
-/

namespace PromptStream

namespace Prompt

variable {p run : Prompt} {role : Role}

theorem roleGroups_eq_splitBy (p : Prompt) :
    p.roleGroups = p.splitBy fun e f => e.role == f.role := by
  induction p with
  | nil => rfl
  | cons e rest ih =>
      obtain ⟨joined, full, chains, apart⟩ := List.splitBy_eq_iff.1 ih.symm
      refine (List.splitBy_eq_iff.2 ?_).symm
      unfold roleGroups
      split
      next f run groups same =>
        rw [same] at joined full chains apart
        obtain ⟨chain, chains⟩ := List.forall_mem_cons.1 chains
        split
        next role =>
          refine ⟨congrArg _ joined, by simpa using full, ?_, ?_⟩
          · exact List.forall_mem_cons.2
              ⟨List.isChain_cons_cons.2 ⟨beq_iff_eq.2 role, chain⟩, chains⟩
          · rw [List.isChain_cons] at apart ⊢
            refine ⟨fun group mem => ?_, apart.2⟩
            obtain ⟨_, nonempty, differ⟩ := apart.1 group mem
            exact ⟨List.cons_ne_nil _ _, nonempty, by rwa [List.getLast_cons_cons]⟩
        next role =>
          refine ⟨congrArg _ joined, by simpa using full, ?_, ?_⟩
          · exact List.forall_mem_cons.2
              ⟨List.isChain_singleton e, List.forall_mem_cons.2 ⟨chain, chains⟩⟩
          · exact List.isChain_cons_cons.2
              ⟨⟨List.cons_ne_nil _ _, List.cons_ne_nil _ _, beq_eq_false_iff_ne.2 role⟩, apart⟩
      next groups notCons =>
        cases same : roleGroups rest with
        | nil =>
            rw [same] at joined
            subst joined
            simp
        | cons group groups =>
            cases group with
            | nil => exact absurd (same ▸ List.mem_cons_self) full
            | cons f run => exact absurd same (notCons f run groups)

theorem roleGroups_append {p q : Prompt}
    (apart : ∀ e ∈ p.getLast?, ∀ f ∈ q.head?, e.role ≠ f.role) :
    (p ++ q).roleGroups = p.roleGroups ++ q.roleGroups := by
  simp only [roleGroups_eq_splitBy]
  exact List.splitBy_append fun e last f first => beq_eq_false_iff_ne.2 (apart e last f first)

theorem roleGroups_of_role (nonempty : run ≠ []) (speaks : ∀ e ∈ run, e.role = role) :
    run.roleGroups = [run] := by
  rw [roleGroups_eq_splitBy]
  refine List.splitBy_of_isChain nonempty (List.Pairwise.isChain ?_)
  exact List.pairwise_of_forall_mem_list fun e mem f mem' =>
    beq_iff_eq.2 ((speaks e mem).trans (speaks f mem').symm)

/-- A run of elements of one role, after elements of another one, is one more message. -/
theorem messages_append (nonempty : run ≠ []) (speaks : ∀ e ∈ run, e.role = role)
    (changes : ∀ e ∈ p.getLast?, e.role ≠ role) :
    (p ++ run).messages = p.messages ++ [⟨role, text run⟩] := by
  have apart : ∀ e ∈ p.getLast?, ∀ f ∈ run.head?, e.role ≠ f.role := fun e last f first => by
    rw [speaks f (List.mem_of_mem_head? first)]
    exact changes e last
  rw [messages, roleGroups_append apart, roleGroups_of_role nonempty speaks, List.filterMap_append]
  cases run with
  | nil => exact absurd rfl nonempty
  | cons e run =>
      rw [← speaks e List.mem_cons_self]
      rfl

theorem last_concat {e : Element} (other : e.role ≠ role) :
    ∀ e' ∈ (p ++ [e]).getLast?, e'.role ≠ role := by
  intro e' last
  rw [List.getLast?_concat, Option.mem_some_iff] at last
  rwa [← last]

/-- An element of another role than the last one is one more message. -/
theorem messages_concat {e : Element} (changes : ∀ e' ∈ p.getLast?, e'.role ≠ e.role) :
    (p ++ [e]).messages = p.messages ++ [⟨e.role, e.content⟩] := by
  have speaks : ∀ e' ∈ [e], e'.role = e.role := fun e' mem => by rw [List.mem_singleton.1 mem]
  rw [messages_append (List.cons_ne_nil _ _) speaks changes]
  simp [text]

end Prompt

end PromptStream
