import PromptStream.Proofs.Text.Literal

/-!
# Line endings

A literal is normalized when its template is built, while its lines still end as they do in the
source file, and a carriage return is a blank like any other there.  Only when it is emitted are
the carriage returns before newlines dropped.

For the text that is emitted this makes no difference (`unixLines_normalizeLiteral_dosLines`).
The scan for indentation passes over the carriage returns in a run of blanks after a newline
together with that run, and the one before the newline that opens such a run is dropped in the
end.  What the literal is in between does depend on its line endings.
-/

namespace PromptStream

/-- Puts a carriage return before every newline. -/
def addReturns (cs : List Char) : List Char :=
  cs.flatMap fun c => if c = '\n' then ['\r', '\n'] else [c]

/-- A text each of whose lines ends in a carriage return and a newline. -/
def dosLines (s : String) : String := String.ofList (addReturns s.toList)

variable {cs : List Char} {s : String}

theorem addReturns_newline (cs : List Char) :
    addReturns ('\n' :: cs) = '\r' :: '\n' :: addReturns cs := rfl

theorem addReturns_cons {c : Char} (other : c ≠ '\n') (cs : List Char) :
    addReturns (c :: cs) = c :: addReturns cs := by
  rw [addReturns, List.flatMap_cons, if_neg other]
  rfl

theorem dropReturns_cons {c : Char} (other : c ≠ '\r') (cs : List Char) :
    dropReturns (c :: cs) = c :: dropReturns cs := by
  rw [dropReturns]
  rintro rest rfl
  exact absurd rfl other

/-- In a run of blanks after a newline the carriage returns are passed over with the rest; outside
of it they are dropped with the newlines that they belong to. -/
theorem dropReturns_collapseIndent_addReturns (inRun : Bool) (plain : '\r' ∉ cs) :
    dropReturns (collapseIndent inRun (addReturns cs)) = collapseIndent inRun cs := by
  induction cs generalizing inRun with
  | nil => cases inRun <;> rfl
  | cons c cs ih =>
      obtain ⟨notReturn, later⟩ := not_or.1 (mt List.mem_cons.2 plain)
      have kept : c ≠ '\r' := Ne.symm notReturn
      by_cases line : c = '\n'
      · subst line
        rw [addReturns_newline]
        cases inRun with
        | true => exact ih true later
        | false => exact congrArg ('\n' :: ·) (ih true later)
      · rw [addReturns_cons line]
        cases inRun with
        | false =>
            rw [collapseIndent, collapseIndent, dropReturns_cons kept, ih _ later]
        | true =>
            rw [collapseIndent, collapseIndent]
            split
            next => exact ih true later
            next => rw [dropReturns_cons kept, ih false later]

theorem not_mem_collapseIndent {c : Char} (inRun : Bool) (other : c ∉ cs) :
    c ∉ collapseIndent inRun cs := by
  fun_induction collapseIndent inRun cs with
  | case1 => exact List.not_mem_nil
  | case2 d cs blank ih => exact ih (mt (List.mem_cons_of_mem d) other)
  | case3 d cs visible ih =>
      obtain ⟨first, other⟩ := not_or.1 (mt List.mem_cons.2 other)
      exact List.not_mem_cons_of_ne_of_not_mem first (ih other)
  | case4 d cs ih =>
      obtain ⟨first, other⟩ := not_or.1 (mt List.mem_cons.2 other)
      exact List.not_mem_cons_of_ne_of_not_mem first (ih other)

/-- A literal without carriage returns is emitted as it is normalized. -/
theorem unixLines_normalizeLiteral (plain : '\r' ∉ s.toList) :
    unixLines (normalizeLiteral s) = normalizeLiteral s := by
  have none : ¬ returnNewline <:+: collapseIndent false s.toList := fun returns =>
    not_mem_collapseIndent false plain (returns.subset List.mem_cons_self)
  rw [unixLines, normalizeLiteral, String.toList_ofList, dropReturns_eq_self none]

theorem unixLines_normalizeLiteral_dosLines (plain : '\r' ∉ s.toList) :
    unixLines (normalizeLiteral (dosLines s)) = unixLines (normalizeLiteral s) := by
  rw [unixLines_normalizeLiteral plain, unixLines, dosLines, normalizeLiteral, normalizeLiteral,
    String.toList_ofList, String.toList_ofList, dropReturns_collapseIndent_addReturns false plain]

theorem addReturns_eq_nil_iff : addReturns cs = [] ↔ cs = [] := by
  cases cs with
  | nil => exact iff_of_true rfl rfl
  | cons c cs =>
      refine iff_of_false ?_ (List.cons_ne_nil _ _)
      by_cases line : c = '\n'
      · rw [line, addReturns_newline]
        exact List.cons_ne_nil _ _
      · rw [addReturns_cons line]
        exact List.cons_ne_nil _ _

/-- A literal is empty however its lines end. -/
theorem isEmpty_normalizeLiteral_dosLines (s : String) :
    (normalizeLiteral (dosLines s)).isEmpty = (normalizeLiteral s).isEmpty := by
  rw [isEmpty_normalizeLiteral, isEmpty_normalizeLiteral, Bool.eq_iff_iff, String.isEmpty_iff,
    String.isEmpty_iff, ← String.toList_eq_nil_iff, ← String.toList_eq_nil_iff, dosLines,
    String.toList_ofList, addReturns_eq_nil_iff]

end PromptStream
