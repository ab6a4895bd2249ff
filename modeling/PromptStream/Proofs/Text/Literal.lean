import PromptStream.Proofs.Text.Occurrence
import PromptStream.Text.Literal

/-!
# Literals as they are emitted

A literal is emitted with the lines that `unixLines` leaves.  If it has no carriage return
before a newline, that is the literal itself.  If it has one, then the literal and what is
emitted part at the first of them (`dropReturns_parts`), so neither begins the other, and no
text is cut in the same place before the one and before the other
(`beforeFirst_dropReturns_iff`).
-/

namespace PromptStream

/-! ## Blanks -/

/-- What is dropped from a literal is blank. -/
theorem all_isBlank_collapseIndent (inRun : Bool) (cs : List Char) :
    (collapseIndent inRun cs).all isBlank = cs.all isBlank := by
  induction cs generalizing inRun with
  | nil => cases inRun <;> rfl
  | cons c cs ih =>
      cases inRun with
      | false => rw [collapseIndent, List.all_cons, List.all_cons, ih]
      | true =>
          rw [collapseIndent, List.all_cons]
          split
          next blank => rw [ih, blank, Bool.true_and]
          next => rw [List.all_cons, ih]

theorem isBlankText_normalizeLiteral (s : String) :
    isBlankText (normalizeLiteral s) = isBlankText s := by
  rw [isBlankText, normalizeLiteral, String.toList_ofList, all_isBlank_collapseIndent]
  rfl

/-- The first character stays. -/
theorem collapseIndent_eq_nil_iff {cs : List Char} : collapseIndent false cs = [] ↔ cs = [] := by
  cases cs with
  | nil => exact iff_of_true rfl rfl
  | cons c cs => exact iff_of_false (List.cons_ne_nil _ _) (List.cons_ne_nil _ _)

theorem isEmpty_normalizeLiteral (s : String) : (normalizeLiteral s).isEmpty = s.isEmpty := by
  rw [Bool.eq_iff_iff, String.isEmpty_iff, String.isEmpty_iff, ← String.toList_eq_nil_iff,
    ← String.toList_eq_nil_iff, normalizeLiteral, String.toList_ofList, collapseIndent_eq_nil_iff]

/-! ## Carriage returns -/

/-- The end of a line that is not kept as it is. -/
def returnNewline : List Char := ['\r', '\n']

theorem dropReturns_eq_self {cs : List Char} (h : ¬ returnNewline <:+: cs) :
    dropReturns cs = cs := by
  induction cs using dropReturns.induct with
  | case1 cs ih => exact absurd (List.prefix_append returnNewline cs).isInfix h
  | case2 c cs other ih =>
      rw [dropReturns, ih fun later => h (later.trans (List.suffix_cons c cs).isInfix)]
      exact other
  | case3 => rfl

theorem dropReturns_ne_nil {cs : List Char} (h : cs ≠ []) : dropReturns cs ≠ [] := by
  unfold dropReturns
  split
  next => exact List.cons_ne_nil _ _
  next => exact List.cons_ne_nil _ _
  next => exact absurd rfl h

/-- A text with a carriage return before a newline parts there from what is left of it. -/
theorem dropReturns_parts {cs : List Char} (h : returnNewline <:+: cs) :
    ∃ xs ys zs, cs = xs ++ '\r' :: ys ∧ dropReturns cs = xs ++ '\n' :: zs := by
  induction cs using dropReturns.induct with
  | case1 cs ih => exact ⟨[], '\n' :: cs, dropReturns cs, rfl, rfl⟩
  | case2 c cs other ih =>
      rcases List.infix_cons_iff.1 h with ⟨after, atHead⟩ | later
      · obtain ⟨rfl, rfl⟩ := List.cons.inj atHead
        exact (other after rfl rfl).elim
      · obtain ⟨xs, ys, zs, split, left⟩ := ih later
        refine ⟨c :: xs, ys, zs, by rw [split]; rfl, ?_⟩
        rw [dropReturns, left]
        · rfl
        · exact other
  | case3 => exact absurd (List.infix_nil.1 h) (by decide)

/-- Then neither of the two begins the other. -/
theorem not_isPrefix_dropReturns {cs : List Char} (h : returnNewline <:+: cs) :
    ¬ cs <+: dropReturns cs ∧ ¬ dropReturns cs <+: cs := by
  obtain ⟨xs, ys, zs, split, left⟩ := dropReturns_parts h
  rw [left, split, List.prefix_append_right_inj, List.prefix_append_right_inj,
    List.cons_prefix_cons, List.cons_prefix_cons]
  exact ⟨fun same => absurd same.1 (by decide), fun same => absurd same.1 (by decide)⟩

/-- A text is cut at a literal where it would be cut at what is emitted of it, exactly if the
literal is emitted as it is or the text holds neither of them. -/
theorem beforeFirst_dropReturns_iff (word cs : List Char) :
    beforeFirst word cs = beforeFirst (dropReturns word) cs ↔
      ¬ returnNewline <:+: word ∨ ¬ word <:+: cs ∧ ¬ dropReturns word <:+: cs := by
  by_cases returns : returnNewline <:+: word
  · obtain ⟨apart, apart'⟩ := not_isPrefix_dropReturns returns
    rw [or_iff_right (not_not_intro returns)]
    exact beforeFirst_eq_beforeFirst_iff apart apart'
  · rw [dropReturns_eq_self returns]
    exact iff_of_true rfl (.inl returns)

end PromptStream
