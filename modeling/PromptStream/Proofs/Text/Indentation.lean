import PromptStream.Proofs.Grouping
import PromptStream.Text.Literal

/-!
# Indentation

A text is cut into groups of blanks and groups of other characters.  When a literal is
normalized, a group of blanks is left up to its first newline, and everything else stays as it
is (`normalizeLiteral_removes_indentation`).

The scan that drops the blanks remembers only whether it has just passed a newline.  With a
newline before it the scan goes on where the blanks end (`collapseIndent_true`), so a group of
blanks comes to what stands before the first newline and that newline, wherever in the text it
is (`collapseIndent_blanks_append`).  The same is reached by replacing, from the left on, each
newline and the blanks after it, as many as there are, by a newline (`replaceIndents`).
-/

namespace PromptStream

/-! ## Two descriptions of the same text -/

/-- The groups of blanks and of other characters of a text. -/
def blankGroups (cs : List Char) : List (List Char) :=
  cs.splitBy fun c d => isBlank c == isBlank d

/-- What comes before the first newline, with it, or everything if there is none. -/
def throughNewline : List Char → List Char
  | [] => []
  | c :: cs => if c = '\n' then [c] else c :: throughNewline cs

/-- What is left of a group of blanks or of other characters. -/
def trimGroup (group : List Char) : List Char :=
  if group.all isBlank then throughNewline group else group

/-- Replaces each newline before a blank and all the blanks after it by a newline, from the left
on; what has been replaced is not looked at again. -/
def replaceIndents : List Char → List Char
  | [] => []
  | c :: cs =>
      if c = '\n' ∧ cs.head?.any isBlank then c :: replaceIndents (cs.dropWhile isBlank)
      else c :: replaceIndents cs
termination_by cs => cs.length
decreasing_by
  · exact Nat.lt_succ_of_le (List.dropWhile_sublist _).length_le
  · exact Nat.lt_succ_self _

/-- A character after a newline is not blank. -/
def Unindented (cs : List Char) : Prop := cs.IsChain fun c d => c = '\n' → isBlank d = false

/-! ## The scan -/

variable {cs rest : List Char}

theorem beq_newline_of_not_blank {c : Char} (visible : isBlank c = false) :
    (c == '\n') = false := by
  rw [beq_eq_false_iff_ne]
  rintro rfl
  exact absurd visible (by decide)

theorem dropWhile_isBlank_eq_self (stops : ∀ d, cs.head? = some d → isBlank d = false) :
    cs.dropWhile isBlank = cs := by
  cases cs with
  | nil => rfl
  | cons d cs => exact List.dropWhile_cons_of_neg (Bool.not_eq_true _ ▸ stops d rfl)

/-- Blanks after a newline are passed over. -/
theorem collapseIndent_true (cs : List Char) :
    collapseIndent true cs = collapseIndent false (cs.dropWhile isBlank) := by
  induction cs with
  | nil => rfl
  | cons c cs ih =>
      rw [collapseIndent]
      by_cases blank : isBlank c = true
      · rw [if_pos blank, ih, List.dropWhile_cons_of_pos blank]
      · rw [if_neg blank, List.dropWhile_cons_of_neg blank, collapseIndent,
          beq_newline_of_not_blank (Bool.eq_false_iff.2 blank)]

theorem collapseIndent_eq_replaceIndents (cs : List Char) :
    collapseIndent false cs = replaceIndents cs := by
  fun_induction replaceIndents cs with
  | case1 => rfl
  | case2 c cs indented ih =>
      obtain ⟨rfl, -⟩ := indented
      rw [← ih, ← collapseIndent_true]
      rfl
  | case3 c cs other ih =>
      rw [← ih, collapseIndent]
      by_cases line : c = '\n'
      · have stops : ∀ d, cs.head? = some d → isBlank d = false := fun d next =>
          Bool.eq_false_iff.2 fun blank => other ⟨line, by rw [next]; exact blank⟩
        rw [beq_iff_eq.2 line, collapseIndent_true, dropWhile_isBlank_eq_self stops]
      · rw [beq_eq_false_iff_ne.2 line]

theorem collapseIndent_blanks_append {group : List Char} (blank : ∀ c ∈ group, isBlank c = true)
    (stops : ∀ d, rest.head? = some d → isBlank d = false) :
    collapseIndent false (group ++ rest) = throughNewline group ++ collapseIndent false rest := by
  induction group with
  | nil => rfl
  | cons c group ih =>
      obtain ⟨-, blank⟩ := List.forall_mem_cons.1 blank
      rw [List.cons_append, collapseIndent, throughNewline]
      by_cases line : c = '\n'
      · rw [if_pos line, beq_iff_eq.2 line, collapseIndent_true,
          List.dropWhile_append_of_pos blank, dropWhile_isBlank_eq_self stops]
        rfl
      · rw [if_neg line, beq_eq_false_iff_ne.2 line, ih blank, List.cons_append]

theorem collapseIndent_append_of_not_blank {group : List Char}
    (visible : ∀ c ∈ group, isBlank c = false) (rest : List Char) :
    collapseIndent false (group ++ rest) = group ++ collapseIndent false rest := by
  induction group with
  | nil => rfl
  | cons c group ih =>
      obtain ⟨first, visible⟩ := List.forall_mem_cons.1 visible
      rw [List.cons_append, collapseIndent, beq_newline_of_not_blank first, ih visible,
        List.cons_append]

/-- The scan leaves of a text what is left of its groups. -/
theorem collapseIndent_eq_flatMap {groups : List (List Char)}
    (grouped : GroupedBy isBlank cs groups) :
    collapseIndent false cs = groups.flatMap trimGroup := by
  induction groups generalizing cs with
  | nil =>
      rw [← grouped.joined]
      rfl
  | cons group groups ih =>
      have same := grouped.same group List.mem_cons_self
      obtain ⟨c, run, rfl⟩ := grouped.exists_cons List.mem_cons_self
      rw [List.flatMap_cons, ← ih grouped.tail, ← grouped.joined, List.flatten_cons, trimGroup]
      cases blank : isBlank c with
      | true =>
          have all : ∀ d ∈ c :: run, isBlank d = true := fun d mem =>
            (same d mem c List.mem_cons_self).trans blank
          rw [if_pos (List.all_eq_true.2 all)]
          refine collapseIndent_blanks_append all fun d next => ?_
          exact Bool.eq_false_iff.2 fun blank' =>
            grouped.head_ne List.mem_cons_self next (blank.trans blank'.symm)
      | false =>
          have none : ∀ d ∈ c :: run, isBlank d = false := fun d mem =>
            (same d mem c List.mem_cons_self).trans blank
          rw [List.all_cons, blank, Bool.false_and, if_neg Bool.false_ne_true]
          exact collapseIndent_append_of_not_blank none _

/-! ## What stays -/

theorem filter_collapseIndent (inRun : Bool) (cs : List Char) :
    (collapseIndent inRun cs).filter (! isBlank ·) = cs.filter (! isBlank ·) := by
  fun_induction collapseIndent inRun cs with
  | case1 => rfl
  | case2 c cs blank ih => rw [ih, List.filter_cons_of_neg (by simp [blank])]
  | case3 c cs visible ih => rw [List.filter_cons, List.filter_cons, ih]
  | case4 c cs ih => rw [List.filter_cons, List.filter_cons, ih]

/-- After a newline the scan goes on with a character that is not blank. -/
theorem head?_collapseIndent_true {d : Char} (next : (collapseIndent true cs).head? = some d) :
    isBlank d = false := by
  rw [collapseIndent_true] at next
  have stops := List.head?_dropWhile_not isBlank cs
  cases later : cs.dropWhile isBlank with
  | nil =>
      rw [later] at next
      cases next
  | cons c cs' =>
      rw [later] at next stops
      obtain rfl : c = d := Option.some.inj next
      exact stops

theorem unindented_collapseIndent (inRun : Bool) (cs : List Char) :
    Unindented (collapseIndent inRun cs) := by
  fun_induction collapseIndent inRun cs with
  | case1 => exact .nil
  | case2 c cs blank ih => exact ih
  | case3 c cs visible ih =>
      refine List.isChain_cons.2 ⟨?_, ih⟩
      rintro d - rfl
      exact absurd rfl visible
  | case4 c cs ih =>
      refine List.isChain_cons.2 ⟨?_, ih⟩
      rintro d next rfl
      exact head?_collapseIndent_true next

/-- Nothing is dropped from a text without indentation. -/
theorem Unindented.collapseIndent_eq (h : Unindented cs) : collapseIndent false cs = cs := by
  induction cs with
  | nil => rfl
  | cons c cs ih =>
      obtain ⟨next, h⟩ := List.isChain_cons.1 h
      rw [collapseIndent]
      by_cases line : c = '\n'
      · have stops : ∀ d, cs.head? = some d → isBlank d = false := fun d first =>
          next d first line
        rw [beq_iff_eq.2 line, collapseIndent_true, dropWhile_isBlank_eq_self stops, ih h]
      · rw [beq_eq_false_iff_ne.2 line, ih h]

/-- Normalization removes indentation and nothing else.  Of each of the groups of blanks of a
text, which are told from the groups of other characters by the text alone, it leaves what comes
before the first newline, with it, and of the others everything; this is also what the leftmost
replacement of newlines and the blanks after them leaves.  So the characters that are not blank
stay, in their order.  No blank comes after a newline any more, and to normalize once more
changes nothing. -/
theorem normalizeLiteral_removes_indentation (s : String) :
    (∀ groups, GroupedBy isBlank s.toList groups ↔ groups = blankGroups s.toList) ∧
    (normalizeLiteral s).toList = (blankGroups s.toList).flatMap trimGroup ∧
    (normalizeLiteral s).toList = replaceIndents s.toList ∧
    (normalizeLiteral s).toList.filter (! isBlank ·) = s.toList.filter (! isBlank ·) ∧
    Unindented (normalizeLiteral s).toList ∧
    normalizeLiteral (normalizeLiteral s) = normalizeLiteral s := by
  have unindented : Unindented (normalizeLiteral s).toList := by
    rw [normalizeLiteral, String.toList_ofList]
    exact unindented_collapseIndent false s.toList
  have again : normalizeLiteral (normalizeLiteral s) = normalizeLiteral s := by
    rw [normalizeLiteral, unindented.collapseIndent_eq, String.ofList_toList]
  rw [normalizeLiteral, String.toList_ofList] at unindented ⊢
  exact ⟨fun groups => groupedBy_iff,
    collapseIndent_eq_flatMap (groupedBy_splitBy isBlank s.toList),
    collapseIndent_eq_replaceIndents s.toList, filter_collapseIndent false s.toList, unindented,
    again⟩

example : normalizeLiteral " \n\u2003\n a  b \r\n" = " \na  b \r\n" := by
  decide +kernel

end PromptStream
