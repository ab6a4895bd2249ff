import Mathlib.Data.List.DropRight
import PromptStream.Proofs.Engine.Step
import PromptStream.Proofs.Text.Indentation
import PromptStream.Proofs.Text.Literal

/-!
# Emitted literals used again

A literal loses its indentation when its template is built, and the carriage returns before its
newlines when it is emitted.  What is emitted has no indentation, so the first of the two does
nothing to it a second time (`Unindented.dropReturns`).

The second may do something again.  It goes over a text once, and where two carriage returns stand
before a newline it leaves one of them before it (`returnNewline_isInfix_dropReturns_iff`).  So
what is emitted is in normal form exactly if the literal has no such place outside of its
indentation (`emitted_normal_iff`).
-/

namespace PromptStream

variable {cs before after : List Char}

/-! ## Two carriage returns before a newline -/

/-- The end of a line with a carriage return too many. -/
def doubledReturn : List Char := '\r' :: returnNewline

theorem newline_isPrefix_dropReturns_iff :
    ['\n'] <+: dropReturns cs ↔ ['\n'] <+: cs ∨ returnNewline <+: cs := by
  unfold dropReturns
  split
  next => simp [returnNewline]
  next c cs other =>
      have apart : ¬ returnNewline <+: c :: cs := by
        rintro ⟨rest, split⟩
        obtain ⟨rfl, rfl⟩ := List.cons.inj split
        exact other rest rfl rfl
      rw [or_iff_left apart, List.cons_prefix_cons, List.cons_prefix_cons]
      simp
  next => simp [returnNewline]

/-- The scan leaves a carriage return before a newline where there were two. -/
theorem returnNewline_isInfix_dropReturns_iff :
    returnNewline <:+: dropReturns cs ↔ doubledReturn <:+: cs := by
  induction cs using dropReturns.induct with
  | case1 cs ih =>
      rw [dropReturns, List.infix_cons_iff, List.infix_cons_iff, List.infix_cons_iff, ih]
      simp [returnNewline, doubledReturn]
  | case2 c cs other ih =>
      rw [dropReturns, List.infix_cons_iff, List.infix_cons_iff, ih]
      · refine or_congr_left ?_
        rw [doubledReturn, List.cons_prefix_cons, returnNewline, List.cons_prefix_cons]
        refine and_congr_right fun first => ?_
        have notNewline : ¬ ['\n'] <+: cs := by
          rintro ⟨rest, split⟩
          exact other rest first.symm split.symm
        rw [newline_isPrefix_dropReturns_iff, or_iff_right notNewline]
        rfl
      · exact other
  | case3 => simp [dropReturns, returnNewline, doubledReturn]

/-- Only a text with a carriage return before a newline changes. -/
theorem dropReturns_eq_self_iff : dropReturns cs = cs ↔ ¬ returnNewline <:+: cs := by
  refine ⟨fun same returns => ?_, dropReturns_eq_self⟩
  have apart := (not_isPrefix_dropReturns returns).1
  rw [same] at apart
  exact apart (List.prefix_refl cs)

/-- What begins with a character that is not blank still does. -/
theorem not_isBlank_head?_dropReturns (stops : ∀ d, cs.head? = some d → isBlank d = false)
    (d : Char) (first : (dropReturns cs).head? = some d) : isBlank d = false := by
  unfold dropReturns at first
  split at first
  next => exact absurd (stops '\r' rfl) (by decide)
  next => exact stops d first
  next => cases first

/-- A newline that is left is followed by what followed it before. -/
theorem Unindented.dropReturns (h : Unindented cs) : Unindented (dropReturns cs) := by
  induction cs using dropReturns.induct with
  | case1 cs ih =>
      obtain ⟨next, h⟩ := List.isChain_cons.1 (List.isChain_cons.1 h).2
      rw [PromptStream.dropReturns]
      refine List.isChain_cons.2 ⟨fun d first line => ?_, ih h⟩
      exact not_isBlank_head?_dropReturns (fun e head => next e head rfl) d first
  | case2 c cs other ih =>
      obtain ⟨next, h⟩ := List.isChain_cons.1 h
      rw [PromptStream.dropReturns]
      · refine List.isChain_cons.2 ⟨fun d first line => ?_, ih h⟩
        exact not_isBlank_head?_dropReturns (fun e head => next e head line) d first
      · exact other
  | case3 => exact h

/-! ## Indentation -/

/-- Whether a text ends within an indentation: in blanks with a newline among them. -/
def EndsIndented (before : List Char) : Prop := '\n' ∈ before.rtakeWhile isBlank

instance (before : List Char) : Decidable (EndsIndented before) :=
  inferInstanceAs (Decidable (_ ∈ _))

theorem endsIndented_concat {c : Char} :
    EndsIndented (before ++ [c]) ↔ isBlank c = true ∧ (EndsIndented before ∨ c = '\n') := by
  rw [EndsIndented, List.rtakeWhile_concat, EndsIndented]
  split
  next blank => simp [blank, eq_comm]
  next visible => simp [visible]

/-- The scan drops the blanks of an indentation; whether it is in one depends on what it has
passed. -/
theorem collapseIndent_cons (before : List Char) (c : Char) (cs : List Char) :
    collapseIndent (decide (EndsIndented before)) (c :: cs)
      = (if EndsIndented before ∧ isBlank c then [] else [c])
        ++ collapseIndent (decide (EndsIndented (before ++ [c]))) cs := by
  simp only [endsIndented_concat]
  by_cases indented : EndsIndented before
  · by_cases blank : isBlank c = true
    · simp [collapseIndent, indented, blank]
    · simp [collapseIndent, indented, blank]
  · by_cases line : c = '\n'
    · subst line
      simp [collapseIndent, indented, show isBlank '\n' = true by decide]
    · simp [collapseIndent, indented, line, beq_eq_false_iff_ne.2 line]

/-- Outside of an indentation the scan leaves two carriage returns and a newline as they are. -/
theorem doubledReturn_isPrefix_collapseIndent_iff :
    doubledReturn <+: collapseIndent false cs ↔ doubledReturn <+: cs := by
  match cs with
  | [] => exact Iff.rfl
  | [c] => exact Iff.rfl
  | c :: d :: cs =>
      rw [collapseIndent, doubledReturn, List.cons_prefix_cons, List.cons_prefix_cons]
      refine and_congr_right ?_
      rintro rfl
      rw [show ('\r' == '\n') = false from rfl, collapseIndent, returnNewline,
        List.cons_prefix_cons, List.cons_prefix_cons]
      refine and_congr_right ?_
      rintro rfl
      cases cs with
      | nil => exact Iff.rfl
      | cons e cs => simp [collapseIndent]

/-- A literal has two carriage returns before a newline that is not in an indentation, when it
comes after some text. -/
def DoublesReturn (seen cs : List Char) : Prop :=
  ∃ before after, cs = before ++ doubledReturn ++ after ∧ ¬ EndsIndented (seen ++ before)

theorem doublesReturn_cons {seen : List Char} {c : Char} :
    DoublesReturn seen (c :: cs) ↔
      (¬ EndsIndented seen ∧ doubledReturn <+: c :: cs) ∨ DoublesReturn (seen ++ [c]) cs := by
  constructor
  · rintro ⟨before, after, split, outside⟩
    cases before with
    | nil => exact .inl ⟨List.append_nil seen ▸ outside, after, split.symm⟩
    | cons d before =>
        obtain ⟨rfl, later⟩ := List.cons.inj split
        refine .inr ⟨before, after, later, ?_⟩
        rwa [List.append_assoc]
  · rintro (⟨outside, after, split⟩ | ⟨before, after, rfl, outside⟩)
    · exact ⟨[], after, split.symm, (List.append_nil seen).symm ▸ outside⟩
    · refine ⟨c :: before, after, rfl, ?_⟩
      rwa [List.append_assoc] at outside

/-- The scan leaves two carriage returns before a newline exactly where it finds them outside of
an indentation. -/
theorem doubledReturn_isInfix_collapseIndent_iff (seen : List Char) :
    doubledReturn <:+: collapseIndent (decide (EndsIndented seen)) cs ↔ DoublesReturn seen cs := by
  induction cs generalizing seen with
  | nil => simp [collapseIndent, doubledReturn, DoublesReturn]
  | cons c cs ih =>
      rw [doublesReturn_cons, ← ih]
      by_cases indented : EndsIndented seen
      · rw [collapseIndent_cons, or_iff_right fun h => h.1 indented]
        split
        next => rfl
        next visible =>
          -- A carriage return is blank, so nothing begins with this character.
          rw [List.singleton_append, List.infix_cons_iff, or_iff_right]
          rintro ⟨after, split⟩
          obtain ⟨rfl, -⟩ := List.cons.inj split
          exact visible ⟨indented, by decide⟩
      · have step := collapseIndent_cons seen c cs
        rw [if_neg fun h => indented h.1, List.singleton_append, decide_eq_false indented] at step
        rw [decide_eq_false indented, and_iff_right indented,
          ← doubledReturn_isPrefix_collapseIndent_iff, step]
        exact List.infix_cons_iff

/-! ## What a template emits -/

/-- The content in which a literal is emitted. -/
def emittedLiteral (s : String) : String := unixLines (normalizeLiteral s)

/-- A template hands out a literal with a content, whatever comes after the literal and wherever
the template stands, as long as no sequence around it has failed. -/
def EmittedAs (φ ν : Type) (s content : String) : Prop :=
  ∀ (props : Props) (literals : List String) (slots : List (Slot φ)) (rest : List (Frame φ))
    (w : World φ ν), Frame.belowFailed rest = none →
    ∃ m, stepBinder props (normalizeLiteral s :: literals) slots rest w
      = .item (.ok ⟨content, .prompt, props.context.role⟩) m

variable {φ ν : Type} {s content : String}

theorem stepBinder_literal (props : Props) (s : String) (literals : List String)
    (slots : List (Slot φ)) {rest : List (Frame φ)} (w : World φ ν)
    (intact : Frame.belowFailed rest = none) :
    stepBinder props (normalizeLiteral s :: literals) slots rest w
      = if s.isEmpty then
          .more ⟨templateRest props (normalizeLiteral s :: literals) slots rest, w⟩
        else .item (.ok ⟨emittedLiteral s, .prompt, props.context.role⟩)
          ⟨templateRest props (normalizeLiteral s :: literals) slots rest, w⟩ := by
  rw [stepBinder_of_left props rest w fun h => List.cons_ne_nil _ _ h.1, List.head?_cons]
  simp only [isEmpty_normalizeLiteral]
  rw [deliver, belowFailed_templateRest, intact]
  rfl

theorem emittedAs_iff : EmittedAs φ ν s content ↔ s ≠ "" ∧ content = emittedLiteral s := by
  constructor
  · intro emitted
    obtain ⟨props⟩ : Nonempty Props := ⟨default⟩
    obtain ⟨w⟩ : Nonempty (World φ ν) := ⟨{}⟩
    obtain ⟨m, step⟩ := emitted props [] [] [] w rfl
    rw [stepBinder_literal props s [] [] w rfl] at step
    split at step
    next => cases step
    next filled =>
      obtain ⟨same, -⟩ := Element.mk.inj (Except.ok.inj (Step.item.inj step).1)
      exact ⟨mt String.isEmpty_iff.2 filled, same.symm⟩
  · rintro ⟨filled, rfl⟩ props literals slots rest w intact
    rw [stepBinder_literal props s literals slots w intact, if_neg (mt String.isEmpty_iff.1 filled)]
    exact ⟨_, rfl⟩

theorem emittedLiteral_ne_empty (filled : s ≠ "") : emittedLiteral s ≠ "" := by
  have kept : collapseIndent false s.toList ≠ [] :=
    mt collapseIndent_eq_nil_iff.1 (mt String.toList_eq_nil_iff.1 filled)
  intro empty
  rw [emittedLiteral, unixLines, normalizeLiteral, String.toList_ofList,
    ← String.toList_eq_nil_iff, String.toList_ofList] at empty
  exact dropReturns_ne_nil kept empty

/-- What is emitted has no indentation, so it is the same when a template is built with it. -/
theorem normalizeLiteral_emittedLiteral (s : String) :
    normalizeLiteral (emittedLiteral s) = emittedLiteral s := by
  have unindented : Unindented (dropReturns (collapseIndent false s.toList)) :=
    (unindented_collapseIndent false s.toList).dropReturns
  rw [emittedLiteral, unixLines, normalizeLiteral, normalizeLiteral, String.toList_ofList,
    String.toList_ofList, unindented.collapseIndent_eq]

theorem returnNewline_isInfix_emittedLiteral_iff :
    returnNewline <:+: (emittedLiteral s).toList ↔ DoublesReturn [] s.toList := by
  rw [emittedLiteral, unixLines, normalizeLiteral, String.toList_ofList, String.toList_ofList,
    returnNewline_isInfix_dropReturns_iff]
  exact doubledReturn_isInfix_collapseIndent_iff []

theorem emittedLiteral_emittedLiteral_iff :
    emittedLiteral (emittedLiteral s) = emittedLiteral s ↔ ¬ DoublesReturn [] s.toList := by
  have again : emittedLiteral (emittedLiteral s) = unixLines (emittedLiteral s) :=
    congrArg unixLines (normalizeLiteral_emittedLiteral s)
  rw [again, ← returnNewline_isInfix_emittedLiteral_iff, ← dropReturns_eq_self_iff, unixLines,
    ← String.toList_inj, String.toList_ofList]

/-- A literal is emitted in normal form exactly if it has no two carriage returns before a newline
that is not in an indentation.

Every literal but the empty one is emitted, always with the same content.  In that content a
carriage return stands before a newline exactly if two stood there in the literal, outside of its
indentation; and exactly then the content is not emitted as it is when it is used as a literal. -/
theorem emitted_normal_iff (φ ν : Type) (s : String) :
    ((∃ content, EmittedAs φ ν s content) ↔ s ≠ "") ∧
    ∀ content, EmittedAs φ ν s content →
      (returnNewline <:+: content.toList ↔ DoublesReturn [] s.toList) ∧
      (EmittedAs φ ν content content ↔ ¬ DoublesReturn [] s.toList) ∧
      (¬ returnNewline <:+: content.toList ∧ EmittedAs φ ν content content ↔
        ¬ DoublesReturn [] s.toList) := by
  refine ⟨⟨fun ⟨content, emitted⟩ => (emittedAs_iff.1 emitted).1,
    fun filled => ⟨_, emittedAs_iff.2 ⟨filled, rfl⟩⟩⟩, fun content emitted => ?_⟩
  obtain ⟨filled, rfl⟩ := emittedAs_iff.1 emitted
  have returns := returnNewline_isInfix_emittedLiteral_iff (s := s)
  have again : EmittedAs φ ν (emittedLiteral s) (emittedLiteral s)
      ↔ ¬ DoublesReturn [] s.toList := by
    rw [emittedAs_iff, ← emittedLiteral_emittedLiteral_iff, eq_comm]
    exact and_iff_right (emittedLiteral_ne_empty filled)
  exact ⟨returns, again, by rw [returns, again, and_self]⟩

/-- Two carriage returns before a newline become one, which is lost only when the content is used
as a literal again. -/
theorem return_emitted_before_newline :
    EmittedAs Empty Empty "a\r\r\nb" "a\r\nb" ∧ returnNewline <:+: "a\r\nb".toList ∧
      EmittedAs Empty Empty "a\r\nb" "a\nb" ∧ ¬ EmittedAs Empty Empty "a\r\nb" "a\r\nb" := by
  rw [emittedAs_iff, emittedAs_iff, emittedAs_iff]
  decide +kernel

/-- In an indentation the carriage returns are dropped with the other blanks. -/
example : emittedLiteral "a \n\r\r\n  b\r\nc" = "a \nb\nc" := by
  decide +kernel

end PromptStream
