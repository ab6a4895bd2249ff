import PromptStream.Proofs.Text.Offset

/-!
# First occurrences

Where a word first occurs in a text, told in two ways: `beforeFirst` is the text
that precedes it, and `firstOccurrence?` is its offset in bytes.

What precedes the first occurrence does not change when more text arrives after
an occurrence is there (`beforeFirst_append`), and it never contains the word
(`eq_nil_of_isInfix_beforeFirst`).  A text in which the word does not occur
precedes it as a whole.
-/

namespace PromptStream

/-- The text before the first occurrence of a word; all of it if there is none. -/
def beforeFirst (word : List Char) : List Char → List Char
  | [] => []
  | c :: cs => if word.isPrefixOf (c :: cs) then [] else c :: beforeFirst word cs

/-- The offset in bytes at which a word first occurs. -/
def firstOccurrence? (word : List Char) : List Char → Option Nat
  | [] => if word.isEmpty then some 0 else none
  | c :: cs =>
      if word.isPrefixOf (c :: cs) then some 0
      else (firstOccurrence? word cs).map (c.utf8Size + ·)

theorem isPrefixOf_iff {word cs : List Char} : word.isPrefixOf cs = true ↔ word <+: cs :=
  List.isPrefixOf_iff_prefix

/-! ## The text before an occurrence -/

theorem beforeFirst_isPrefix (word cs : List Char) : beforeFirst word cs <+: cs := by
  induction cs with
  | nil => exact List.prefix_refl []
  | cons c cs ih =>
      rw [beforeFirst]
      split
      · exact List.nil_prefix
      · exact (List.prefix_cons_inj c).2 ih

/-- The word follows the text before its first occurrence. -/
theorem beforeFirst_append_isPrefix {word cs : List Char} (h : word <:+: cs) :
    beforeFirst word cs ++ word <+: cs := by
  induction cs with
  | nil =>
      rw [List.infix_nil.1 h]
      exact List.prefix_refl []
  | cons c cs ih =>
      rw [beforeFirst]
      split
      next atHead => exact isPrefixOf_iff.1 atHead
      next notAtHead =>
        rcases List.infix_cons_iff.1 h with atHead | later
        · exact absurd (isPrefixOf_iff.2 atHead) notAtHead
        · exact (List.prefix_cons_inj c).2 (ih later)

/-- No occurrence begins earlier than the first one. -/
theorem beforeFirst_isPrefix_of_append {word cs xs : List Char} (h : xs ++ word <+: cs) :
    beforeFirst word cs <+: xs := by
  induction cs generalizing xs with
  | nil => exact List.nil_prefix
  | cons c cs ih =>
      rw [beforeFirst]
      split
      next => exact List.nil_prefix
      next notAtHead =>
        cases xs with
        | nil => exact absurd (isPrefixOf_iff.2 h) notAtHead
        | cons x xs =>
            obtain ⟨rfl, rest⟩ := List.cons_prefix_cons.1 h
            exact (List.prefix_cons_inj x).2 (ih rest)

theorem beforeFirst_eq_self {word cs : List Char} (h : ¬ word <:+: cs) :
    beforeFirst word cs = cs := by
  induction cs with
  | nil => rfl
  | cons c cs ih =>
      rw [List.infix_cons_iff, not_or] at h
      rw [beforeFirst, if_neg (fun atHead => h.1 (isPrefixOf_iff.1 atHead)), ih h.2]

/-- Text that arrives after an occurrence changes nothing before the first one. -/
theorem beforeFirst_append {word cs : List Char} (h : word <:+: cs) (ds : List Char) :
    beforeFirst word (cs ++ ds) = beforeFirst word cs := by
  have within : beforeFirst word cs ++ word <+: cs ++ ds :=
    (beforeFirst_append_isPrefix h).trans (List.prefix_append cs ds)
  have noLater := beforeFirst_isPrefix_of_append within
  have later : word <:+: cs ++ ds := h.trans (List.prefix_append cs ds).isInfix
  have short : beforeFirst word (cs ++ ds) ++ word <+: cs := by
    refine List.prefix_of_prefix_length_le (beforeFirst_append_isPrefix later)
      (List.prefix_append cs ds) ?_
    have bound := (beforeFirst_append_isPrefix h).length_le
    have shorter := noLater.length_le
    simp only [List.length_append] at bound ⊢
    omega
  exact noLater.eq_of_length_le (beforeFirst_isPrefix_of_append short).length_le

/-- The text before the first occurrence does not contain the word, unless both
are empty. -/
theorem eq_nil_of_isInfix_beforeFirst {word cs : List Char} (h : word <:+: beforeFirst word cs) :
    word = [] ∧ beforeFirst word cs = [] := by
  obtain ⟨xs, ys, split⟩ := h
  have earlier : xs ++ word <+: cs :=
    List.IsPrefix.trans ⟨ys, split⟩ (beforeFirst_isPrefix word cs)
  have shorter := (beforeFirst_isPrefix_of_append earlier).length_le
  rw [← split] at shorter
  simp only [List.length_append] at shorter
  have emptyWord : word = [] := List.eq_nil_of_length_eq_zero (by omega)
  refine ⟨emptyWord, ?_⟩
  have first : beforeFirst word cs <+: [] :=
    beforeFirst_isPrefix_of_append (by rw [emptyWord]; exact List.nil_prefix)
  exact List.prefix_nil.1 first

/-- A text is cut before a word exactly if the word occurs. -/
theorem beforeFirst_eq_self_iff {word cs : List Char} (nonempty : word ≠ []) :
    beforeFirst word cs = cs ↔ ¬ word <:+: cs := by
  refine ⟨fun whole occurs => nonempty ?_, beforeFirst_eq_self⟩
  have follows := (beforeFirst_append_isPrefix occurs).length_le
  rw [whole, List.length_append] at follows
  exact List.eq_nil_of_length_eq_zero (by omega)

/-- If neither of two words begins the other, they never occur first in the same place. -/
theorem beforeFirst_eq_beforeFirst_iff {u v cs : List Char} (apart : ¬ u <+: v)
    (apart' : ¬ v <+: u) :
    beforeFirst u cs = beforeFirst v cs ↔ ¬ u <:+: cs ∧ ¬ v <:+: cs := by
  have nonempty : u ≠ [] := fun empty => apart (empty ▸ List.nil_prefix)
  have nonempty' : v ≠ [] := fun empty => apart' (empty ▸ List.nil_prefix)
  constructor
  · intro same
    by_cases occurs : u <:+: cs
    · by_cases occurs' : v <:+: cs
      · -- Both follow the same text, so one of them begins the other.
        have follows := beforeFirst_append_isPrefix occurs
        have follows' := beforeFirst_append_isPrefix occurs'
        rw [← same] at follows'
        rcases List.prefix_or_prefix_of_prefix follows follows' with stem | stem
        · exact absurd ((List.prefix_append_right_inj _).1 stem) apart
        · exact absurd ((List.prefix_append_right_inj _).1 stem) apart'
      · have whole := same.trans (beforeFirst_eq_self occurs')
        exact absurd occurs ((beforeFirst_eq_self_iff nonempty).1 whole)
    · have whole := same.symm.trans (beforeFirst_eq_self occurs)
      exact ⟨occurs, (beforeFirst_eq_self_iff nonempty').1 whole⟩
  · rintro ⟨absent, absent'⟩
    rw [beforeFirst_eq_self absent, beforeFirst_eq_self absent']

/-! ## The offset of an occurrence -/

/-- The first occurrence lies where the text before it ends. -/
theorem firstOccurrence?_of_isInfix {word cs : List Char} (h : word <:+: cs) :
    firstOccurrence? word cs = some (byteLength (beforeFirst word cs)) := by
  induction cs with
  | nil =>
      rw [List.infix_nil.1 h]
      rfl
  | cons c cs ih =>
      rw [firstOccurrence?, beforeFirst]
      split
      next => rfl
      next notAtHead =>
        rcases List.infix_cons_iff.1 h with atHead | later
        · exact absurd (isPrefixOf_iff.2 atHead) notAtHead
        · rw [ih later, Option.map_some, byteLength_cons]

theorem firstOccurrence?_eq_none_iff {word cs : List Char} :
    firstOccurrence? word cs = none ↔ ¬ word <:+: cs := by
  constructor
  · intro none occurs
    rw [firstOccurrence?_of_isInfix occurs] at none
    cases none
  · intro absent
    induction cs with
    | nil =>
        rw [firstOccurrence?, if_neg]
        intro empty
        exact absent (List.isEmpty_iff.1 empty ▸ List.nil_infix)
    | cons c cs ih =>
        rw [List.infix_cons_iff, not_or] at absent
        rw [firstOccurrence?,
          if_neg (fun atHead => absent.1 (isPrefixOf_iff.1 atHead)), ih absent.2]
        rfl

example : firstOccurrence? ['a', 'a'] ['é', 'a', 'a', 'a'] = some 2 := by decide

end PromptStream
