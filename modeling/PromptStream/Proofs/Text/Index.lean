import PromptStream.Text.Index
import Mathlib.Data.List.Induction

/-!
# Spellings of positions

A position is spelled by its decimal digits, after any number of zeros and an optional
plus sign, and by nothing else (`readIndex?_eq_some_iff`).  So texts that are different
keys may be the same position, and digits that make too large a number are a key only.
-/

namespace PromptStream

/-! ## Values of digits -/

theorem digitsValue_append (ds : List Char) (c : Char) :
    digitsValue (ds ++ [c]) = 10 * digitsValue ds + (c.toNat - 48) := by
  simp [digitsValue]

theorem digitsValue_toDigits (n : Nat) : digitsValue (Nat.toDigits 10 n) = n := by
  induction n using Nat.strongRecOn with
  | _ n ih =>
      by_cases small : n < 10
      · rw [Nat.toDigits_of_lt_base small]
        simp [digitsValue, Nat.toNat_digitChar_sub_48_of_lt_ten small]
      · have last : n % 10 < 10 := Nat.mod_lt n (by decide)
        rw [Nat.toDigits_of_base_le (by decide) (Nat.le_of_not_lt small), digitsValue_append,
          ih (n / 10) (by omega), Nat.toNat_digitChar_sub_48_of_lt_ten last]
        omega

theorem digitsValue_zeros (zeros : Nat) (ds : List Char) :
    digitsValue (List.replicate zeros '0' ++ ds) = digitsValue ds := by
  induction zeros with
  | zero => rfl
  | succ zeros ih => exact ih

/-- A digit is the one of its value. -/
theorem digitChar_of_isDigit {c : Char} (digit : c.isDigit = true) :
    c.toNat - 48 < 10 ∧ Nat.digitChar (c.toNat - 48) = c := by
  have range : 48 ≤ c.toNat ∧ c.toNat ≤ 57 := by
    simpa [Char.isDigit, UInt32.le_iff_toNat_le] using digit
  have small : c.toNat - 48 < 10 := by omega
  refine ⟨small, Char.toNat_inj.1 ?_⟩
  rw [Nat.toNat_digitChar_of_lt_ten small]
  omega

/-- Some digits are those of their value, after some zeros. -/
theorem eq_zeros_append_toDigits {ds : List Char} (some : ds ≠ [])
    (digits : ∀ c ∈ ds, c.isDigit = true) :
    ∃ zeros, ds = List.replicate zeros '0' ++ Nat.toDigits 10 (digitsValue ds) := by
  induction ds using List.reverseRecOn with
  | nil => exact absurd rfl some
  | append_singleton ds c ih =>
      obtain ⟨small, last⟩ := digitChar_of_isDigit (digits c (by simp))
      rw [digitsValue_append]
      by_cases first : ds = []
      · subst first
        refine ⟨0, ?_⟩
        rw [Nat.toDigits_of_lt_base (by simpa [digitsValue] using small)]
        simp [digitsValue, last]
      · obtain ⟨zeros, before⟩ := ih first fun d mem => digits d (List.mem_append_left _ mem)
        rcases Nat.eq_zero_or_pos (digitsValue ds) with none | positive
        · -- All digits before the last one are zeros.
          refine ⟨zeros + 1, ?_⟩
          rw [none, Nat.toDigits_zero, ← List.replicate_succ'] at before
          rw [none, Nat.mul_zero, Nat.zero_add, Nat.toDigits_of_lt_base small, last, ← before]
        · refine ⟨zeros, ?_⟩
          rw [← Nat.toDigits_append_toDigits (by decide) positive small,
            Nat.toDigits_of_lt_base small, last, ← List.append_assoc, ← before]

/-! ## Positions -/

/-- The texts that spell a position: its digits, after any number of zeros and an optional
plus sign. -/
def SpellsIndex (s : String) (n : Nat) : Prop :=
  ∃ sign zeros, (sign = "" ∨ sign = "+") ∧
    s = sign ++ String.ofList (List.replicate zeros '0') ++ toString n

theorem isDigit_of_mem_toDigits {n : Nat} {c : Char} (mem : c ∈ Nat.toDigits 10 n) :
    c.isDigit = true :=
  Nat.isDigit_of_mem_toDigits (by decide) (by decide) mem

/-- Digits after an optional sign are the digits of a position. -/
theorem indexDigits_append {sign : String} (plus : sign = "" ∨ sign = "+") {ds : List Char}
    (digits : ∀ c ∈ ds, c.isDigit = true) : indexDigits (sign.toList ++ ds) = ds := by
  rcases plus with rfl | rfl
  · change indexDigits ds = ds
    unfold indexDigits
    split
    next cs =>
      have noDigit : '+'.isDigit = true := digits '+' List.mem_cons_self
      cases noDigit
    next => rfl
  · rfl

theorem exists_sign (cs : List Char) :
    ∃ sign : String, (sign = "" ∨ sign = "+") ∧ cs = sign.toList ++ indexDigits cs := by
  unfold indexDigits
  split
  next cs => exact ⟨"+", .inr rfl, rfl⟩
  next => exact ⟨"", .inl rfl, rfl⟩

/-- A text is read as a position exactly if it spells one that fits. -/
theorem readIndex?_eq_some_iff {s : String} {n : Nat} :
    readIndex? s = some n ↔ n < indexBound ∧ SpellsIndex s n := by
  constructor
  · intro read
    simp only [readIndex?, Option.ite_none_left_eq_some, Option.ite_none_right_eq_some, not_or,
      not_not, Option.some.injEq] at read
    obtain ⟨⟨nonempty, digits⟩, fits, rfl⟩ := read
    obtain ⟨sign, plus, whole⟩ := exists_sign s.toList
    obtain ⟨zeros, spelled⟩ := eq_zeros_append_toDigits
      (fun empty => nonempty (List.isEmpty_iff.2 empty)) (List.all_eq_true.1 digits)
    refine ⟨fits, sign, zeros, plus, ?_⟩
    refine String.toList_inj.1 (whole.trans ?_)
    simp only [String.toList_append, String.toList_ofList, List.append_assoc]
    exact congrArg _ (spelled.trans (congrArg _ Nat.toList_repr.symm))
  · rintro ⟨fits, sign, zeros, plus, rfl⟩
    have digits : ∀ c ∈ List.replicate zeros '0' ++ Nat.toDigits 10 n, c.isDigit = true := by
      intro c mem
      rcases List.mem_append.1 mem with mem | mem
      · rw [List.eq_of_mem_replicate mem]
        rfl
      · exact isDigit_of_mem_toDigits mem
    have chars : (sign ++ String.ofList (List.replicate zeros '0') ++ toString n).toList
        = sign.toList ++ (List.replicate zeros '0' ++ Nat.toDigits 10 n) := by
      simp only [String.toList_append, String.toList_ofList, List.append_assoc]
      exact congrArg _ (congrArg _ Nat.toList_repr)
    simp only [readIndex?, Option.ite_none_left_eq_some, Option.ite_none_right_eq_some, not_or,
      not_not, chars, indexDigits_append plus digits, digitsValue_zeros, digitsValue_toDigits,
      and_true]
    refine ⟨⟨fun empty => ?_, List.all_eq_true.2 digits⟩, fits⟩
    exact Nat.toDigits_ne_nil (List.append_eq_nil_iff.1 (List.isEmpty_iff.1 empty)).2

/-- A position reads as itself. -/
theorem readIndex?_toString {n : Nat} (short : n < indexBound) :
    readIndex? (toString n) = some n :=
  readIndex?_eq_some_iff.2 ⟨short, "", 0, .inl rfl, by simp⟩

end PromptStream
