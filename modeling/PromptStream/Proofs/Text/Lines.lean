import PromptStream.Text.Utf8

/-!
# Lines of a lossy decoding

In UTF-8 a newline is a byte of its own, and no other byte yields one.  It also
ends a character that is still unfinished, as the end of the bytes would.  So it
makes no difference whether bytes are decoded first and split into lines then, or
the other way round (`splitOn_decodeLossy`), even where they are malformed or a
character is cut in two.

What has to be kept along the way is that the bits of an unfinished character
already exceed ASCII (`State.Multibyte`).
-/

namespace PromptStream

namespace Utf8

/-- The states that the machine comes to.  Within a character the next byte is no
ASCII byte, and the character will be none. -/
def State.Multibyte : State → Prop
  | .idle => True
  | .within bits owed low _ => 0x80 ≤ low ∧ (2 ≤ bits ∨ 2 ≤ owed ∧ 2 ≤ bits * 64 + (low - 0x80))

theorem first_multibyte (b : Nat) : (first b).2.Multibyte := by
  unfold first
  repeat' split
  all_goals simp only [State.Multibyte]; try omega

theorem step_multibyte {s : State} (h : s.Multibyte) (b : Nat) : (step s b).2.Multibyte := by
  cases s with
  | idle => exact first_multibyte b
  | within bits owed low high =>
      obtain ⟨lowest, large⟩ := h
      simp only [step]
      split
      next inRange =>
        split
        next => trivial
        next => simp only [State.Multibyte]; omega
      next => exact first_multibyte b

/-- A newline ends an unfinished character, as the end of the bytes does. -/
theorem step_newline {s : State} (h : s.Multibyte) :
    step s 0x0a = (finish s ++ [some '\n'], .idle) := by
  cases s with
  | idle => rfl
  | within bits owed low high =>
      have outside : ¬ (low ≤ 0x0a ∧ 0x0a ≤ high) := by
        have lowest := h.1
        omega
      rw [step, if_neg outside]
      rfl

theorem ofNat_ne_newline {n : Nat} (h : n ≠ 0x0a) : Char.ofNat n ≠ '\n' := by
  intro same
  have value := congrArg Char.toNat same
  by_cases valid : n.isValidChar
  · rw [Char.ofNat, dif_pos valid] at value
    exact h value
  · rw [Char.ofNat, dif_neg valid] at value
    exact absurd value (by decide)

theorem first_newline_not_mem {b : Nat} (h : b ≠ 0x0a) : some '\n' ∉ (first b).1 := by
  unfold first
  split
  next =>
    intro mem
    have same := Option.some.inj (List.mem_singleton.1 mem)
    exact ofNat_ne_newline h same.symm
  next => repeat' split
          all_goals simp

/-- No other byte yields a newline. -/
theorem step_newline_not_mem {s : State} (h : s.Multibyte) {b : Nat} (other : b ≠ 0x0a) :
    some '\n' ∉ (step s b).1 := by
  cases s with
  | idle => exact first_newline_not_mem other
  | within bits owed low high =>
      obtain ⟨lowest, large⟩ := h
      simp only [step]
      split
      next inRange =>
        split
        next last =>
          intro mem
          have same := Option.some.inj (List.mem_singleton.1 mem)
          exact ofNat_ne_newline (by omega) same.symm
        next => exact List.not_mem_nil
      next =>
        intro mem
        rcases List.mem_cons.1 mem with none | mem
        · cases none
        · exact first_newline_not_mem other mem

/-- The characters of some bytes from a state on. -/
def decodeFrom (s : State) (bs : List UInt8) : List Char := (run s bs).map (·.getD '\ufffd')

theorem finish_newline_not_mem (s : State) : some '\n' ∉ finish s := by
  cases s <;> simp [finish]

theorem newline_mem_map {ys : Yield} (h : '\n' ∈ ys.map (·.getD '\ufffd')) : some '\n' ∈ ys := by
  obtain ⟨y, mem, same⟩ := List.mem_map.1 h
  cases y with
  | none => exact absurd same (by decide)
  | some c =>
      rw [← (show c = '\n' from same)]
      exact mem

theorem splitOn_append_of_not_mem {α : Type} [DecidableEq α] {a : α} {xs : List α} (h : a ∉ xs)
    {y : List α} {ys : List (List α)} {zs : List α} (split : zs.splitOn a = y :: ys) :
    (xs ++ zs).splitOn a = (xs ++ y) :: ys := by
  induction xs with
  | nil => exact split
  | cons x xs ih =>
      have other : (x == a) = false := by
        rw [beq_eq_false_iff_ne]
        exact fun same => h (same ▸ List.mem_cons_self)
      rw [List.cons_append, List.splitOn_cons_eq_if_modifyHead, other,
        ih fun mem => h (List.mem_cons_of_mem x mem)]
      rfl

/-- By induction on the bytes: the state at the start only matters for the first
line, since every newline leaves the machine between characters. -/
theorem splitOn_decodeFrom {s : State} (h : s.Multibyte) {bs line : List UInt8}
    {lines : List (List UInt8)} (split : bs.splitOn 0x0a = line :: lines) :
    (decodeFrom s bs).splitOn '\n' = decodeFrom s line :: lines.map decodeLossy := by
  induction bs generalizing s line lines with
  | nil =>
      cases split
      exact List.splitOn_eq_singleton fun mem => finish_newline_not_mem s (newline_mem_map mem)
  | cons b bs ih =>
      have next : (step s b.toNat).2.Multibyte := step_multibyte h b.toNat
      obtain ⟨rest, more, splitRest⟩ := List.exists_cons_of_ne_nil (List.splitOn_ne_nil 0x0a bs)
      rw [List.splitOn_cons_eq_if_modifyHead, splitRest] at split
      by_cases newline : b = 0x0a
      · -- What is unfinished ends here, and the rest is decoded afresh.
        subst newline
        cases split
        have stop : decodeFrom s (0x0a :: bs)
            = decodeFrom s [] ++ '\n' :: decodeFrom .idle bs := by
          rw [decodeFrom, run, show (0x0a : UInt8).toNat = 0x0a from rfl, step_newline h]
          simp [decodeFrom, run]
        have ended : '\n' ∉ decodeFrom s [] :=
          fun mem => finish_newline_not_mem s (newline_mem_map mem)
        rw [stop, List.splitOn_append_cons_self_of_not_mem ended, ih (s := .idle) trivial splitRest]
        rfl
      · -- Any other byte only adds to the first line.
        rw [if_neg (by simpa using newline)] at split
        cases split
        have other : b.toNat ≠ 0x0a := fun same => newline (UInt8.toNat_inj.1 same)
        have unfold : ∀ bs, decodeFrom s (b :: bs)
            = (step s b.toNat).1.map (·.getD '\ufffd') ++ decodeFrom (step s b.toNat).2 bs :=
          fun bs => List.map_append
        rw [unfold, unfold]
        refine splitOn_append_of_not_mem ?_ (ih next splitRest)
        exact fun mem => step_newline_not_mem h other (newline_mem_map mem)

/-- Splitting into lines commutes with lossy decoding. -/
theorem splitOn_decodeLossy (bs : List UInt8) :
    (decodeLossy bs).splitOn '\n' = (bs.splitOn 0x0a).map decodeLossy := by
  obtain ⟨line, lines, split⟩ := List.exists_cons_of_ne_nil (List.splitOn_ne_nil 0x0a bs)
  rw [split]
  exact splitOn_decodeFrom (s := .idle) trivial split

end Utf8

end PromptStream
