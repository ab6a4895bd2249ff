import PromptStream.Text.Offset

/-!
# Laws of byte offsets

An offset lies between two characters exactly when the text splits there, so
every fact about offsets is a fact about how a text splits in two or three.
Two stems of one text are compared by their lengths in bytes: the shorter one
is a stem of the longer one (`stem_of_byteLength_le`).
-/

namespace PromptStream

/-! ## Lengths in bytes -/

@[simp] theorem byteLength_nil : byteLength [] = 0 := rfl

@[simp] theorem byteLength_cons (c : Char) (cs : List Char) :
    byteLength (c :: cs) = c.utf8Size + byteLength cs := rfl

theorem byteLength_pos {cs : List Char} (nonempty : cs ≠ []) : 0 < byteLength cs := by
  cases cs with
  | nil => exact absurd rfl nonempty
  | cons c cs =>
      have positive := c.utf8Size_pos
      rw [byteLength_cons]
      omega

theorem eq_nil_of_byteLength_eq_zero {cs : List Char} (h : byteLength cs = 0) : cs = [] := by
  cases cs with
  | nil => rfl
  | cons c cs =>
      have positive := byteLength_pos (List.cons_ne_nil c cs)
      omega

theorem byteLength_eq_utf8ByteSize (s : String) : byteLength s.toList = s.utf8ByteSize := by
  suffices h : ∀ cs : List Char, (String.ofList cs).utf8ByteSize = byteLength cs by
    rw [← h, String.ofList_toList]
  intro cs
  induction cs with
  | nil => simp
  | cons c cs ih =>
      rw [show c :: cs = [c] ++ cs from rfl, String.ofList_append, String.utf8ByteSize_append, ih]
      rw [byteLength_append]
      simp

/-! ## Splitting at an offset -/

@[simp] theorem takeBytes_zero (cs : List Char) : takeBytes 0 cs = [] := by
  cases cs with
  | nil => rfl
  | cons c cs =>
      have positive := c.utf8Size_pos
      rw [takeBytes, if_neg (by omega)]

@[simp] theorem dropBytes_zero (cs : List Char) : dropBytes 0 cs = cs := by
  cases cs with
  | nil => rfl
  | cons c cs =>
      have positive := c.utf8Size_pos
      rw [dropBytes, if_neg (by omega)]

@[simp] theorem takeBytes_byteLength_append (xs ys : List Char) :
    takeBytes (byteLength xs) (xs ++ ys) = xs := by
  induction xs with
  | nil => simp
  | cons x xs ih =>
      rw [List.cons_append, takeBytes, byteLength_cons, if_pos (Nat.le_add_right _ _),
        Nat.add_sub_cancel_left, ih]

@[simp] theorem dropBytes_byteLength_append (xs ys : List Char) :
    dropBytes (byteLength xs) (xs ++ ys) = ys := by
  induction xs with
  | nil => simp
  | cons x xs ih =>
      rw [List.cons_append, dropBytes, byteLength_cons, if_pos (Nat.le_add_right _ _),
        Nat.add_sub_cancel_left, ih]

theorem takeBytes_isPrefix (n : Nat) (cs : List Char) : takeBytes n cs <+: cs :=
  ⟨dropBytes n cs, takeBytes_append_dropBytes n cs⟩

/-- Of two stems of one text, the one with fewer bytes is a stem of the other. -/
theorem stem_of_byteLength_le {xs ys cs : List Char} (hx : xs <+: cs) (hy : ys <+: cs)
    (h : byteLength xs ≤ byteLength ys) : xs <+: ys := by
  rcases List.prefix_or_prefix_of_prefix hx hy with stem | ⟨zs, rfl⟩
  · exact stem
  · rw [byteLength_append] at h
    have empty : zs = [] := eq_nil_of_byteLength_eq_zero (by omega)
    exact empty ▸ (List.append_nil ys).symm ▸ List.prefix_refl ys

theorem byteLength_le_of_isPrefix {xs ys : List Char} (h : xs <+: ys) :
    byteLength xs ≤ byteLength ys := by
  obtain ⟨zs, rfl⟩ := h
  rw [byteLength_append]
  exact Nat.le_add_right _ _

/-- The longest stem of at most so many bytes has every other such stem as a stem of its
own. -/
theorem isPrefix_takeBytes {xs cs : List Char} {n : Nat} (stem : xs <+: cs)
    (short : byteLength xs ≤ n) : xs <+: takeBytes n cs := by
  induction xs generalizing cs n with
  | nil => exact List.nil_prefix
  | cons x xs ih =>
      obtain ⟨ys, rfl⟩ := stem
      rw [byteLength_cons] at short
      rw [List.cons_append, takeBytes, if_pos (by omega)]
      exact (List.prefix_cons_inj x).2 (ih (List.prefix_append xs ys) (by omega))

/-- Longer texts and larger bounds give longer stems. -/
theorem takeBytes_isPrefix_takeBytes {cs ds : List Char} {m n : Nat} (longer : cs <+: ds)
    (le : m ≤ n) : takeBytes m cs <+: takeBytes n ds :=
  isPrefix_takeBytes ((takeBytes_isPrefix m cs).trans longer)
    (Nat.le_trans (floorBoundary_le cs m) le)

/-- The boundary before an offset within the text is less than one character away. -/
theorem le_floorBoundary_add {cs : List Char} {n : Nat} (within : n ≤ byteLength cs) :
    n ≤ floorBoundary cs n + 3 := by
  rw [floorBoundary]
  induction cs generalizing n with
  | nil => exact Nat.le_add_right_of_le within
  | cons c cs ih =>
      have narrow := c.utf8Size_le_four
      rw [byteLength_cons] at within
      rw [takeBytes]
      split
      next fits =>
        have later := ih (n := n - c.utf8Size) (by omega)
        rw [byteLength_cons]
        omega
      next => omega

/-! ## Boundaries -/

/-- An offset lies between two characters exactly when some stem of the text
has that many bytes. -/
theorem isBoundary_iff {cs : List Char} {n : Nat} :
    isBoundary cs n = true ↔ ∃ xs, xs <+: cs ∧ byteLength xs = n := by
  constructor
  · intro h
    exact ⟨takeBytes n cs, takeBytes_isPrefix n cs, by simpa [isBoundary, floorBoundary] using h⟩
  · rintro ⟨xs, ⟨ys, rfl⟩, rfl⟩
    simp [isBoundary, floorBoundary]

theorem isBoundary_byteLength {xs cs : List Char} (h : xs <+: cs) :
    isBoundary cs (byteLength xs) = true :=
  isBoundary_iff.2 ⟨xs, h, rfl⟩

theorem takeBytes_of_isPrefix {xs cs : List Char} (h : xs <+: cs) :
    takeBytes (byteLength xs) cs = xs := by
  obtain ⟨ys, rfl⟩ := h
  simp

/-- What lies between two offsets of which the text splits at both. -/
theorem sliceBytes?_append (xs ys zs : List Char) :
    sliceBytes? (xs ++ ys ++ zs) (byteLength xs) (byteLength (xs ++ ys)) = some ys := by
  have lower : isBoundary (xs ++ ys ++ zs) (byteLength xs) = true :=
    isBoundary_byteLength ((List.prefix_append xs ys).trans (List.prefix_append _ _))
  have upper : isBoundary (xs ++ ys ++ zs) (byteLength (xs ++ ys)) = true :=
    isBoundary_byteLength (List.prefix_append _ _)
  have ordered : byteLength xs ≤ byteLength (xs ++ ys) :=
    byteLength_le_of_isPrefix (List.prefix_append _ _)
  rw [sliceBytes?, if_pos ⟨ordered, lower, upper⟩, List.append_assoc, dropBytes_byteLength_append,
    byteLength_append, Nat.add_sub_cancel_left, takeBytes_byteLength_append]

end PromptStream
