import PromptStream.Proofs.Generation.HeldBack

/-!
# Room for choices

A generation makes room for a choice by adding one to its number.  On a machine the sum is kept
in a word.  It does not fit for the largest number: it wraps to zero, and the texts are cut off
where they should have grown (`Generation.makeRoom_of_largest`).  A machine stops there.

For every other number there is room (`Generation.fits_iff`), and a delta is added as if numbers
had no end (`Generation.modify_makeRoom`).  This needs fewer texts than a word can count, which
is so as long as everything fitted so far.  So there is room for all of a feed exactly if it does
not name the largest number (`Feed.Countable`, `Generation.Took.allFit_iff`), and only of such
feeds is it promised that a generation comes to their end.
-/

namespace PromptStream

/-! ## Countable feeds -/

/-- A feed in which no number of a choice is too large to add one to. -/
def Feed.Countable (feed : Feed Delta) : Prop := ∀ d, .item d ∈ feed → d.choice + 1 < choiceBound

/-- The largest number decides. -/
theorem Feed.countable_iff {feed : Feed Delta} :
    feed.Countable ↔ topChoice feed + 1 < choiceBound := by
  constructor
  · intro countable
    rcases le_topChoice_iff.1 (Nat.le_refl (topChoice feed)) with first | ⟨d, mem, le⟩
    · rw [first]
      decide
    · exact Nat.lt_of_le_of_lt (Nat.succ_le_succ le) (countable d mem)
  · intro small d mem
    have le : d.choice ≤ topChoice feed := le_topChoice_iff.2 (.inr ⟨d, mem, Nat.le_refl _⟩)
    exact Nat.lt_of_le_of_lt (Nat.succ_le_succ le) small

instance (feed : Feed Delta) : Decidable feed.Countable :=
  decidable_of_iff _ Feed.countable_iff.symm

theorem Feed.Countable.of_append {heard left : Feed Delta}
    (h : Feed.Countable (heard ++ left)) : heard.Countable :=
  fun d mem => h d (List.mem_append_left _ mem)

namespace Generation

/-! ## Room for a choice -/

/-- The sum of a number and one as a machine word. -/
def wordSucc (n : Nat) : Nat := (n + 1) % choiceBound

/-- The texts with room for a choice, as a machine makes it.  The sum is the machine's; that a
list of texts has a capacity, which is smaller still, and that memory ends are left out. -/
def makeRoom (texts : List String) (choice : Nat) : List String :=
  if texts.length ≤ choice then
    texts.take (wordSucc choice) ++ List.replicate (wordSucc choice - texts.length) ""
  else texts

/-- A choice can be given text: the sum that makes room for it is a machine word, and there is a
text at its number then. -/
structure Fits (texts : List String) (choice : Nat) : Prop where
  noOverflow : texts.length ≤ choice → choice + 1 < choiceBound
  inRange : choice < (makeRoom texts choice).length

variable {texts : List String} {choice : Nat}

theorem makeRoom_of_lt (small : choice + 1 < choiceBound) :
    makeRoom texts choice = texts ++ List.replicate (choice + 1 - texts.length) "" := by
  rw [makeRoom, wordSucc, Nat.mod_eq_of_lt small]
  split
  next short => rw [List.take_of_length_le (Nat.le_succ_of_le short)]
  next long => rw [Nat.sub_eq_zero_of_le (by omega), List.replicate_zero, List.append_nil]

/-- The sum for the largest number wraps to zero, and no text is left. -/
theorem makeRoom_of_largest (short : texts.length ≤ choice) (largest : choice + 1 = choiceBound) :
    makeRoom texts choice = [] := by
  rw [makeRoom, if_pos short, wordSucc, largest, Nat.mod_self, List.take_zero, Nat.zero_sub]
  rfl

/-- Where texts are fewer than words can count, a choice fits if its number is not the largest
one. -/
theorem fits_iff (countable : texts.length < choiceBound) :
    Fits texts choice ↔ choice + 1 < choiceBound := by
  constructor
  · intro fits
    by_cases short : texts.length ≤ choice
    · exact fits.noOverflow short
    · omega
  · intro small
    refine ⟨fun _ => small, ?_⟩
    rw [makeRoom_of_lt small, List.length_append, List.length_replicate]
    omega

/-- A delta that fits is added as if numbers had no end. -/
theorem modify_makeRoom {d : Delta} (small : d.choice + 1 < choiceBound) :
    (makeRoom texts d.choice).modify d.choice (· ++ d.text) = addDelta texts d := by
  rw [makeRoom_of_lt small, addDelta]

/-! ## Room for all that is heard -/

theorem length_absorb_texts (g : Generation) (d : Delta) :
    (g.absorb d).2.texts.length = max g.texts.length (d.choice + 1) := by
  have grown : (g.hear d).texts.length = max g.texts.length (d.choice + 1) :=
    length_addDelta g.texts d
  by_cases first : d.choice = 0
  · cases active : g.stop with
    | none => rw [absorb_of_free g first active, takeFresh_texts, grown]
    | some stop =>
        cases found : stop.find? (g.hear d).lead with
        | none => rw [absorb_of_unmatched g first active found, takeFresh_texts, grown]
        | some start =>
            rw [absorb_of_matched g first active found, length_finish_texts, takeFresh_texts,
              (texts_truncateLead _ _).1, grown]
  · rw [absorb_of_other g first, grown]

/-- There was room for every delta of a feed when a generation came to it.  The texts up to the
first delta without room are those of a machine. -/
def AllFit (g₀ : Generation) (heard : Feed Delta) : Prop :=
  ∀ before d left said g, heard = before ++ .item d :: left → Took g₀ before said g →
    Fits g.texts d.choice

theorem AllFit.of_append {g₀ : Generation} {heard more : Feed Delta}
    (h : AllFit g₀ (heard ++ more)) : AllFit g₀ heard :=
  fun before d left said g all => h before d (left ++ more) said g (by rw [all]; simp)

section History

variable {name : String} {stop : Option Stop} {heard : Feed Delta} {said : List String}
  {g : Generation}

theorem Took.length_texts_lt (h : Took (fresh name stop) heard said g)
    (countable : heard.Countable) : g.texts.length < choiceBound := by
  induction h with
  | start => exact Nat.two_pow_pos 64
  | item d _ _ ih =>
      rw [length_absorb_texts]
      exact max_lt (ih countable.of_append) (countable d (by simp))
  | pending _ _ ih => exact ih countable.of_append

/-- There is room for everything in a countable feed. -/
theorem allFit_of_countable (name : String) (stop : Option Stop) (countable : heard.Countable) :
    AllFit (fresh name stop) heard := by
  rintro before d left said g rfl took
  exact (fits_iff (took.length_texts_lt countable.of_append)).2 (countable d (by simp))

/-- There was room for all that was taken in exactly if it was countable. -/
theorem Took.allFit_iff (h : Took (fresh name stop) heard said g) :
    AllFit (fresh name stop) heard ↔ heard.Countable := by
  refine ⟨fun fit => ?_, allFit_of_countable name stop⟩
  induction h with
  | start => exact fun d mem => absurd mem List.not_mem_nil
  | @item heard said g d took goesOn ih =>
      have earlier := ih fit.of_append
      intro d' mem
      rcases List.mem_append.1 mem with before | last
      · exact earlier d' before
      · cases List.mem_singleton.1 last
        exact (fits_iff (took.length_texts_lt earlier)).1 (fit heard d [] said g rfl took)
  | @pending heard said g took goesOn ih =>
      intro d' mem
      rcases List.mem_append.1 mem with before | last
      · exact ih fit.of_append d' before
      · cases List.mem_singleton.1 last

end History

end Generation

end PromptStream
