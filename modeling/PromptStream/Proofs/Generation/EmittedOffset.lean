import PromptStream.Proofs.Generation.History
import PromptStream.Proofs.Pattern.Boundary

/-!
# The emitted offset

A generation slices and cuts its texts at byte offsets.  An offset is wrong if it lies inside a
character or behind the one that the slice begins at.  The steps of `Generation` give a wrong
offset some meaning; the steps of this module (`Generation.absorb?`, `Generation.close?`) have
no result at one.  They look for the boundary to hold back to by going back a byte at a time
(`lastBoundary?`), and have no result if that leaves the text.

One invariant rules wrong offsets out: the emitted offset lies in the first choice, between two
of its characters (`InPlace`).  From there a step of this module has the result of the step of
`Generation`, moves the emitted offset forward or leaves it, and keeps it in place
(`InPlace.next`).  So this holds after every signal of every completion
(`Took.offset_in_place`).  What is unsent when a stop has matched nothing is what is held back
and a part of a character at most (`InPlace.unsent_absorb_le`).
-/

namespace PromptStream

/-! ## Going back to a boundary -/

/-- The first offset between two characters, going back from an offset a byte at a time. -/
def lastBoundary? (cs : List Char) : Nat → Option Nat
  | 0 => if isBoundary cs 0 then some 0 else none
  | n + 1 => if isBoundary cs (n + 1) then some (n + 1) else lastBoundary? cs n

/-- An offset inside a character has the same boundary before it as the one a byte less. -/
theorem floorBoundary_succ_of_inside {cs : List Char} {n : Nat}
    (inside : ¬ isBoundary cs (n + 1) = true) : floorBoundary cs (n + 1) = floorBoundary cs n := by
  have apart : floorBoundary cs (n + 1) ≠ n + 1 := fun same => inside (by simp [isBoundary, same])
  have below := floorBoundary_le cs (n + 1)
  have short : byteLength (takeBytes (n + 1) cs) ≤ n := by
    rw [floorBoundary] at apart below
    omega
  have upper := byteLength_le_of_isPrefix
    (isPrefix_takeBytes (takeBytes_isPrefix (n + 1) cs) short)
  have lower := byteLength_le_of_isPrefix
    (takeBytes_isPrefix_takeBytes (List.prefix_refl cs) (Nat.le_succ n))
  exact Nat.le_antisymm upper lower

/-- Going back stops within the text, at the boundary before the offset. -/
theorem lastBoundary?_eq (cs : List Char) (n : Nat) :
    lastBoundary? cs n = some (floorBoundary cs n) := by
  induction n with
  | zero =>
      have start : isBoundary cs 0 = true := isBoundary_byteLength (List.nil_prefix (l := cs))
      rw [lastBoundary?, if_pos start, floorBoundary, takeBytes_zero, byteLength_nil]
  | succ n ih =>
      rw [lastBoundary?]
      split
      next between =>
        rw [isBoundary, beq_iff_eq] at between
        rw [between]
      next inside => rw [ih, floorBoundary_succ_of_inside inside]

theorem isBoundary_max {cs : List Char} {m n : Nat} (hm : isBoundary cs m = true)
    (hn : isBoundary cs n = true) : isBoundary cs (max m n) = true := by
  rcases Nat.le_total m n with le | le
  · rwa [Nat.max_eq_right le]
  · rwa [Nat.max_eq_left le]

namespace Generation

/-! ## Steps without a result at a wrong offset -/

/-- Cuts the first choice at an offset between two of its characters. -/
def truncateLead? (g : Generation) (cut : Nat) : Option Generation :=
  if isBoundary g.lead.toList cut then some (g.truncateLead cut) else none

/-- Emits the first choice up to an offset that makes a slice with the emitted one. -/
def takeFresh? (g : Generation) (stop : Nat) : Option (Option String × Generation) :=
  if (sliceBytes? g.lead.toList g.emitted stop).isSome then some (g.takeFresh stop) else none

/-- The offset that `holdbackBoundary` gives, if going back finds it. -/
def holdbackBoundary? (g : Generation) (holdback : Nat) : Option Nat :=
  (lastBoundary? g.lead.toList (g.leadLength - holdback)).map (max · g.emitted)

/-- Cuts a text where a stop matches it, if that is between two characters. -/
def cutAtStop? (stop : Stop) (s : String) : Option String :=
  match stop.find? s with
  | some start => if isBoundary s.toList start then some (cutAtStop stop s) else none
  | none => some s

/-- Ends the generation if every further choice can be cut. -/
def finish? (g : Generation) : Option Generation :=
  match g.stop, g.texts with
  | some stop, first :: others =>
      (others.mapM (cutAtStop? stop)).map fun others =>
        { g with texts := first :: others, done := true }
  | _, _ => some { g with done := true }

/-- Emits the first choice up to an offset and ends the generation. -/
def takeLast? (g : Generation) (stop : Nat) : Option (Option String × Generation) :=
  (g.takeFresh? stop).bind fun step => step.2.finish?.map (step.1, ·)

/-- Takes in a delta if every offset is right. -/
def absorb? (g : Generation) (d : Delta) : Option (Option String × Generation) :=
  let g := g.hear d
  if d.choice ≠ 0 then some (none, g)
  else match g.stop with
    | none => g.takeFresh? g.leadLength
    | some stop =>
        match stop.find? g.lead with
        | some start =>
            let cut := max start g.emitted
            (g.truncateLead? cut).bind (·.takeLast? cut)
        | none => (g.holdbackBoundary? stop.source.utf8ByteSize).bind g.takeFresh?

/-- Takes in the end of the completion if every offset is right. -/
def close? (g : Generation) : Option (Option String × Generation) := g.takeLast? g.leadLength

/-- What a generation emits at the next signal of its completion, or at its end, and what it
comes to. -/
def next (g : Generation) : Option (Signal Delta) → Option String × Generation
  | some (.item d) => g.absorb d
  | some (.failed _) => (none, { g with done := true })
  | some .pending => (none, g)
  | none => g.close

/-- The same if every offset is right. -/
def next? (g : Generation) : Option (Signal Delta) → Option (Option String × Generation)
  | some (.item d) => g.absorb? d
  | none => g.close?
  | some signal => some (g.next (some signal))

/-! ## The invariant -/

/-- The emitted offset lies in the first choice, between two characters. -/
structure InPlace (g : Generation) : Prop where
  within : g.emitted ≤ g.leadLength
  between : isBoundary g.lead.toList g.emitted = true

/-- The number of bytes of the first choice that were not emitted. -/
def unsent (g : Generation) : Nat := g.leadLength - g.emitted

theorem Emitted.inPlace {g : Generation} {out : List Char} (h : g.Emitted out) : g.InPlace :=
  ⟨h.offset ▸ byteLength_le_of_isPrefix h.stem, h.offset ▸ isBoundary_byteLength h.stem⟩

theorem InPlace.exists_emitted {g : Generation} (h : g.InPlace) : ∃ out, g.Emitted out := by
  obtain ⟨out, stem, offset⟩ := isBoundary_iff.1 h.between
  exact ⟨out, stem, offset⟩

@[simp] theorem finish_emitted (g : Generation) : g.finish.emitted = g.emitted := by
  unfold finish; split <;> rfl

/-- Only the first choice and the emitted offset matter. -/
theorem InPlace.finish {g : Generation} (h : g.InPlace) : g.finish.InPlace := by
  refine ⟨?_, ?_⟩
  · rw [finish_emitted, leadLength, finish_lead]
    exact h.within
  · rw [finish_emitted, finish_lead]
    exact h.between

/-- Text that is added leaves the offset in place. -/
theorem InPlace.hear {g : Generation} (h : g.InPlace) (d : Delta) : (g.hear d).InPlace := by
  obtain ⟨out, emitted⟩ := h.exists_emitted
  have longer : g.lead.toList <+: (g.hear d).lead.toList := by
    rw [show (g.hear d).lead = _ from headD_addDelta g.texts d]
    split
    · rw [String.toList_append]
      exact List.prefix_append _ _
    · exact List.prefix_refl _
  exact Emitted.inPlace ⟨emitted.stem.trans longer, emitted.offset⟩

/-- Up to a boundary that is not behind the emitted offset there is a slice to emit, and it
ends there. -/
theorem InPlace.takeFresh {g : Generation} {stop : Nat} (h : g.InPlace)
    (forward : g.emitted ≤ stop) (between : isBoundary g.lead.toList stop = true) :
    g.takeFresh? stop = some (g.takeFresh stop) ∧
      (g.takeFresh stop).2 = { g with emitted := stop } := by
  obtain ⟨out, emitted⟩ := h.exists_emitted
  obtain ⟨upTo, stem, length⟩ := isBoundary_iff.1 between
  have longer : out <+: upTo :=
    stem_of_byteLength_le emitted.stem stem (by rwa [emitted.offset, length])
  obtain ⟨fresh, taken, -, -⟩ := emitted.takeFresh longer stem
  rw [length] at taken
  have slice : (sliceBytes? g.lead.toList g.emitted stop).isSome = true := by
    rw [sliceBytes?, if_pos ⟨forward, h.between, between⟩]
    rfl
  exact ⟨if_pos slice, congrArg Prod.snd taken⟩

/-- The end of the first choice is a boundary. -/
theorem isBoundary_leadLength (g : Generation) : isBoundary g.lead.toList g.leadLength = true :=
  isBoundary_byteLength (List.prefix_refl _)

/-- A stop that matches between characters cuts every further choice. -/
theorem cutAtStop?_eq {stop : Stop} (between : stop.OnBoundaries) :
    cutAtStop? stop = fun s => pure (cutAtStop stop s) := by
  funext s
  rw [cutAtStop?]
  split
  next start found => exact if_pos (between s start found)
  next missed =>
    rw [cutAtStop, missed]
    rfl

theorem finish?_eq {g : Generation} (between : ∀ s, g.stop = some s → s.OnBoundaries) :
    g.finish? = some g.finish := by
  unfold finish? finish
  cases active : g.stop with
  | none => rfl
  | some stop =>
      cases g.texts with
      | nil => rfl
      | cons first others =>
          have cuts : others.mapM (cutAtStop? stop) = some (others.map (cutAtStop stop)) := by
            rw [cutAtStop?_eq (between stop active)]
            exact List.mapM_pure
          exact congrArg (Option.map _) cuts

/-- The boundary to hold back to is found, in front of the emitted offset. -/
theorem InPlace.holdbackBoundary {g : Generation} (h : g.InPlace) (holdback : Nat) :
    g.holdbackBoundary? holdback = some (g.holdbackBoundary holdback) ∧
      g.emitted ≤ g.holdbackBoundary holdback ∧
      isBoundary g.lead.toList (g.holdbackBoundary holdback) = true := by
  refine ⟨?_, Nat.le_max_right _ _, ?_⟩
  · rw [holdbackBoundary?, lastBoundary?_eq]
    rfl
  · exact isBoundary_max (isBoundary_byteLength (takeBytes_isPrefix _ _)) h.between

/-- A match that begins between two characters cuts the first choice between two characters,
not before the emitted offset. -/
theorem InPlace.truncateLead {g : Generation} {start : Nat} (h : g.InPlace)
    (matched : isBoundary g.lead.toList start = true) :
    let cut := max start g.emitted
    g.truncateLead? cut = some (g.truncateLead cut) ∧ (g.truncateLead cut).InPlace ∧
      isBoundary (g.truncateLead cut).lead.toList cut = true := by
  intro cut
  have between : isBoundary g.lead.toList cut = true := isBoundary_max matched h.between
  obtain ⟨out, emitted⟩ := h.exists_emitted
  obtain ⟨upTo, stem, length⟩ := isBoundary_iff.1 between
  have ahead : byteLength out ≤ byteLength upTo := by
    rw [emitted.offset, length]
    exact Nat.le_max_right _ _
  have longer := stem_of_byteLength_le emitted.stem stem ahead
  have kept : (g.truncateLead cut).lead.toList = upTo := by
    rw [lead_truncateLead, ← length]
    exact takeBytes_of_isPrefix stem
  refine ⟨if_pos between, Emitted.inPlace ⟨kept ▸ longer, emitted.offset⟩, ?_⟩
  rw [kept, ← length]
  exact isBoundary_byteLength (List.prefix_refl _)

/-! ## One step -/

/-- A checked step has the result of the step, and the emitted offset moves forward from an
earlier one and stays in place. -/
structure Forward (earlier : Nat) (checked : Option (Option String × Generation))
    (step : Option String × Generation) : Prop where
  valid : checked = some step
  forward : earlier ≤ step.2.emitted
  inPlace : step.2.InPlace

section Steps

variable {g : Generation}

/-- Emitting up to a boundary in front of the emitted offset. -/
theorem InPlace.forward_takeFresh {stop : Nat} (h : g.InPlace) (forward : g.emitted ≤ stop)
    (between : isBoundary g.lead.toList stop = true) :
    Forward g.emitted (g.takeFresh? stop) (g.takeFresh stop) := by
  obtain ⟨valid, after⟩ := h.takeFresh forward between
  obtain ⟨upTo, stem, length⟩ := isBoundary_iff.1 between
  refine ⟨valid, by rwa [after], ?_⟩
  rw [after]
  exact Emitted.inPlace ⟨stem, length⟩

/-- Emitting up to such a boundary and ending. -/
theorem InPlace.forward_takeLast {stop : Nat} (h : g.InPlace) (forward : g.emitted ≤ stop)
    (between : isBoundary g.lead.toList stop = true)
    (onBoundaries : ∀ s, g.stop = some s → s.OnBoundaries) :
    Forward g.emitted (g.takeLast? stop) ((g.takeFresh stop).1, (g.takeFresh stop).2.finish) := by
  have step := h.forward_takeFresh forward between
  refine ⟨?_, by simpa using step.forward, step.inPlace.finish⟩
  rw [takeLast?, step.valid, Option.bind_some, finish?_eq (by rwa [takeFresh_stop])]
  rfl

theorem InPlace.forward_absorb (h : g.InPlace)
    (onBoundaries : ∀ s, g.stop = some s → s.OnBoundaries) (d : Delta) :
    Forward g.emitted (g.absorb? d) (g.absorb d) := by
  have heard := h.hear d
  rw [absorb?]
  by_cases first : d.choice = 0
  · rw [if_neg (not_not_intro first)]
    cases active : g.stop with
    | none =>
        rw [absorb_of_free g first active]
        simp only [show (g.hear d).stop = none from active]
        exact heard.forward_takeFresh heard.within (isBoundary_leadLength _)
    | some stop =>
        simp only [show (g.hear d).stop = some stop from active]
        cases found : stop.find? (g.hear d).lead with
        | none =>
            rw [absorb_of_unmatched g first active found]
            obtain ⟨boundary, ahead, between⟩ := heard.holdbackBoundary stop.source.utf8ByteSize
            simp only [boundary, Option.bind_some]
            exact heard.forward_takeFresh ahead between
        | some start =>
            have matched := onBoundaries stop active _ start found
            obtain ⟨cut, inPlace, atEnd⟩ := heard.truncateLead matched
            rw [absorb_of_matched g first active found]
            simp only [cut, Option.bind_some]
            exact inPlace.forward_takeLast (Nat.le_max_right _ _) atEnd onBoundaries
  · rw [if_pos first, absorb_of_other g first]
    exact ⟨rfl, Nat.le_refl _, heard⟩

theorem InPlace.forward_close (h : g.InPlace)
    (onBoundaries : ∀ s, g.stop = some s → s.OnBoundaries) :
    Forward g.emitted g.close? g.close :=
  h.forward_takeLast h.within (isBoundary_leadLength g) onBoundaries

/-- Every signal moves the emitted offset forward and keeps it in place. -/
theorem InPlace.next (h : g.InPlace) (onBoundaries : ∀ s, g.stop = some s → s.OnBoundaries)
    (signal : Option (Signal Delta)) : Forward g.emitted (g.next? signal) (g.next signal) := by
  match signal with
  | some (.item d) => exact h.forward_absorb onBoundaries d
  | some (.failed _) => exact ⟨rfl, Nat.le_refl _, h.within, h.between⟩
  | some .pending => exact ⟨rfl, Nat.le_refl _, h⟩
  | none => exact h.forward_close onBoundaries

/-- While a stop matches nothing, what is unsent is what is held back and a part of a character
at most, and without a stop everything is sent. -/
theorem InPlace.unsent_absorb_le {d : Delta} (h : g.InPlace) (first : d.choice = 0)
    (unmatched : ∀ s, g.stop = some s → s.find? (g.hear d).lead = none) :
    (g.absorb d).2.unsent ≤ g.stop.elim 0 fun s => s.source.utf8ByteSize + 3 := by
  have heard := h.hear d
  cases active : g.stop with
  | none =>
      rw [absorb_of_free g first active, unsent,
        (heard.takeFresh heard.within (isBoundary_leadLength _)).2]
      exact Nat.le_of_eq (Nat.sub_self _)
  | some stop =>
      obtain ⟨-, ahead, between⟩ := heard.holdbackBoundary stop.source.utf8ByteSize
      rw [absorb_of_unmatched g first active (unmatched stop active), unsent,
        (heard.takeFresh ahead between).2]
      have near := le_floorBoundary_add
        (Nat.sub_le (g.hear d).leadLength stop.source.utf8ByteSize)
      have behind := Nat.le_max_left
        (floorBoundary (g.hear d).lead.toList
          ((g.hear d).leadLength - stop.source.utf8ByteSize)) (g.hear d).emitted
      simp only [leadLength, Generation.holdbackBoundary, lead, Option.elim_some] at near behind ⊢
      omega

end Steps

/-! ## Every completion -/

section Fresh

variable {name : String} {stop : Option Stop} {heard : Feed Delta} {said : List String}
  {g : Generation}

/-- The emitted offset is in place whatever a generation took in. -/
theorem Took.inPlace (onBoundaries : ∀ s, stop = some s → s.OnBoundaries)
    (h : Took (fresh name stop) heard said g) : g.InPlace := by
  induction h with
  | start => exact ⟨Nat.zero_le _, isBoundary_byteLength List.nil_prefix⟩
  | @item heard said g d took _ ih =>
      have own : ∀ s, g.stop = some s → s.OnBoundaries := by
        rw [took.keeps.2]
        exact onBoundaries
      exact (ih.forward_absorb own d).inPlace
  | pending _ _ ih => exact ih

/-- **The emitted offset.**  Whatever a generation took in, the emitted offset lies in the first
choice and between two characters.  With every signal that may come, and with the end, all
offsets that texts are sliced and cut at are right, the one to hold back to is found, and the
emitted offset moves forward or stays and is in place again.  After a delta of the first choice
with which the stop matches nothing, no more is unsent than what is held back and three
bytes. -/
theorem Took.offset_in_place (onBoundaries : ∀ s, stop = some s → s.OnBoundaries)
    (h : Took (fresh name stop) heard said g) :
    g.InPlace ∧ (∀ signal, Forward g.emitted (g.next? signal) (g.next signal)) ∧
      ∀ d, d.choice = 0 → (∀ s, stop = some s → s.find? (g.hear d).lead = none) →
        (g.absorb d).2.unsent ≤ stop.elim 0 fun s => s.source.utf8ByteSize + 3 := by
  have inPlace := h.inPlace onBoundaries
  have active : g.stop = stop := h.keeps.2
  refine ⟨inPlace, fun signal => inPlace.next (active ▸ onBoundaries) signal, ?_⟩
  intro d first unmatched
  have sent := inPlace.unsent_absorb_le first (active.symm ▸ unmatched)
  rwa [active] at sent

end Fresh

/-- Two bytes are held back and a character of four lies at the edge: with the next byte five are
unsent, as many as there may be. -/
theorem Took.offset_in_place_of_wide_character :
    let stop := (Stop.compile? "zz").get (by decide +kernel)
    let g := ((fresh "answer" (some stop)).absorb ⟨0, "a😀"⟩).2
    g.emitted = 1 ∧ g.InPlace ∧ (∀ signal, Forward 1 (g.next? signal) (g.next signal)) ∧
      (g.absorb ⟨0, "b"⟩).2.unsent ≤ 5 ∧ (g.absorb ⟨0, "b"⟩).2.unsent = 5 := by
  intro stop g
  have onBoundaries : ∀ s, some stop = some s → s.OnBoundaries := by
    rintro s ⟨⟩
    exact Stop.onBoundaries_of_compile? (Option.some_get _).symm
  have took : Took (fresh "answer" (some stop)) [.item ⟨0, "a😀"⟩] ["a"] g := by
    have said : ((fresh "answer" (some stop)).absorb ⟨0, "a😀"⟩).1 = some "a" := by
      decide +kernel
    have step : Took (fresh "answer" (some stop)) _ _ g := .item ⟨0, "a😀"⟩ .start rfl
    rwa [said] at step
  have emitted : g.emitted = 1 := by decide +kernel
  obtain ⟨inPlace, forward, sent⟩ := took.offset_in_place onBoundaries
  rw [emitted] at forward
  have unmatched : ∀ s, some stop = some s → s.find? (g.hear ⟨0, "b"⟩).lead = none := by
    rintro s ⟨⟩
    decide +kernel
  exact ⟨emitted, inPlace, forward, sent ⟨0, "b"⟩ rfl unmatched, by decide +kernel⟩

end Generation

end PromptStream
