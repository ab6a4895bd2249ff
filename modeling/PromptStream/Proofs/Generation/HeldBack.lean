import PromptStream.Proofs.Generation.Choices

/-!
# What is held back

While a stop matches nothing, a generation has emitted the stem of its first choice that
leaves out as many bytes as the stop is long, cut down to the end of a character
(`Took.released`).  So what it has emitted is known from what it has heard, however that was
split, and misses little of it (`Stop.byteLength_le_released_add`).

At a delta with which the stop matches, the first choice is cut where the match begins, or
where the emitted text ends if that is later, and every other choice at its own first match
(`Took.cut`).
-/

namespace PromptStream

/-! ## The emitted stem -/

namespace Stop

/-- The number of bytes that are held back for a match that may still come. -/
def holdback (stop : Option Stop) : Nat := stop.elim 0 fun s => s.source.utf8ByteSize

/-- The stem of a text that is emitted while it is not known how the text goes on. -/
def released (stop : Option Stop) (cs : List Char) : List Char :=
  takeBytes (byteLength cs - holdback stop) cs

variable (stop : Option Stop)

theorem released_isPrefix (cs : List Char) : released stop cs <+: cs := takeBytes_isPrefix _ cs

theorem released_nil : released stop [] = [] := List.prefix_nil.1 (released_isPrefix stop [])

/-- Without a stop nothing is held back. -/
theorem released_none (cs : List Char) : released none cs = cs :=
  takeBytes_of_isPrefix (List.prefix_refl cs)

/-- Text that arrives later takes nothing back. -/
theorem released_mono {cs ds : List Char} (longer : cs <+: ds) :
    released stop cs <+: released stop ds := by
  have grown := byteLength_le_of_isPrefix longer
  exact takeBytes_isPrefix_takeBytes longer (by omega)

/-- What is missing is what is held back, and no more than a part of a character besides. -/
theorem byteLength_le_released_add (cs : List Char) :
    byteLength cs ≤ byteLength (released stop cs) + holdback stop + 3 := by
  have near := le_floorBoundary_add (Nat.sub_le (byteLength cs) (holdback stop))
  rw [floorBoundary] at near
  rw [released]
  omega

/-- The text that is recorded for a choice when a stop has matched the first one: that one
is cut at an offset, and any other where the stop first matches it. -/
def cutRecorded (stop : Stop) (cut : Nat) : Nat → String → String
  | 0, s => String.ofList (takeBytes cut s.toList)
  | _ + 1, s => Generation.cutAtStop stop s

end Stop

namespace Generation

variable {name : String} {stop : Option Stop} {heard : Feed Delta} {said : List String}
  {g : Generation}

/-! ## While nothing stops a generation -/

/-- A delta with which the stop does not match releases what is released of the grown text. -/
theorem Running.absorb_released {out : List Char} {d : Delta} (h : Running g heard out)
    (active : g.stop = stop) (text : out = Stop.released stop (choiceText 0 heard).toList)
    (unmatched : ∀ s, stop = some s → d.choice = 0 →
      s.find? (choiceText 0 (heard ++ [.item d])) = none) :
    ∃ fresh g', g.absorb d = (fresh, g') ∧ fresh ≠ some "" ∧
      out ++ freshChars fresh = Stop.released stop (choiceText 0 (heard ++ [.item d])).toList ∧
      Running g' (heard ++ [.item d]) (out ++ freshChars fresh) := by
  have lead := (h.hear d).lead
  have grown : choiceText 0 (heard ++ [.item d])
      = choiceText 0 heard ++ choiceText 0 [.item d] := choiceText_append 0 heard _
  by_cases first : d.choice = 0
  · cases stop with
    | none =>
        obtain ⟨fresh, g', absorbed, nonempty, joined, next⟩ := h.absorb_free first active
        refine ⟨fresh, g', absorbed, nonempty, ?_, joined ▸ next⟩
        rw [joined, Stop.released_none, lead]
    | some s =>
        obtain ⟨fresh, g', shown, absorbed, nonempty, joined, next, size⟩ :=
          h.absorb_held first active (lead ▸ unmatched s rfl first)
        refine ⟨fresh, g', absorbed, nonempty, ?_, joined ▸ next⟩
        -- What is released only grows, so the boundary is never behind what is out.
        have behind : byteLength out
            ≤ byteLength (Stop.released (some s) (choiceText 0 (heard ++ [.item d])).toList) := by
          rw [text, grown, String.toList_append]
          exact byteLength_le_of_isPrefix (Stop.released_mono _ (List.prefix_append _ _))
        have reached : byteLength shown
            = byteLength (Stop.released (some s) (choiceText 0 (heard ++ [.item d])).toList) := by
          rw [size, holdbackBoundary,
            show (g.hear d).emitted = byteLength out from h.emitted.offset.symm, leadLength, lead]
          exact Nat.max_eq_left behind
        rw [joined, ← takeBytes_of_isPrefix next.stem, reached]
        exact takeBytes_of_isPrefix (Stop.released_isPrefix _ _)
  · refine ⟨none, g.hear d, absorb_of_other g first, by simp, ?_, ?_⟩
    · rw [grown, choiceText_item, if_neg first, String.append_empty, ← text]
      exact List.append_nil out
    · exact (List.append_nil out).symm ▸ h.hear d

/-- While nothing has stopped it, a generation has said exactly what is released of all that
it has heard of the first choice. -/
theorem Took.released (h : Took (fresh name stop) heard said g)
    (passes : ∀ s, stop = some s → s.Passes heard) :
    "" ∉ said ∧ spoken said = Stop.released stop (choiceText 0 heard).toList ∧
      Running g heard (spoken said) := by
  induction h with
  | start => exact ⟨List.not_mem_nil, (Stop.released_nil stop).symm, Running.start name stop⟩
  | @item heard said g d took goesOn ih =>
      obtain ⟨nonempty, text, running⟩ := ih fun s active => (passes s active).of_append
      obtain ⟨fresh, g', absorbed, freshNonempty, joined, next⟩ :=
        running.absorb_released took.keeps.2 text fun s active => passes s active heard d [] rfl
      rw [absorbed, spoken_append_fresh]
      refine ⟨?_, joined, next⟩
      rw [List.mem_append, not_or]
      exact ⟨nonempty, fun empty => freshNonempty (Option.mem_toList.1 empty)⟩
  | @pending heard said g took goesOn ih =>
      obtain ⟨nonempty, text, running⟩ := ih fun s active => (passes s active).of_append
      have same : choiceText 0 (heard ++ [.pending]) = choiceText 0 heard := by
        rw [choiceText_append]
        exact String.append_empty
      rw [same]
      exact ⟨nonempty, text, running.wait⟩

/-- A generation goes on with all that neither stops it nor fails. -/
theorem goesOnWith_of_passes (name : String) (passes : ∀ s, stop = some s → s.Passes heard)
    (healthy : ∀ f, .failed f ∉ heard) : GoesOnWith (fresh name stop) heard := by
  induction heard using List.reverseRecOn with
  | nil => exact ⟨[], _, .start, rfl⟩
  | append_singleton heard signal ih =>
      obtain ⟨said, g, took, goesOn⟩ := ih (fun s active => (passes s active).of_append)
        fun f mem => healthy f (List.mem_append_left _ mem)
      cases signal with
      | item d =>
          have next := took.item d goesOn
          exact ⟨_, _, next, (next.gathers_of_passes passes).1⟩
      | failed f => exact absurd (by simp) (healthy f)
      | pending => exact ⟨said, g, took.pending goesOn, goesOn⟩

/-! ## Where a stop matches -/

theorem texts_truncateLead (g : Generation) (cut : Nat) :
    (g.truncateLead cut).texts.length = g.texts.length ∧
      (g.truncateLead cut).texts.getD 0 ""
        = String.ofList (takeBytes cut (g.texts.getD 0 "").toList) ∧
      ∀ choice, (g.truncateLead cut).texts.getD (choice + 1) "" = g.texts.getD (choice + 1) "" := by
  obtain ⟨name, stop, texts, emitted, done⟩ := g
  cases texts with
  | nil => exact ⟨rfl, rfl, fun _ => rfl⟩
  | cons first others => exact ⟨by simp [truncateLead], rfl, fun _ => rfl⟩

/-- A delta with which the stop first matches ends a generation.  Its result is cut where the
match begins, or where the emitted text ends if that is later. -/
theorem Took.cut {stop : Stop} {d : Delta} {start : Nat}
    (h : Took (fresh name (some stop)) heard said g) (passes : stop.Passes heard)
    (first : d.choice = 0)
    (matched : stop.find? (choiceText 0 (heard ++ [.item d])) = some start) :
    let feed := heard ++ [.item d]
    let emitted := byteLength (Stop.released (some stop) (choiceText 0 heard).toList)
    (g.absorb d).2.done = true ∧
      (g.absorb d).2.value = .ofChoices (topChoice feed) fun choice =>
        stop.cutRecorded (max start emitted) choice (choiceText choice feed) := by
  intro feed emitted
  obtain ⟨-, text, running⟩ := h.released (passes.only rfl)
  have texts : (g.hear d).texts = gathered feed := by
    rw [gathered_append_item, ← (h.gathers_of_passes (passes.only rfl)).2.1]
    rfl
  have behind : g.emitted = emitted := by
    rw [← running.emitted.offset, text]
  have found : stop.find? (g.hear d).lead = some start := by
    rw [(running.hear d).lead]
    exact matched
  rw [absorb_of_matched g first h.keeps.2 found, behind]
  refine ⟨finish_done _, ?_⟩
  obtain ⟨long, lead, others⟩ := texts_truncateLead (g.hear d) (max start emitted)
  rw [texts] at long lead others
  rw [value_eq_ofTexts]
  refine ofTexts_eq_ofChoices ?_ fun choice _ => ?_
  · rw [length_finish_texts, takeFresh_texts, long, length_gathered]
  · have active : (g.hear d).stop = some stop := h.keeps.2
    rw [getD_finish_texts, takeFresh_texts, takeFresh_stop,
      show ((g.hear d).truncateLead _).stop = some stop from active]
    cases choice with
    | zero => rw [Stop.recorded_zero, lead, getD_gathered]; rfl
    | succ choice => rw [others, getD_gathered]; rfl

end Generation

end PromptStream
