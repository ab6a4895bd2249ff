import PromptStream.Generation
import PromptStream.Proofs.Text.Offset

/-!
# What a generation emits

A generation emits the first choice piece by piece and cuts it at a stop.  One
invariant carries everything: what was emitted is a stem of the first choice,
and `emitted` is its length in bytes (`Generation.Emitted`).  So every slice
that is taken lies between two boundaries, in order, and no piece is lost.

* `Running`: nothing was cut yet, and the first choice is all that was heard of
  it.
* `Finished`: the first choice is exactly what was emitted, and a stem of what
  was heard.

A delta keeps a generation running or finishes it (`Running.absorb`), and the end
of the completion finishes it (`Running.close`).  A stop may match anywhere, also
inside text that was emitted before; all that is asked of it is that a match
begins between two characters.
-/

namespace PromptStream

/-! ## What was heard -/

/-- The texts that a feed brings for a choice, in order. -/
def choiceTexts (choice : Nat) (feed : Feed Delta) : List String :=
  feed.filterMap fun
    | .item d => if d.choice = choice then some d.text else none
    | _ => none

/-- All that a feed brings for a choice. -/
def choiceText (choice : Nat) (feed : Feed Delta) : String := String.join (choiceTexts choice feed)

theorem choiceTexts_append (choice : Nat) (xs ys : Feed Delta) :
    choiceTexts choice (xs ++ ys) = choiceTexts choice xs ++ choiceTexts choice ys :=
  List.filterMap_append

theorem choiceText_append (choice : Nat) (xs ys : Feed Delta) :
    choiceText choice (xs ++ ys) = choiceText choice xs ++ choiceText choice ys := by
  rw [choiceText, choiceTexts_append, String.join_append]
  rfl

theorem choiceText_item (choice : Nat) (d : Delta) :
    choiceText choice [.item d] = if d.choice = choice then d.text else "" := by
  by_cases same : d.choice = choice
  · simp [choiceText, choiceTexts, same]
  · simp [choiceText, choiceTexts, same]

/-- The text of the first choice in a result. -/
def OutputValue.firstText : OutputValue → String
  | .text s => s
  | .textList items => items.headD ""
  | _ => ""

/-- A stop whose matches begin between two characters of the text. -/
def Stop.OnBoundaries (stop : Stop) : Prop :=
  ∀ s start, stop.find? s = some start → isBoundary s.toList start = true

namespace Generation

/-! ## The parts of a step -/

@[simp] theorem finish_name (g : Generation) : g.finish.name = g.name := by
  unfold finish; split <;> rfl

@[simp] theorem finish_stop (g : Generation) : g.finish.stop = g.stop := by
  unfold finish; split <;> rfl

@[simp] theorem finish_done (g : Generation) : g.finish.done = true := by
  unfold finish; split <;> rfl

/-- Only the further choices are cut when a generation ends. -/
@[simp] theorem finish_lead (g : Generation) : g.finish.lead = g.lead := by
  unfold finish
  split
  next first others _ texts => rw [lead, lead, texts]; rfl
  next => rfl

/-- A delta of the first choice goes to its end, any other leaves it alone. -/
theorem headD_addDelta (texts : List String) (d : Delta) :
    (addDelta texts d).headD "" = if d.choice = 0 then texts.headD "" ++ d.text
      else texts.headD "" := by
  obtain ⟨choice, text⟩ := d
  cases texts with
  | nil =>
      cases choice with
      | zero => simp [addDelta]
      | succ n => simp [addDelta, List.replicate_succ]
  | cons first others =>
      cases choice with
      | zero => simp [addDelta]
      | succ n => simp [addDelta]

theorem lead_truncateLead (g : Generation) (cut : Nat) :
    (g.truncateLead cut).lead.toList = takeBytes cut g.lead.toList := by
  simp only [truncateLead, lead]
  cases g.texts with
  | nil => simp [takeBytes]
  | cons first others => simp

/-! ## Emitting -/

/-- What was emitted is a stem of the first choice, as long as `emitted` says. -/
structure Emitted (g : Generation) (out : List Char) : Prop where
  stem : out <+: g.lead.toList
  offset : byteLength out = g.emitted

/-- The characters that a step newly emits. -/
def freshChars (fresh : Option String) : List Char := (fresh.getD "").toList

/-- Emitting up to the end of a stem emits what that stem adds. -/
theorem Emitted.takeFresh {g : Generation} {out upTo : List Char} (h : g.Emitted out)
    (longer : out <+: upTo) (stem : upTo <+: g.lead.toList) :
    ∃ fresh, g.takeFresh (byteLength upTo) = (fresh, { g with emitted := byteLength upTo }) ∧
      fresh ≠ some "" ∧ out ++ freshChars fresh = upTo := by
  obtain ⟨added, rfl⟩ := longer
  obtain ⟨later, whole⟩ := stem
  have slice : sliceBytes? g.lead.toList g.emitted (byteLength (out ++ added)) = some added := by
    rw [← whole, ← h.offset]
    exact sliceBytes?_append out added later
  rw [Generation.takeFresh, slice]
  cases added with
  | nil =>
      refine ⟨none, ?_, by simp, by simp [freshChars]⟩
      rw [List.append_nil, h.offset]
  | cons c cs =>
      refine ⟨some (String.ofList (c :: cs)), rfl, ?_, by simp [freshChars]⟩
      intro empty
      have chars := congrArg String.toList (Option.some.inj empty)
      rw [String.toList_ofList] at chars
      cases chars

/-- Of two stems of a text, the longer one. -/
theorem exists_longer_stem {xs ys cs : List Char} (hx : xs <+: cs) (hy : ys <+: cs) :
    ∃ zs, zs <+: cs ∧ ys <+: zs ∧ byteLength zs = max (byteLength xs) (byteLength ys) := by
  by_cases h : byteLength xs ≤ byteLength ys
  · exact ⟨ys, hy, List.prefix_refl ys, (Nat.max_eq_right h).symm⟩
  · have shorter : byteLength ys ≤ byteLength xs := by omega
    exact ⟨xs, hx, stem_of_byteLength_le hy hx shorter, (Nat.max_eq_left shorter).symm⟩

/-! ## Running and finished generations -/

/-- A generation that has cut nothing: it holds all that was heard of the first
choice, and has emitted a stem of it. -/
structure Running (g : Generation) (heard : Feed Delta) (out : List Char) : Prop where
  lead : g.lead = choiceText 0 heard
  emitted : g.Emitted out
  goesOn : g.done = false

/-- A generation that has ended: its first choice is what it emitted, a stem of
what was heard. -/
structure Finished (g : Generation) (heard : Feed Delta) (out : List Char) : Prop where
  lead : g.lead.toList = out
  stem : out <+: (choiceText 0 heard).toList
  done : g.done = true

theorem Running.start (name : String) (stop : Option Stop) :
    Running ⟨name, stop, [], 0, false⟩ [] [] :=
  ⟨rfl, ⟨List.nil_prefix, rfl⟩, rfl⟩

theorem Running.stem {g : Generation} {heard : Feed Delta} {out : List Char}
    (h : Running g heard out) : out <+: (choiceText 0 heard).toList := by
  rw [← h.lead]
  exact h.emitted.stem

/-- A notice that nothing has arrived leaves a generation as it is. -/
theorem Running.wait {g : Generation} {heard : Feed Delta} {out : List Char}
    (h : Running g heard out) : Running g (heard ++ [.pending]) out := by
  refine ⟨?_, h.emitted, h.goesOn⟩
  rw [choiceText_append, h.lead]
  exact (String.append_empty).symm

/-- The generation with a delta added to its texts and nothing emitted yet. -/
def hear (g : Generation) (d : Delta) : Generation := { g with texts := addDelta g.texts d }

theorem Running.hear {g : Generation} {heard : Feed Delta} {out : List Char}
    (h : Running g heard out) (d : Delta) : Running (g.hear d) (heard ++ [.item d]) out := by
  have grown : (g.hear d).lead = g.lead ++ choiceText 0 [.item d] := by
    rw [choiceText_item]
    refine (headD_addDelta g.texts d).trans ?_
    split
    · rfl
    · exact (String.append_empty).symm
  refine ⟨?_, ⟨?_, h.emitted.offset⟩, h.goesOn⟩
  · rw [grown, choiceText_append, h.lead]
  · rw [grown, String.toList_append]
    exact h.emitted.stem.trans (List.prefix_append _ _)

/-- A running generation emits up to the end of a stem and goes on. -/
theorem Running.takeFresh {g : Generation} {heard : Feed Delta} {out upTo : List Char}
    (h : Running g heard out) (longer : out <+: upTo) (stem : upTo <+: g.lead.toList) :
    ∃ fresh g', g.takeFresh (byteLength upTo) = (fresh, g') ∧ fresh ≠ some "" ∧
      out ++ freshChars fresh = upTo ∧ Running g' heard upTo := by
  obtain ⟨fresh, taken, nonempty, joined⟩ := h.emitted.takeFresh longer stem
  exact ⟨fresh, _, taken, nonempty, joined, h.lead, ⟨stem, rfl⟩, h.goesOn⟩

/-! ## Taking in a delta -/

theorem absorb_of_other (g : Generation) {d : Delta} (other : d.choice ≠ 0) :
    g.absorb d = (none, g.hear d) := by
  rw [absorb, if_pos other]
  rfl

theorem absorb_of_free (g : Generation) {d : Delta} (first : d.choice = 0)
    (free : g.stop = none) : g.absorb d = (g.hear d).takeFresh (g.hear d).leadLength := by
  obtain ⟨name, stop, texts, emitted, done⟩ := g
  cases free
  rw [absorb, if_neg (not_not_intro first)]
  rfl

theorem absorb_of_unmatched (g : Generation) {d : Delta} {stop : Stop} (first : d.choice = 0)
    (active : g.stop = some stop) (unmatched : stop.find? (g.hear d).lead = none) :
    g.absorb d
      = (g.hear d).takeFresh ((g.hear d).holdbackBoundary stop.source.utf8ByteSize) := by
  obtain ⟨name, stop, texts, emitted, done⟩ := g
  cases active
  rw [hear] at unmatched
  rw [absorb, if_neg (not_not_intro first)]
  simp only [unmatched]
  rfl

theorem absorb_of_matched (g : Generation) {d : Delta} {stop : Stop} {start : Nat}
    (first : d.choice = 0) (active : g.stop = some stop)
    (matched : stop.find? (g.hear d).lead = some start) :
    g.absorb d
      = ((((g.hear d).truncateLead (max start g.emitted)).takeFresh (max start g.emitted)).1,
        (((g.hear d).truncateLead (max start g.emitted)).takeFresh
          (max start g.emitted)).2.finish) := by
  obtain ⟨name, stop, texts, emitted, done⟩ := g
  cases active
  rw [hear] at matched
  rw [absorb, if_neg (not_not_intro first)]
  simp only [matched]
  rfl

/-- Without a stop everything heard is emitted at once. -/
theorem Running.absorb_free {g : Generation} {heard : Feed Delta} {out : List Char}
    (h : Running g heard out) {d : Delta} (first : d.choice = 0) (free : g.stop = none) :
    ∃ fresh g', g.absorb d = (fresh, g') ∧ fresh ≠ some "" ∧
      out ++ freshChars fresh = (g.hear d).lead.toList ∧
      Running g' (heard ++ [.item d]) (g.hear d).lead.toList := by
  have heardMore := h.hear d
  obtain ⟨fresh, g', taken, rest⟩ :=
    heardMore.takeFresh heardMore.emitted.stem (List.prefix_refl _)
  refine ⟨fresh, g', ?_, rest⟩
  rw [absorb_of_free g first free]
  exact taken

/-- While the stop matches nothing, text is emitted up to the boundary that holds
back as many bytes as the stop is long. -/
theorem Running.absorb_held {g : Generation} {heard : Feed Delta} {out : List Char} {stop : Stop}
    (h : Running g heard out) {d : Delta} (first : d.choice = 0) (active : g.stop = some stop)
    (unmatched : stop.find? (g.hear d).lead = none) :
    ∃ fresh g' shown, g.absorb d = (fresh, g') ∧ fresh ≠ some "" ∧
      out ++ freshChars fresh = shown ∧ Running g' (heard ++ [.item d]) shown ∧
      byteLength shown = (g.hear d).holdbackBoundary stop.source.utf8ByteSize := by
  have heardMore := h.hear d
  obtain ⟨shown, stem, longer, size⟩ := exists_longer_stem
    (takeBytes_isPrefix ((g.hear d).leadLength - stop.source.utf8ByteSize) (g.hear d).lead.toList)
    heardMore.emitted.stem
  have boundary : byteLength shown = (g.hear d).holdbackBoundary stop.source.utf8ByteSize := by
    rw [size, heardMore.emitted.offset]
    rfl
  obtain ⟨fresh, g', taken, nonempty, joined, running⟩ := heardMore.takeFresh longer stem
  refine ⟨fresh, g', shown, ?_, nonempty, joined, running, boundary⟩
  rw [absorb_of_unmatched g first active unmatched, ← boundary]
  exact taken

/-- A match cuts the first choice where it begins, or at the end of what was
emitted if that is later, and all that is left is emitted. -/
theorem Running.absorb_cut {g : Generation} {heard : Feed Delta} {out : List Char} {stop : Stop}
    {start : Nat} (h : Running g heard out) {d : Delta} (first : d.choice = 0)
    (active : g.stop = some stop) (matched : stop.find? (g.hear d).lead = some start)
    (between : isBoundary (g.hear d).lead.toList start = true) :
    ∃ fresh g' shown, g.absorb d = (fresh, g') ∧ fresh ≠ some "" ∧
      out ++ freshChars fresh = shown ∧ Finished g' (heard ++ [.item d]) shown ∧
      byteLength shown = max start g.emitted := by
  have heardMore := h.hear d
  obtain ⟨upToMatch, matchStem, matchSize⟩ := isBoundary_iff.1 between
  obtain ⟨shown, stem, longer, size⟩ := exists_longer_stem matchStem heardMore.emitted.stem
  have cut : byteLength shown = max start g.emitted := by
    rw [size, matchSize, heardMore.emitted.offset]
    rfl
  have kept : ((g.hear d).truncateLead (max start g.emitted)).lead.toList = shown := by
    rw [lead_truncateLead, ← cut]
    exact takeBytes_of_isPrefix stem
  have emittedBefore : ((g.hear d).truncateLead (max start g.emitted)).Emitted out := by
    refine ⟨?_, heardMore.emitted.offset⟩
    rw [kept]
    exact longer
  obtain ⟨fresh, taken, nonempty, joined⟩ := emittedBefore.takeFresh longer
    (kept.symm ▸ List.prefix_refl shown)
  have step := absorb_of_matched g first active matched
  rw [cut] at taken
  rw [taken] at step
  refine ⟨fresh, _, shown, step, nonempty, joined, ⟨?_, ?_, finish_done _⟩, cut⟩
  · rw [finish_lead]
    exact kept
  · rw [← heardMore.lead]
    exact stem

/-- A delta keeps a generation running or finishes it, and what it newly emits
follows what was emitted before. -/
theorem Running.absorb {g : Generation} {heard : Feed Delta} {out : List Char}
    (h : Running g heard out) (between : ∀ stop, g.stop = some stop → stop.OnBoundaries)
    (d : Delta) :
    ∃ fresh g', g.absorb d = (fresh, g') ∧ fresh ≠ some "" ∧
      (Running g' (heard ++ [.item d]) (out ++ freshChars fresh) ∨
        Finished g' (heard ++ [.item d]) (out ++ freshChars fresh)) := by
  by_cases first : d.choice = 0
  · cases active : g.stop with
    | none =>
        obtain ⟨fresh, g', step, nonempty, joined, running⟩ := h.absorb_free first active
        exact ⟨fresh, g', step, nonempty, .inl (by rw [joined]; exact running)⟩
    | some stop =>
        cases found : stop.find? (g.hear d).lead with
        | none =>
            obtain ⟨fresh, g', shown, step, nonempty, rfl, running, -⟩ :=
              h.absorb_held first active found
            exact ⟨fresh, g', step, nonempty, .inl running⟩
        | some start =>
            obtain ⟨fresh, g', shown, step, nonempty, rfl, finished, -⟩ :=
              h.absorb_cut first active found (between stop active _ _ found)
            exact ⟨fresh, g', step, nonempty, .inr finished⟩
  · refine ⟨none, g.hear d, absorb_of_other g first, by simp, .inl ?_⟩
    simpa [freshChars] using h.hear d

/-- At the end of the completion all that is left is emitted. -/
theorem Running.close {g : Generation} {heard : Feed Delta} {out : List Char}
    (h : Running g heard out) :
    ∃ fresh g', g.close = (fresh, g') ∧ fresh ≠ some "" ∧
      out ++ freshChars fresh = (choiceText 0 heard).toList ∧
      Finished g' heard (out ++ freshChars fresh) := by
  obtain ⟨fresh, taken, nonempty, joined⟩ := h.emitted.takeFresh h.emitted.stem (List.prefix_refl _)
  have closed : g.close = (fresh, finish { g with emitted := byteLength g.lead.toList }) :=
    congrArg (fun step => (step.1, step.2.finish)) taken
  refine ⟨fresh, _, closed, nonempty, by rw [joined, h.lead], ?_⟩
  rw [joined]
  refine ⟨?_, ?_, finish_done _⟩
  · exact congrArg String.toList (finish_lead _)
  · exact h.lead ▸ List.prefix_refl _

/-! ## What never changes, and the result -/

@[simp] theorem takeFresh_name (g : Generation) (n : Nat) : (g.takeFresh n).2.name = g.name := by
  unfold Generation.takeFresh; split <;> rfl

@[simp] theorem takeFresh_stop (g : Generation) (n : Nat) : (g.takeFresh n).2.stop = g.stop := by
  unfold Generation.takeFresh; split <;> rfl

/-- A delta changes neither the name nor the stop of a generation. -/
theorem absorb_keeps (g : Generation) (d : Delta) :
    (g.absorb d).2.name = g.name ∧ (g.absorb d).2.stop = g.stop := by
  by_cases first : d.choice = 0
  · cases active : g.stop with
    | none =>
        rw [absorb_of_free g first active, takeFresh_name, takeFresh_stop]
        exact ⟨rfl, active⟩
    | some stop =>
        cases found : stop.find? (g.hear d).lead with
        | none =>
            rw [absorb_of_unmatched g first active found, takeFresh_name, takeFresh_stop]
            exact ⟨rfl, active⟩
        | some start =>
            rw [absorb_of_matched g first active found, finish_name, finish_stop, takeFresh_name,
              takeFresh_stop]
            exact ⟨rfl, active⟩
  · rw [absorb_of_other g first]
    exact ⟨rfl, rfl⟩

theorem close_keeps (g : Generation) : g.close.2.name = g.name ∧ g.close.2.stop = g.stop := by
  constructor
  · exact (finish_name _).trans (takeFresh_name _ _)
  · exact (finish_stop _).trans (takeFresh_stop _ _)

theorem value_firstText (g : Generation) : g.value.firstText = g.lead := by
  unfold value lead
  match g.texts with
  | [] => rfl
  | [only] => rfl
  | first :: second :: others => rfl

end Generation

end PromptStream
