import Mathlib.Data.List.DropRight
import Mathlib.Data.List.GetD
import Mathlib.Order.MinMax
import PromptStream.Proofs.Generation.History

/-!
# Generations without a stop

Without a stop a generation takes in its whole completion, and it gathers for every
choice what the completion brings for it (`Ended.texts_of_free`).  The texts that it
gathers reach up to the highest choice that was named (`lt_length_gathered_iff`), so
they are known from the text of every choice, but for empty texts at their end
(`eq_rdropWhile_of_getD`).

The same holds while a stop matches nothing in the first choice (`Took.gathers_of_passes`).
-/

namespace PromptStream

/-- A stop that matches nothing of what a feed has brought for the first choice, at any
moment at which it brings more. -/
def Stop.Passes (stop : Stop) (feed : Feed Delta) : Prop :=
  ∀ heard d left, feed = heard ++ .item d :: left → d.choice = 0 →
    stop.find? (choiceText 0 (heard ++ [.item d])) = none

theorem Stop.Passes.of_append {stop : Stop} {heard left : Feed Delta}
    (h : stop.Passes (heard ++ left)) : stop.Passes heard := by
  rintro before d after rfl first
  exact h before d (after ++ left) (by simp) first

/-- There is one stop at most, so what the one passes all of them do. -/
theorem Stop.Passes.only {stop : Stop} {active : Option Stop} {heard : Feed Delta}
    (h : stop.Passes heard) (same : active = some stop) :
    ∀ s, active = some s → s.Passes heard :=
  fun _ other => Option.some.inj (same.symm.trans other) ▸ h

/-- The result that some texts make: one text, or a list when there are several. -/
def OutputValue.ofTexts : List String → OutputValue
  | [] => .text ""
  | [only] => .text only
  | many => .textList many

namespace Generation

theorem value_eq_ofTexts (g : Generation) : g.value = .ofTexts g.texts := by
  unfold value OutputValue.ofTexts
  match g.texts with
  | [] => rfl
  | [only] => rfl
  | first :: second :: others => rfl

/-! ## Gathered texts -/

/-- The texts with what a signal brings added to them. -/
def gather (texts : List String) : Signal Delta → List String
  | .item d => addDelta texts d
  | _ => texts

/-- The texts that some signals bring for the choices, gathered one after another. -/
def gathered (heard : Feed Delta) : List String := heard.foldl gather []

theorem gathered_append_item (heard : Feed Delta) (d : Delta) :
    gathered (heard ++ [.item d]) = addDelta (gathered heard) d := by
  simp [gathered, gather]

theorem gathered_append_pending (heard : Feed Delta) :
    gathered (heard ++ [.pending]) = gathered heard := by
  simp [gathered, gather]

theorem length_addDelta (texts : List String) (d : Delta) :
    (addDelta texts d).length = max texts.length (d.choice + 1) := by
  simp only [addDelta, List.length_modify, List.length_append, List.length_replicate]
  omega

/-- Empty texts at the end make no difference to what is found at a position. -/
theorem getD_append_replicate (texts : List String) (n choice : Nat) :
    (texts ++ List.replicate n "").getD choice "" = texts.getD choice "" := by
  simp only [List.getD_eq_getElem?_getD, List.getElem?_append, List.getElem?_replicate]
  split
  next => rfl
  next beyond =>
    have missing : texts[choice]? = none := List.getElem?_eq_none (Nat.le_of_not_lt beyond)
    rw [missing]
    split <;> rfl

theorem getD_addDelta (texts : List String) (d : Delta) (choice : Nat) :
    (addDelta texts d).getD choice ""
      = texts.getD choice "" ++ if d.choice = choice then d.text else "" := by
  have padded := getD_append_replicate texts (d.choice + 1 - texts.length) choice
  have reached : d.choice < (texts ++ List.replicate (d.choice + 1 - texts.length) "").length := by
    simp only [List.length_append, List.length_replicate]
    omega
  rw [← padded, addDelta]
  generalize texts ++ List.replicate (d.choice + 1 - texts.length) "" = longer at reached ⊢
  simp only [List.getD_eq_getElem?_getD, List.getElem?_modify]
  by_cases same : d.choice = choice
  · subst same
    simp [List.getElem?_eq_getElem reached]
  · simp [same]

/-- What is gathered for a choice is all that was brought for it. -/
theorem getD_gathered (heard : Feed Delta) (choice : Nat) :
    (gathered heard).getD choice "" = choiceText choice heard := by
  induction heard using List.reverseRecOn with
  | nil => rfl
  | append_singleton heard signal ih =>
      rw [choiceText_append, ← ih]
      cases signal with
      | item d => rw [gathered_append_item, getD_addDelta, choiceText_item]
      | failed f => simp [gathered, gather, choiceText, choiceTexts]
      | pending => simp [gathered, gather, choiceText, choiceTexts]

theorem headD_gathered (heard : Feed Delta) :
    (gathered heard).headD "" = choiceText 0 heard := by
  rw [← getD_gathered]
  cases gathered heard <;> rfl

/-- The texts reach up to the highest choice that was named. -/
theorem lt_length_gathered_iff (heard : Feed Delta) (choice : Nat) :
    choice < (gathered heard).length ↔ ∃ d, .item d ∈ heard ∧ choice ≤ d.choice := by
  induction heard using List.reverseRecOn with
  | nil => simp [gathered]
  | append_singleton heard signal ih =>
      cases signal with
      | item d =>
          rw [gathered_append_item, length_addDelta, lt_max_iff, ih]
          simp only [List.mem_append, List.mem_singleton, Signal.item.injEq, Nat.lt_succ_iff,
            or_and_right, exists_or, exists_eq_left]
      | failed f => simpa [gathered, gather] using ih
      | pending => simpa [gathered, gather] using ih

/-- A feed for the first choice alone leaves a single text. -/
theorem ofTexts_gathered_of_lead {heard : Feed Delta}
    (lead : ∀ d, .item d ∈ heard → d.choice = 0) :
    OutputValue.ofTexts (gathered heard) = .text (choiceText 0 heard) := by
  have first := getD_gathered heard 0
  have single : ¬ 1 < (gathered heard).length := by
    intro longer
    obtain ⟨d, mem, le⟩ := (lt_length_gathered_iff heard 1).1 longer
    rw [lead d mem] at le
    cases le
  rw [← first]
  generalize gathered heard = texts at single ⊢
  match texts with
  | [] => rfl
  | [only] => rfl
  | first :: second :: others => simp at single

/-! ## Texts for the first choice -/

theorem choiceText_leads (texts : List String) :
    choiceText 0 (texts.map fun s => .item ⟨0, s⟩) = String.join texts := by
  simp [choiceText, choiceTexts, List.filterMap_map]

/-- A completion that brings some texts for the first choice leaves them joined. -/
theorem ofTexts_gathered_leads (texts : List String) :
    OutputValue.ofTexts (gathered (texts.map fun s => .item ⟨0, s⟩))
      = .text (String.join texts) := by
  rw [ofTexts_gathered_of_lead, choiceText_leads]
  intro d mem
  obtain ⟨s, -, same⟩ := List.mem_map.1 mem
  cases same
  rfl

/-! ## Texts that are known choice by choice -/

/-- Texts that hold something at their end are as long as they have to be. -/
theorem length_le_of_getD {texts others : List String} (last : texts.getLast? ≠ some "")
    (same : ∀ choice, texts.getD choice "" = others.getD choice "") :
    texts.length ≤ others.length := by
  by_contra longer
  rw [Nat.not_le] at longer
  refine last ?_
  have beyond : others.getD (texts.length - 1) "" = "" :=
    List.getD_eq_default _ _ (by omega)
  have there : texts.length - 1 < texts.length := by omega
  have found := same (texts.length - 1)
  rw [beyond, List.getD_eq_getElem _ _ there] at found
  rw [List.getLast?_eq_getElem?, List.getElem?_eq_getElem there, found]

theorem ext_getD {texts others : List String} (long : texts.length = others.length)
    (same : ∀ choice, texts.getD choice "" = others.getD choice "") : texts = others := by
  refine List.ext_getElem long fun choice here there => ?_
  have found := same choice
  rwa [List.getD_eq_getElem _ _ here, List.getD_eq_getElem _ _ there] at found

/-- The texts without the empty ones at their end. -/
def shown (texts : List String) : List String := texts.rdropWhile (· == "")

theorem shown_append_replicate (texts : List String) :
    ∃ n, texts = shown texts ++ List.replicate n "" := by
  refine ⟨(texts.rtakeWhile (· == "")).length, ?_⟩
  have empty : texts.rtakeWhile (· == "")
      = List.replicate (texts.rtakeWhile (· == "")).length "" := by
    refine List.eq_replicate_of_mem fun s mem => ?_
    simpa using List.mem_rtakeWhile_imp mem
  rw [← empty, shown, List.rdropWhile_append_rtakeWhile]

theorem getLast?_shown (texts : List String) : (shown texts).getLast? ≠ some "" := by
  intro last
  have some : shown texts ≠ [] := by
    intro none
    rw [none] at last
    cases last
  rw [List.getLast?_eq_some_getLast some] at last
  have holds := List.rdropWhile_last_not (· == "") texts some
  exact holds (beq_of_eq (Option.some.inj last))

/-- Texts that hold something at their end are known from the text of every choice. -/
theorem eq_shown_of_getD {texts others : List String} (last : texts.getLast? ≠ some "")
    (same : ∀ choice, texts.getD choice "" = others.getD choice "") : texts = shown others := by
  obtain ⟨n, padded⟩ := shown_append_replicate others
  have alike : ∀ choice, texts.getD choice "" = (shown others).getD choice "" := by
    intro choice
    rw [same, padded, getD_append_replicate, ← padded]
  have long : texts.length = (shown others).length :=
    Nat.le_antisymm (length_le_of_getD last alike)
      (length_le_of_getD (getLast?_shown others) fun choice => (alike choice).symm)
  exact ext_getD long alike

/-- Texts are shown as a whole exactly if the last one is not empty. -/
theorem shown_eq_self_iff {texts : List String} :
    shown texts = texts ↔ texts.getLast? ≠ some "" := by
  constructor
  · intro same
    rw [← same]
    exact getLast?_shown texts
  · intro last
    exact (eq_shown_of_getD last fun _ => rfl).symm

/-- The result stays the same without the empty texts at the end exactly if there are
none, or there is one text at most. -/
theorem ofTexts_shown_eq_iff (texts : List String) :
    OutputValue.ofTexts (shown texts) = OutputValue.ofTexts texts
      ↔ texts.length ≤ 1 ∨ texts.getLast? ≠ some "" := by
  rw [← shown_eq_self_iff]
  match texts with
  | [] => simp [shown]
  | [only] =>
      have short : [only].length ≤ 1 := Nat.le_refl 1
      rw [iff_true_right (.inl short), shown, List.rdropWhile_singleton]
      split
      next empty =>
        rw [eq_of_beq empty]
        rfl
      next => rfl
  | first :: second :: others =>
      have many : ¬ (first :: second :: others).length ≤ 1 := by simp
      rw [or_iff_right many]
      constructor
      · intro same
        -- A shorter list of texts makes a text or a shorter list.
        cases left : shown (first :: second :: others) with
        | nil =>
            rw [left] at same
            cases same
        | cons a more =>
            rw [left] at same
            cases more with
            | nil => cases same
            | cons b more =>
                cases same
                rfl
      · intro same
        rw [same]

/-! ## Histories that nothing stops -/

section Free

variable {name : String} {heard left : Feed Delta} {said : List String} {g : Generation}

theorem takeFresh_texts (g : Generation) (n : Nat) : (g.takeFresh n).2.texts = g.texts := by
  unfold Generation.takeFresh
  split <;> rfl

theorem takeFresh_done (g : Generation) (n : Nat) : (g.takeFresh n).2.done = g.done := by
  unfold Generation.takeFresh
  split <;> rfl

/-- A delta is added to its choice and ends nothing if no stop matches the first choice. -/
theorem absorb_of_passes {d : Delta}
    (passes : ∀ stop, g.stop = some stop → d.choice = 0 → stop.find? (g.hear d).lead = none) :
    (g.absorb d).2.texts = (g.hear d).texts ∧ (g.absorb d).2.done = g.done := by
  by_cases first : d.choice = 0
  · cases active : g.stop with
    | none =>
        rw [absorb_of_free g first active, takeFresh_texts, takeFresh_done]
        exact ⟨rfl, rfl⟩
    | some stop =>
        rw [absorb_of_unmatched g first active (passes stop active first), takeFresh_texts,
          takeFresh_done]
        exact ⟨rfl, rfl⟩
  · rw [absorb_of_other g first]
    exact ⟨rfl, rfl⟩

theorem close_free {g : Generation} (free : g.stop = none) : g.close.2.texts = g.texts := by
  have stop : (g.takeFresh g.leadLength).2.stop = none := (takeFresh_stop g _).trans free
  have finished : g.close.2 = (g.takeFresh g.leadLength).2.finish := rfl
  rw [finished, finish, stop]
  exact takeFresh_texts g _

/-- While nothing stops it, a generation goes on and gathers what it hears. -/
theorem Took.gathers_of_passes {stop : Option Stop} (h : Took (fresh name stop) heard said g)
    (passes : ∀ s, stop = some s → s.Passes heard) :
    g.done = false ∧ g.texts = gathered heard ∧ ∀ f, .failed f ∉ heard := by
  induction h with
  | start => exact ⟨rfl, rfl, fun f => List.not_mem_nil⟩
  | @item heard said g d took goesOn ih =>
      obtain ⟨-, texts, healthy⟩ := ih fun s active => (passes s active).of_append
      have hears : (g.hear d).texts = gathered (heard ++ [.item d]) := by
        rw [gathered_append_item, ← texts]
        rfl
      have unmatched : ∀ s, g.stop = some s → d.choice = 0 → s.find? (g.hear d).lead = none := by
        intro s active first
        rw [lead, hears, headD_gathered]
        exact passes s (took.keeps.2.symm.trans active) heard d [] rfl first
      obtain ⟨added, stays⟩ := absorb_of_passes unmatched
      refine ⟨stays.trans goesOn, added.trans hears, ?_⟩
      intro f mem
      rcases List.mem_append.1 mem with before | now
      · exact healthy f before
      · cases List.mem_singleton.1 now
  | @pending heard said g took goesOn ih =>
      obtain ⟨-, texts, healthy⟩ := ih fun s active => (passes s active).of_append
      refine ⟨goesOn, ?_, ?_⟩
      · rw [gathered_append_pending, texts]
      · intro f mem
        rcases List.mem_append.1 mem with before | now
        · exact healthy f before
        · cases List.mem_singleton.1 now

theorem Took.gathers (h : Took (fresh name none) heard said g) :
    g.done = false ∧ g.texts = gathered heard ∧ ∀ f, .failed f ∉ heard :=
  h.gathers_of_passes nofun

/-- Without a stop a generation that is over has taken in its whole completion, which
did not fail: it has gathered the completion and said its first choice. -/
theorem Ended.gathers (h : Ended (fresh name none) heard left said g) :
    left = [] ∧ g.texts = gathered heard ∧ (∀ f, .failed f ∉ heard) ∧
      String.join said = choiceText 0 heard := by
  obtain ⟨-, finished⟩ := h.finished fun s active => absurd active (Option.some_ne_none s).symm
  cases h with
  | cut _ took done =>
      rw [took.gathers.1] at done
      cases done
  | @closed said g took goesOn =>
      obtain ⟨-, texts, healthy⟩ := took.gathers
      have gathers : g.close.2.texts = gathered heard := (close_free took.keeps.2).trans texts
      have lead : g.close.2.lead = choiceText 0 heard := by
        rw [Generation.lead, gathers, headD_gathered]
      refine ⟨rfl, gathers, healthy, ?_⟩
      rw [← lead]
      exact (String.toList_inj.1 finished.lead).symm

end Free

end Generation

end PromptStream
