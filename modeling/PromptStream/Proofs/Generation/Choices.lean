import PromptStream.Proofs.Generation.Unstopped

/-!
# The choices of a completion

What a generation makes of a completion that nothing stops depends on what the completion
brings for each choice, and not on how the choices are interleaved.  The result has one
text for every choice up to the largest one that was named (`Ended.of_passes`).  Without a
stop the first choice is said just as it arrives, delta by delta, but for the empty ones
(`Ended.said_eq`).
-/

namespace PromptStream

/-! ## The largest choice -/

/-- The largest choice that a feed names; the first one if it names none. -/
def topChoice : Feed Delta → Nat
  | [] => 0
  | .item d :: feed => max d.choice (topChoice feed)
  | _ :: feed => topChoice feed

theorem choiceTexts_cons (choice : Nat) (signal : Signal Delta) (feed : Feed Delta) :
    choiceTexts choice (signal :: feed) = choiceTexts choice [signal] ++ choiceTexts choice feed :=
  choiceTexts_append choice [signal] feed

theorem choiceTexts_item (choice : Nat) (d : Delta) :
    choiceTexts choice [.item d] = if d.choice = choice then [d.text] else [] := by
  by_cases same : d.choice = choice <;> simp [choiceTexts, same]

/-- A choice is named if something, even an empty text, is brought for it. -/
theorem choiceTexts_ne_nil_iff {choice : Nat} {feed : Feed Delta} :
    choiceTexts choice feed ≠ [] ↔ ∃ d, .item d ∈ feed ∧ d.choice = choice := by
  induction feed with
  | nil => simp [choiceTexts]
  | cons signal feed ih =>
      rw [choiceTexts_cons, ne_eq, List.append_eq_nil_iff, not_and_or, ← ne_eq, ← ne_eq, ih]
      cases signal with
      | item d => simp [choiceTexts_item, or_and_right, exists_or]
      | failed f => simp [choiceTexts]
      | pending => simp [choiceTexts]

/-- Where more of the first choice comes, the feed up to there is searched. -/
theorem Stop.passes_iff {stop : Stop} {feed : Feed Delta} :
    stop.Passes feed ↔ ∀ n < feed.length, choiceTexts 0 feed[n]?.toList ≠ [] →
      stop.find? (choiceText 0 (feed.take (n + 1))) = none := by
  constructor
  · intro passes n within some
    obtain ⟨d, mem, first⟩ := choiceTexts_ne_nil_iff.1 some
    have here : feed[n] = .item d := by
      rw [List.getElem?_eq_getElem within] at mem
      exact (List.mem_singleton.1 mem).symm
    have split : feed = feed.take n ++ .item d :: feed.drop (n + 1) := by
      rw [← here, ← List.drop_eq_getElem_cons within, List.take_append_drop]
    have searched := passes _ d _ split first
    rwa [← here, List.take_append_getElem within] at searched
  · rintro passes heard d left rfl first
    have some : choiceTexts 0 (heard ++ .item d :: left)[heard.length]?.toList ≠ [] := by
      rw [List.getElem?_append_right (Nat.le_refl _), Nat.sub_self]
      exact choiceTexts_ne_nil_iff.2 ⟨d, List.mem_singleton_self _, first⟩
    have searched := passes heard.length (by simp) some
    rwa [List.append_cons, List.take_left' (by simp)] at searched

instance (stop : Stop) (feed : Feed Delta) : Decidable (stop.Passes feed) :=
  decidable_of_iff _ Stop.passes_iff.symm

theorem le_topChoice_iff {choice : Nat} {feed : Feed Delta} :
    choice ≤ topChoice feed ↔ choice = 0 ∨ ∃ d, .item d ∈ feed ∧ choice ≤ d.choice := by
  induction feed with
  | nil => simp [topChoice]
  | cons signal feed ih =>
      cases signal with
      | item d =>
          simp only [topChoice, le_max_iff, ih, List.mem_cons, Signal.item.injEq, or_and_right,
            exists_or, exists_eq_left]
          tauto
      | failed f => simpa [topChoice] using ih
      | pending => simpa [topChoice] using ih

theorem topChoice_le {feed feed' : Feed Delta}
    (named : ∀ choice, choiceTexts choice feed ≠ [] → choiceTexts choice feed' ≠ []) :
    topChoice feed ≤ topChoice feed' := by
  refine le_topChoice_iff.2 ((le_topChoice_iff.1 (Nat.le_refl _)).imp id ?_)
  rintro ⟨d, mem, le⟩
  obtain ⟨d', mem', same⟩ :=
    choiceTexts_ne_nil_iff.1 (named d.choice (choiceTexts_ne_nil_iff.2 ⟨d, mem, rfl⟩))
  exact ⟨d', mem', same ▸ le⟩

/-- The largest choice is known from what is brought for every choice. -/
theorem topChoice_eq {feed feed' : Feed Delta}
    (same : ∀ choice, choiceTexts choice feed = choiceTexts choice feed') :
    topChoice feed = topChoice feed' :=
  Nat.le_antisymm (topChoice_le fun choice some => same choice ▸ some)
    (topChoice_le fun choice some => (same choice).symm ▸ some)

/-! ## The result -/

/-- The result of choices up to a largest one: the text of the first if there is no other,
and else the texts of them all. -/
def OutputValue.ofChoices (top : Nat) (text : Nat → String) : OutputValue :=
  if top = 0 then .text (text 0) else .textList ((List.range (top + 1)).map text)

/-- The text that is recorded for a choice: a stop cuts every choice but the first where it
first matches. -/
def Stop.recorded (stop : Option Stop) (choice : Nat) (s : String) : String :=
  match stop, choice with
  | some stop, _ + 1 => Generation.cutAtStop stop s
  | _, _ => s

@[simp] theorem Stop.recorded_none (choice : Nat) (s : String) :
    Stop.recorded none choice s = s := rfl

@[simp] theorem Stop.recorded_zero (stop : Option Stop) (s : String) :
    Stop.recorded stop 0 s = s := by
  cases stop <;> rfl

namespace Generation

theorem ofTexts_eq_ofChoices {texts : List String} {top : Nat} {text : Nat → String}
    (long : max 1 texts.length = top + 1)
    (same : ∀ choice ≤ top, texts.getD choice "" = text choice) :
    OutputValue.ofTexts texts = .ofChoices top text := by
  match texts with
  | [] =>
      obtain rfl : top = 0 := by simpa using long.symm
      exact congrArg OutputValue.text (same 0 (Nat.le_refl 0))
  | [only] =>
      obtain rfl : top = 0 := by simpa using long.symm
      exact congrArg OutputValue.text (same 0 (Nat.le_refl 0))
  | first :: second :: others =>
      have count : others.length + 1 = top := by simpa using long
      rw [OutputValue.ofChoices, if_neg (by omega)]
      refine congrArg OutputValue.textList (ext_getD (by simp; omega) fun choice => ?_)
      by_cases within : choice ≤ top
      · rw [same choice within, List.getD_eq_getElem _ _ (by simp; omega)]
        simp
      · rw [List.getD_eq_default _ _ (by simp; omega), List.getD_eq_default _ _ (by simp; omega)]

/-- The texts reach up to the largest choice. -/
theorem length_gathered (feed : Feed Delta) :
    max 1 (gathered feed).length = topChoice feed + 1 := by
  have reach : ∀ choice, choice < max 1 (gathered feed).length ↔ choice < topChoice feed + 1 := by
    intro choice
    rw [lt_max_iff, lt_length_gathered_iff, Nat.lt_one_iff, Nat.lt_succ_iff, le_topChoice_iff]
  exact Nat.le_antisymm (Nat.le_of_not_lt fun lt => Nat.lt_irrefl _ ((reach _).1 lt))
    (Nat.le_of_not_lt fun lt => Nat.lt_irrefl _ ((reach _).2 lt))

theorem cutAtStop_empty (stop : Stop) : cutAtStop stop "" = "" := by
  unfold cutAtStop
  split <;> rfl

theorem length_finish_texts (g : Generation) : g.finish.texts.length = g.texts.length := by
  unfold finish
  split
  next first others _ texts => simp [texts]
  next => rfl

/-- At the end every choice but the first is cut by itself. -/
theorem getD_finish_texts (g : Generation) (choice : Nat) :
    g.finish.texts.getD choice "" = Stop.recorded g.stop choice (g.texts.getD choice "") := by
  obtain ⟨name, stop, texts, emitted, done⟩ := g
  cases stop with
  | none => rfl
  | some stop =>
      cases texts with
      | nil =>
          cases choice with
          | zero => rfl
          | succ choice => exact (cutAtStop_empty stop).symm
      | cons first others =>
          cases choice with
          | zero => rfl
          | succ choice =>
              change (others.map (cutAtStop stop)).getD choice ""
                = cutAtStop stop (others.getD choice "")
              conv_lhs => rw [← cutAtStop_empty stop]
              exact List.getD_map others "" (cutAtStop stop)

theorem close_texts (g : Generation) :
    g.close.2.texts.length = g.texts.length ∧ ∀ choice,
      g.close.2.texts.getD choice "" = Stop.recorded g.stop choice (g.texts.getD choice "") := by
  have finished : g.close.2 = (g.takeFresh g.leadLength).2.finish := rfl
  refine ⟨?_, fun choice => ?_⟩
  · rw [finished, length_finish_texts, takeFresh_texts]
  · rw [finished, getD_finish_texts, takeFresh_texts, takeFresh_stop]

section History

variable {name : String} {stop : Option Stop} {heard left : Feed Delta} {said : List String}
  {g : Generation}

/-- A generation that nothing stopped has taken in its whole completion, which did not fail.
It has a text for every choice up to the largest one that was named: all that was brought
for it, cut by the stop if it is not the first one. -/
theorem Ended.of_passes (passes : ∀ s, stop = some s → s.Passes (heard ++ left))
    (h : Ended (fresh name stop) heard left said g) :
    left = [] ∧ g.lead = choiceText 0 heard ∧ g.choices = topChoice heard + 1 ∧
      g.value = .ofChoices (topChoice heard)
        fun choice => Stop.recorded stop choice (choiceText choice heard) := by
  cases h with
  | cut left took done =>
      obtain ⟨goesOn, -⟩ := took.gathers_of_passes fun s active => (passes s active).of_append
      rw [goesOn] at done
      cases done
  | @closed said g took goesOn =>
      obtain ⟨-, texts, -⟩ := took.gathers_of_passes fun s active => (passes s active).of_append
      obtain ⟨count, each⟩ := close_texts g
      rw [texts, show g.stop = stop from took.keeps.2] at each
      rw [texts] at count
      have long : max 1 g.close.2.texts.length = topChoice heard + 1 := by
        rw [count, length_gathered]
      refine ⟨rfl, ?_, long, ?_⟩
      · have first := each 0
        rw [Stop.recorded_zero, getD_gathered] at first
        rw [← first, lead]
        cases g.close.2.texts <;> rfl
      · rw [value_eq_ofTexts]
        refine ofTexts_eq_ofChoices long fun choice _ => ?_
        rw [each, getD_gathered]

/-! ## What is said without a stop -/

/-- The texts of some deltas, without the empty ones. -/
def shownTexts (texts : List String) : List String := texts.filter (· ≠ "")

theorem toList_of_freshChars {fresh : Option String} {s : String} (nonempty : fresh ≠ some "")
    (chars : freshChars fresh = s.toList) : fresh.toList = shownTexts [s] := by
  have same : fresh.getD "" = s := String.toList_inj.1 chars
  subst same
  cases fresh with
  | none => rfl
  | some t =>
      have some : t ≠ "" := fun empty => nonempty (congrArg _ empty)
      simp [shownTexts, some]

/-- Without a stop each delta of the first choice is said as it is, unless it is empty. -/
theorem Took.said_eq (h : Took (fresh name none) heard said g) :
    said = shownTexts (choiceTexts 0 heard) ∧ Running g heard (choiceText 0 heard).toList := by
  induction h with
  | start => exact ⟨rfl, Running.start name none⟩
  | @item heard said g d took goesOn ih =>
      obtain ⟨spokenTexts, running⟩ := ih
      have lead := (running.hear d).lead
      rw [choiceTexts_append, choiceTexts_item]
      by_cases first : d.choice = 0
      · obtain ⟨fresh, g', step, nonempty, joined, next⟩ := running.absorb_free first took.keeps.2
        rw [lead] at joined next
        have added : freshChars fresh = d.text.toList := by
          rw [choiceText_append, choiceText_item, if_pos first, String.toList_append] at joined
          exact List.append_cancel_left joined
        rw [step, if_pos first, spokenTexts]
        refine ⟨?_, next⟩
        rw [toList_of_freshChars nonempty added]
        exact (List.filter_append _ _).symm
      · have text : choiceText 0 (heard ++ [.item d]) = choiceText 0 heard := by
          rw [choiceText_append, choiceText_item, if_neg first, String.append_empty]
        rw [absorb_of_other g first, if_neg first, List.append_nil, text]
        exact ⟨(List.append_nil _).trans spokenTexts, running.hear d⟩
  | @pending heard said g took goesOn ih =>
      have texts : choiceTexts 0 (heard ++ [.pending]) = choiceTexts 0 heard := by
        rw [choiceTexts_append]
        exact List.append_nil _
      rw [choiceText, texts]
      exact ⟨ih.1, ih.2.wait⟩

/-- So a generation that is over has said just these texts. -/
theorem Ended.said_eq (h : Ended (fresh name none) heard left said g) :
    said = shownTexts (choiceTexts 0 heard) := by
  cases h with
  | cut left took done =>
      rw [took.said_eq.2.goesOn] at done
      cases done
  | @closed said g took goesOn =>
      obtain ⟨spokenTexts, running⟩ := took.said_eq
      obtain ⟨fresh, g', step, nonempty, joined, -⟩ := running.close
      have nothing : freshChars fresh = "".toList :=
        List.append_cancel_left (joined.trans (List.append_nil _).symm)
      rw [step, toList_of_freshChars nonempty nothing, spokenTexts]
      exact List.append_nil _

end History

end Generation

end PromptStream
