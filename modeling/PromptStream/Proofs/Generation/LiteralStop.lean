import PromptStream.Proofs.Generation.History
import PromptStream.Proofs.Pattern.Literal

/-!
# Stops that match a word

A stop that matches one word cuts the first choice exactly where the word first
occurs, however the text was split on its way.  While the word has not occurred,
at least its length is held back (`LiteralRunning.held`).  So no occurrence can
begin inside text that was emitted, and what was emitted stays a stem of the text
before the first occurrence, whatever arrives later
(`LiteralRunning.isPrefix_beforeFirst`).
-/

namespace PromptStream

/-- A stop that matches where a word first occurs, and whose source is no shorter
than the word. -/
structure Stop.Literal (stop : Stop) (word : List Char) : Prop where
  find : ∀ s, stop.find? s = firstOccurrence? word s.toList
  long : byteLength word ≤ stop.source.utf8ByteSize

/-- The stop of an escaped word matches that word. -/
theorem Stop.literal_of_compile?_escape {word : String} {stop : Stop}
    (h : Stop.compile? (Pattern.escape word) = some stop) : stop.Literal word.toList := by
  refine ⟨Stop.find?_of_compile?_escape h, ?_⟩
  rw [Stop.source_of_compile? h]
  exact Pattern.byteLength_le_escape word

theorem Stop.Literal.onBoundaries {stop : Stop} {word : List Char} (h : stop.Literal word) :
    stop.OnBoundaries := by
  intro s start found
  rw [h.find] at found
  by_cases occurs : word <:+: s.toList
  · rw [firstOccurrence?_of_isInfix occurs] at found
    cases found
    exact isBoundary_iff.2 ⟨_, beforeFirst_isPrefix word s.toList, rfl⟩
  · rw [firstOccurrence?_eq_none_iff.2 occurs] at found
    cases found

/-- A stem that is shorter than a text by at least a word that does not occur in
it precedes the first occurrence, whatever follows the text. -/
theorem isPrefix_beforeFirst_of_held {word out cs : List Char} (stem : out <+: cs)
    (absent : ¬ word <:+: cs) (held : byteLength out + byteLength word ≤ byteLength cs)
    (ds : List Char) : out <+: beforeFirst word (cs ++ ds) := by
  have stemLater := stem.trans (List.prefix_append cs ds)
  by_cases occurs : word <:+: cs ++ ds
  · have occurrence := beforeFirst_append_isPrefix occurs
    refine stem_of_byteLength_le stemLater (beforeFirst_isPrefix word _) ?_
    rcases Nat.lt_or_ge (byteLength (beforeFirst word (cs ++ ds))) (byteLength out)
      with early | late
    · -- An occurrence that began inside `out` would have ended inside `cs`.
      have within : beforeFirst word (cs ++ ds) ++ word <+: cs := by
        refine stem_of_byteLength_le occurrence (List.prefix_append cs ds) ?_
        rw [byteLength_append]
        omega
      exact absurd ((List.suffix_append _ word).isInfix.trans within.isInfix) absent
    · exact late
  · rw [beforeFirst_eq_self occurs]
    exact stemLater

namespace Generation

/-! ## While the word has not occurred -/

/-- A running generation whose word has not occurred yet. -/
structure LiteralRunning (word : List Char) (g : Generation) (heard : Feed Delta)
    (out : List Char) : Prop where
  running : Running g heard out
  /-- Before the first choice has brought anything, nothing was searched. -/
  absent : choiceTexts 0 heard ≠ [] → ¬ word <:+: (choiceText 0 heard).toList
  /-- The end of the text is held back. -/
  held : out = [] ∨ byteLength out + byteLength word ≤ byteLength (choiceText 0 heard).toList

/-- A finished generation that has emitted all that precedes the word. -/
structure LiteralFinished (word : List Char) (g : Generation) (heard : Feed Delta)
    (out : List Char) : Prop where
  finished : Finished g heard out
  occurs : word <:+: (choiceText 0 heard).toList
  exact : out = beforeFirst word (choiceText 0 heard).toList

section

variable {word out : List Char} {g : Generation} {heard : Feed Delta} {stop : Stop}

/-- What was emitted precedes the first occurrence, whatever arrives later. -/
theorem LiteralRunning.isPrefix_beforeFirst (h : LiteralRunning word g heard out)
    (ds : List Char) : out <+: beforeFirst word ((choiceText 0 heard).toList ++ ds) := by
  rcases h.held with none | held
  · rw [none]
    exact List.nil_prefix
  · by_cases nothing : choiceTexts 0 heard = []
    · have stem := h.running.stem
      rw [choiceText, nothing] at stem
      rw [List.prefix_nil.1 stem]
      exact List.nil_prefix
    · exact isPrefix_beforeFirst_of_held h.running.stem (h.absent nothing) held ds

/-- All of the text precedes a word that has not occurred. -/
theorem LiteralRunning.beforeFirst_eq (h : LiteralRunning word g heard out) :
    beforeFirst word (choiceText 0 heard).toList = (choiceText 0 heard).toList := by
  by_cases nothing : choiceTexts 0 heard = []
  · rw [choiceText, nothing]
    rfl
  · exact beforeFirst_eq_self (h.absent nothing)

theorem LiteralRunning.start (name : String) (stop : Option Stop) :
    LiteralRunning word (fresh name stop) [] [] :=
  ⟨Running.start name stop, fun some => absurd rfl some, .inl rfl⟩

theorem LiteralRunning.wait (h : LiteralRunning word g heard out) :
    LiteralRunning word g (heard ++ [.pending]) out := by
  have texts : choiceTexts 0 (heard ++ [.pending]) = choiceTexts 0 heard := by
    rw [choiceTexts_append]
    exact List.append_nil _
  have text : choiceText 0 (heard ++ [.pending]) = choiceText 0 heard :=
    congrArg String.join texts
  refine ⟨h.running.wait, ?_, ?_⟩
  · rw [texts, text]
    exact h.absent
  · rw [text]
    exact h.held

/-- A delta of another choice changes nothing about the first one. -/
theorem LiteralRunning.absorb_other (h : LiteralRunning word g heard out) {d : Delta}
    (other : d.choice ≠ 0) : LiteralRunning word (g.hear d) (heard ++ [.item d]) out := by
  have texts : choiceTexts 0 (heard ++ [.item d]) = choiceTexts 0 heard := by
    rw [choiceTexts_append]
    simp [choiceTexts, other]
  have text : choiceText 0 (heard ++ [.item d]) = choiceText 0 heard := congrArg String.join texts
  refine ⟨h.running.hear d, ?_, ?_⟩
  · rw [texts, text]
    exact h.absent
  · rw [text]
    exact h.held

theorem toList_choiceText_append (choice : Nat) (heard later : Feed Delta) :
    (choiceText choice (heard ++ later)).toList
      = (choiceText choice heard).toList ++ (choiceText choice later).toList := by
  rw [choiceText_append, String.toList_append]

/-! ## Taking in a delta of the first choice -/

/-- If the word has occurred by now, the generation is cut where it first does. -/
theorem LiteralRunning.absorb_occurs (h : LiteralRunning word g heard out)
    (literal : stop.Literal word) (active : g.stop = some stop) {d : Delta} (first : d.choice = 0)
    (occurs : word <:+: (choiceText 0 (heard ++ [.item d])).toList) :
    LiteralFinished word (g.absorb d).2 (heard ++ [.item d])
      (out ++ freshChars (g.absorb d).1) := by
  have found : stop.find? (g.hear d).lead
      = some (byteLength (beforeFirst word (choiceText 0 (heard ++ [.item d])).toList)) := by
    rw [literal.find, (h.running.hear d).lead]
    exact firstOccurrence?_of_isInfix occurs
  obtain ⟨fresh, g', shown, step, -, joined, finished, size⟩ :=
    h.running.absorb_cut first active found (literal.onBoundaries _ _ found)
  have earlier : out <+: beforeFirst word (choiceText 0 (heard ++ [.item d])).toList := by
    rw [toList_choiceText_append]
    exact h.isPrefix_beforeFirst _
  have sameSize : byteLength shown
      = byteLength (beforeFirst word (choiceText 0 (heard ++ [.item d])).toList) := by
    rw [size, ← h.running.emitted.offset]
    exact Nat.max_eq_left (byteLength_le_of_isPrefix earlier)
  rw [step, joined]
  refine ⟨finished, occurs, ?_⟩
  rw [← takeBytes_of_isPrefix finished.stem, sameSize]
  exact takeBytes_of_isPrefix (beforeFirst_isPrefix word _)

/-- If it has not, enough is held back. -/
theorem LiteralRunning.absorb_absent (h : LiteralRunning word g heard out)
    (literal : stop.Literal word) (active : g.stop = some stop) {d : Delta} (first : d.choice = 0)
    (absent : ¬ word <:+: (choiceText 0 (heard ++ [.item d])).toList) :
    LiteralRunning word (g.absorb d).2 (heard ++ [.item d])
      (out ++ freshChars (g.absorb d).1) := by
  have lead := (h.running.hear d).lead
  have unmatched : stop.find? (g.hear d).lead = none := by
    rw [literal.find, lead]
    exact firstOccurrence?_eq_none_iff.2 absent
  obtain ⟨fresh, g', shown, step, -, joined, running, size⟩ :=
    h.running.absorb_held first active unmatched
  rw [step, joined]
  refine ⟨running, fun _ => absent, ?_⟩
  -- Either the floor of the new text was emitted, or nothing beyond what was out before.
  have long := literal.long
  have floor := floorBoundary_le (g.hear d).lead.toList
    ((g.hear d).leadLength - stop.source.utf8ByteSize)
  have offset := h.running.emitted.offset
  have length : (g.hear d).leadLength = byteLength (choiceText 0 (heard ++ [.item d])).toList := by
    rw [leadLength, lead]
  have grown : byteLength (choiceText 0 heard).toList
      ≤ byteLength (choiceText 0 (heard ++ [.item d])).toList := by
    rw [toList_choiceText_append, byteLength_append]
    exact Nat.le_add_right _ _
  rw [holdbackBoundary, show (g.hear d).emitted = g.emitted from rfl] at size
  by_cases nothing : byteLength shown = 0
  · exact .inl (eq_nil_of_byteLength_eq_zero nothing)
  · right
    rcases h.held with none | held
    · rw [none] at offset
      simp only [byteLength] at offset
      omega
    · omega

/-- A delta leaves the word unmet or finishes the generation before it. -/
theorem LiteralRunning.absorb (h : LiteralRunning word g heard out) (literal : stop.Literal word)
    (active : g.stop = some stop) (d : Delta) :
    LiteralRunning word (g.absorb d).2 (heard ++ [.item d]) (out ++ freshChars (g.absorb d).1) ∨
      LiteralFinished word (g.absorb d).2 (heard ++ [.item d])
        (out ++ freshChars (g.absorb d).1) := by
  by_cases first : d.choice = 0
  · by_cases occurs : word <:+: (choiceText 0 (heard ++ [.item d])).toList
    · exact .inr (h.absorb_occurs literal active first occurs)
    · exact .inl (h.absorb_absent literal active first occurs)
  · left
    rw [absorb_of_other g first]
    have same : out ++ freshChars none = out := List.append_nil out
    rw [same]
    exact h.absorb_other first

end

/-! ## Whole histories -/

section History

variable {name : String} {stop : Stop} {word : List Char} {heard left : Feed Delta}
  {said : List String} {g : Generation}

/-- Whatever a generation took in, its word has not occurred, or the generation
is finished before the word. -/
theorem Took.literal (literal : stop.Literal word)
    (h : Took (fresh name (some stop)) heard said g) :
    LiteralRunning word g heard (spoken said) ∨ LiteralFinished word g heard (spoken said) := by
  induction h with
  | start => exact .inl (LiteralRunning.start name (some stop))
  | item d took goesOn ih =>
      rcases ih with running | finished
      · rw [spoken_append_fresh]
        exact running.absorb literal took.keeps.2 d
      · rw [finished.finished.done] at goesOn
        cases goesOn
  | pending took goesOn ih =>
      rcases ih with running | finished
      · exact .inl running.wait
      · rw [finished.finished.done] at goesOn
        cases goesOn

/-- While a generation goes on, its word has not occurred. -/
theorem Took.literalRunning (literal : stop.Literal word)
    (h : Took (fresh name (some stop)) heard said g) (goesOn : g.done = false) :
    LiteralRunning word g heard (spoken said) := by
  rcases h.literal literal with running | finished
  · exact running
  · rw [finished.finished.done] at goesOn
    cases goesOn

/-- A generation that is over has said all that precedes the first occurrence of
its word in the whole completion, also in what it has not taken in. -/
theorem Ended.literal (literal : stop.Literal word)
    (h : Ended (fresh name (some stop)) heard left said g) :
    spoken said = beforeFirst word (choiceText 0 (heard ++ left)).toList := by
  cases h with
  | cut _ took done =>
      rcases took.literal literal with running | finished
      · rw [running.running.goesOn] at done
        cases done
      · rw [finished.exact, toList_choiceText_append, beforeFirst_append finished.occurs]
  | closed took goesOn =>
      have running := took.literalRunning literal goesOn
      obtain ⟨fresh, g', step, -, joined, -⟩ := running.running.close
      rw [List.append_nil, spoken_append_fresh, step, joined, running.beforeFirst_eq]

end History

end Generation

end PromptStream
