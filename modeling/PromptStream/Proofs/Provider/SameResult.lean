import PromptStream.Proofs.Provider.ReportedError

/-!
# Streaming and the result

The same texts can arrive in two ways: in one body that is read as a whole and lists
them with their numbers, or in pieces on the lines of a streamed body, in any order and
cut anywhere.  A generation without a stop emits the same text for both and records the
same texts, but for one thing.  A piece that is empty is dropped from a stream, so empty
texts at the end are never heard of there (`gathered_streamedFeed`).
-/

namespace PromptStream

namespace Provider

open Generation (gathered shown)

/-! ## Texts that are read as a whole -/

/-- Some texts as the deltas of the choices `0`, `1`, and so on. -/
def numbered (texts : List String) : List Delta :=
  texts.zipIdx.map fun (text, choice) => ⟨choice, text⟩

theorem choiceTexts_items (choice : Nat) (ds : List Delta) :
    choiceTexts choice (ds.map .item) = (ds.filter (·.choice = choice)).map Delta.text := by
  induction ds with
  | nil => rfl
  | cons d ds ih =>
      by_cases same : d.choice = choice
      · simpa [choiceTexts, same] using ih
      · simpa [choiceTexts, same] using ih

theorem numbered_concat (texts : List String) (text : String) :
    numbered (texts ++ [text]) = numbered texts ++ [⟨texts.length, text⟩] := by
  simp [numbered, List.zipIdx_append]

theorem mem_numbered {texts : List String} {d : Delta} :
    d ∈ numbered texts ↔ texts[d.choice]? = some d.text := by
  obtain ⟨choice, text⟩ := d
  simp [numbered, List.mem_zipIdx_iff_getElem?]

/-- Every number is that of one text at most. -/
theorem filter_numbered (texts : List String) (choice : Nat) :
    (numbered texts).filter (·.choice = choice)
      = (texts[choice]?.map (Delta.mk choice)).toList := by
  induction texts using List.reverseRecOn with
  | nil => rfl
  | append_singleton texts text ih =>
      rw [numbered_concat, List.filter_append, ih]
      rcases Nat.lt_trichotomy choice texts.length with before | rfl | after
      · simp [List.getElem?_append_left before, Nat.ne_of_gt before]
      · simp
      · have beyond : (texts ++ [text])[choice]? = none :=
          List.getElem?_eq_none (List.length_append ▸ after)
        rw [beyond]
        simp [Nat.ne_of_lt after, Nat.le_of_lt after]

/-- In whatever order the numbered texts stand, each is all that is brought for its
choice. -/
theorem choiceText_of_perm {texts : List String} {ds : List Delta}
    (listed : ds.Perm (numbered texts)) (choice : Nat) :
    choiceText choice (ds.map .item) = texts.getD choice "" := by
  have own := listed.filter (·.choice = choice)
  rw [filter_numbered] at own
  rw [choiceText, choiceTexts_items, List.getD_eq_getElem?_getD]
  cases found : texts[choice]? with
  | none =>
      rw [found] at own
      rw [List.perm_nil.1 own]
      rfl
  | some text =>
      rw [found] at own
      rw [List.perm_singleton.1 own]
      simp [String.join]

/-- So they are gathered as they were numbered. -/
theorem gathered_of_perm {texts : List String} {ds : List Delta}
    (listed : ds.Perm (numbered texts)) : gathered (ds.map .item) = texts := by
  have reach : ∀ choice, choice < (gathered (ds.map .item)).length ↔ choice < texts.length := by
    intro choice
    rw [Generation.lt_length_gathered_iff]
    constructor
    · rintro ⟨d, mem, le⟩
      obtain ⟨d', there, same⟩ := List.mem_map.1 mem
      cases same
      have found := mem_numbered.1 (listed.mem_iff.1 there)
      exact Nat.lt_of_le_of_lt le (List.getElem?_eq_some_iff.1 found).1
    · intro within
      refine ⟨⟨choice, texts[choice]⟩, List.mem_map_of_mem (listed.mem_iff.2 ?_), Nat.le_refl _⟩
      exact mem_numbered.2 (List.getElem?_eq_getElem within)
  have long : (gathered (ds.map .item)).length = texts.length := by
    refine Nat.le_antisymm ?_ ?_
    · exact Nat.le_of_not_lt fun longer => Nat.lt_irrefl _ ((reach _).1 longer)
    · exact Nat.le_of_not_lt fun longer => Nat.lt_irrefl _ ((reach _).2 longer)
  refine Generation.ext_getD long fun choice => ?_
  rw [Generation.getD_gathered, choiceText_of_perm listed]

/-! ## Texts that are streamed -/

/-- The pieces of text on a line, the empty ones included. -/
def lineDeltas (line : List Char) : List Delta :=
  match (dropMark? dataMark line).bind fun text =>
      (Document.read? (String.ofList text)).bind (answer? "delta") with
  | some (.ok choices) => deltas choices
  | _ => []

/-- The pieces of text on the lines of a body before the mark of the end. -/
def bodyDeltas (body : List UInt8) : List Delta :=
  ((bodyLines body).takeWhile (· ≠ doneLine)).flatMap lineDeltas

/-- A line gives its pieces of text, but for the empty ones. -/
theorem filterMap_lineEvents {line : List Char} (goesOn : line ≠ doneLine) :
    (lineEvents line).filterMap StreamEvent.delta?
      = (lineDeltas line).filter fun d => !d.text.isEmpty := by
  rw [lineEvents_of_not_done goesOn, lineDeltas]
  cases marked : dropMark? dataMark line with
  | none =>
      rw [if_neg]
      · rfl
      · rintro ⟨text, rfl⟩
        rw [dropMark?_eq_some_iff.2 rfl] at marked
        cases marked
  | some text =>
      obtain rfl := dropMark?_eq_some_iff.1 marked
      rw [if_pos (List.prefix_append dataMark text), List.drop_left, Option.bind_some, dataEvents]
      cases (Document.read? (String.ofList text)).bind (answer? "delta") with
      | none => rfl
      | some answer =>
          cases answer with
          | error message => rfl
          | ok choices =>
              rw [List.filterMap_map]
              exact List.filterMap_some

/-- The pieces of text that the lines before the mark of the end give. -/
theorem filterMap_events (body : List UInt8) :
    (((bodyLines body).takeWhile (· ≠ doneLine)).flatMap lineEvents).filterMap StreamEvent.delta?
      = (bodyDeltas body).filter fun d => !d.text.isEmpty := by
  rw [bodyDeltas, List.filterMap_flatMap, List.filter_flatMap]
  refine List.flatMap_congr fun line before => filterMap_lineEvents ?_
  simpa using List.mem_takeWhile_imp before

/-- A feed without a failure brings the pieces of text of its body, but for the empty
ones. -/
theorem streamedFeed_of_healthy {r : Reply} (healthy : ∀ f, .failed f ∉ streamedFeed r) :
    streamedFeed r
      = ((bodyDeltas r.chunks.flatten).filter fun d => !d.text.isEmpty).map .item := by
  have never : ¬ ∃ (ds : List Delta) (f : Fault), streamedFeed r = ds.map .item ++ [.failed f] := by
    rintro ⟨ds, f, feed⟩
    refine healthy f ?_
    rw [feed]
    exact List.mem_append_right _ (List.mem_singleton_self _)
  have known : EndKnown r := by
    by_contra unknown
    exact never (exists_failed_of_break unknown)
  have goesOn : ∀ e ∈ ((bodyLines r.chunks.flatten).takeWhile (· ≠ doneLine)).flatMap lineEvents,
      (!e.ends) = true := by
    intro e mem
    by_contra ends
    obtain ⟨message, rfl⟩ := eq_error_of_ends mem (by simpa using ends)
    exact never (exists_failed_of_reported mem)
  have stops : ∀ done : Prop, [Decidable done] →
      (if done then [StreamEvent.done] else []).takeWhile (fun e => !e.ends) = [] := by
    intro done _
    split <;> rfl
  have whole := streamedFeed_eq_answerFeed r
  rw [answerFeed, eventsOfLines_eq, takeWhile_countedLines known,
    List.takeWhile_append_of_pos goesOn, stops, List.append_nil, filterMap_events] at whole
  rcases lastSignals_cases r.complete _ with nothing | ⟨f, failure⟩
  · rw [whole, nothing, List.append_nil]
  · rw [failure] at whole
    exact absurd ⟨_, f, whole⟩ never

/-! ## Gathering what is streamed -/

theorem choiceText_cons_item (choice : Nat) (d : Delta) (feed : Feed Delta) :
    choiceText choice (.item d :: feed)
      = (if d.choice = choice then d.text else "") ++ choiceText choice feed := by
  rw [← choiceText_item]
  exact choiceText_append choice [.item d] feed

/-- Empty pieces make no difference to the text of a choice. -/
theorem choiceText_filter (ds : List Delta) (choice : Nat) :
    choiceText choice ((ds.filter fun d => !d.text.isEmpty).map .item)
      = choiceText choice (ds.map .item) := by
  induction ds with
  | nil => rfl
  | cons d ds ih =>
      rw [List.map_cons, choiceText_cons_item, List.filter_cons]
      split
      next => rw [List.map_cons, choiceText_cons_item, ih]
      next empty =>
        have nothing : d.text = "" := by simpa using empty
        rw [ih, nothing, ite_self, String.empty_append]

/-- A choice that is named by a piece that is not empty has a text. -/
theorem choiceText_ne_empty {ds : List Delta} {d : Delta} (mem : d ∈ ds) (given : d.text ≠ "") :
    choiceText d.choice (ds.map .item) ≠ "" := by
  obtain ⟨before, after, rfl⟩ := List.append_of_mem mem
  rw [List.map_append, List.map_cons, choiceText_append, choiceText_cons_item, if_pos rfl]
  intro empty
  rw [String.append_eq_empty_iff, String.append_eq_empty_iff] at empty
  exact given empty.2.1

/-- What is gathered from pieces that are not empty has a text at its end. -/
theorem getLast?_gathered {ds : List Delta} (given : ∀ d ∈ ds, d.text ≠ "") :
    (gathered (ds.map .item)).getLast? ≠ some "" := by
  intro last
  rw [List.getLast?_eq_getElem?, List.getElem?_eq_some_iff] at last
  obtain ⟨within, empty⟩ := last
  obtain ⟨d, item, le⟩ := (Generation.lt_length_gathered_iff _ _).1 within
  have below : d.choice < (gathered (ds.map .item)).length :=
    (Generation.lt_length_gathered_iff _ _).2 ⟨d, item, Nat.le_refl _⟩
  have here : (gathered (ds.map .item)).length - 1 = d.choice := by omega
  obtain ⟨d', mem, same⟩ := List.mem_map.1 item
  cases same
  refine choiceText_ne_empty mem (given d mem) ?_
  rw [← Generation.getD_gathered, ← here, List.getD_eq_getElem _ _ within, empty]

/-- What is gathered from a stream are the texts that its pieces make, without the empty
ones at the end. -/
theorem gathered_streamedFeed {r : Reply} (healthy : ∀ f, .failed f ∉ streamedFeed r)
    {texts : List String}
    (same : ∀ choice, choiceText choice ((bodyDeltas r.chunks.flatten).map .item)
      = texts.getD choice "") :
    gathered (streamedFeed r) = shown texts ∧ choiceText 0 (streamedFeed r) = texts.getD 0 "" := by
  rw [streamedFeed_of_healthy healthy]
  refine ⟨Generation.eq_shown_of_getD (getLast?_gathered fun d mem => ?_) fun choice => ?_, ?_⟩
  · simpa using (List.mem_filter.1 mem).2
  · rw [Generation.getD_gathered, choiceText_filter, same]
  · rw [choiceText_filter, same]

/-! ## The same texts in two ways -/

section Ways

variable {φ ν : Type} (host : Host φ ν) (name : String) (props : Props)

/-- An answer that is read as a whole and lists some texts with their numbers, in any
order, and a streamed answer that does not fail and whose pieces make the same texts,
lead to the same emitted text, the first one.  The first generation records the texts,
the second one the texts without the empty ones at the end.  So the recorded results are
the same exactly if there is one text at most, or the last one is not empty. -/
theorem streamed_result_eq_whole (texts : List String) (whole streamed : Reply) {text : String}
    {ds : List Delta} (arrived : whole.text? = some text) (read : readResponse text = .ok ds)
    (listed : ds.Perm (numbered texts)) (healthy : ∀ f, .failed f ∉ streamedFeed streamed)
    (same : ∀ choice, choiceText choice ((bodyDeltas streamed.chunks.flatten).map .item)
      = texts.getD choice "")
    (options options' : GenerationOptions) (w w' : World φ ν) (fuels fuels' : List Nat)
    (free : options.effectiveStop props.nextLiteral = none)
    (free' : options'.effectiveStop props.nextLiteral = none)
    (asked : completionOf name options props w = wholeFeed whole)
    (asked' : completionOf name options' props w' = streamedFeed streamed) :
    let played := Run.polls host fuels (Run.ofGeneration name options props w)
    let played' := Run.polls host fuels' (Run.ofGeneration name options' props w')
    (.ended ∈ played.1 →
        Run.Gives name props w played (texts.headD "") (.ofTexts texts)) ∧
      (.ended ∈ played'.1 →
        Run.Gives name props w' played' (texts.headD "") (.ofTexts (shown texts))) ∧
      (OutputValue.ofTexts (shown texts) = OutputValue.ofTexts texts
        ↔ texts.length ≤ 1 ∨ texts.getLast? ≠ some "") ∧
      ((∀ fuel ∈ fuels, 0 < fuel) → (wholeFeed whole).length + 4 < fuels.length →
        .ended ∈ played.1) ∧
      ((∀ fuel ∈ fuels', 0 < fuel) → (streamedFeed streamed).length + 4 < fuels'.length →
        .ended ∈ played'.1) := by
  intro played played'
  have first : texts.getD 0 "" = texts.headD "" := by cases texts <;> rfl
  have feed : completionOf name options props w = ds.map .item := by
    rw [asked, wholeFeed, arrived]
    simp only [read]
  refine ⟨fun atEnd => ?_, fun atEnd => ?_, Generation.ofTexts_shown_eq_iff texts, ?_, ?_⟩
  · have gives := Run.polls_of_healthy free host fuels (feed ▸ failed_not_mem_items ds) atEnd
    rwa [feed, gathered_of_perm listed, choiceText_of_perm listed, first] at gives
  · obtain ⟨texts', lead⟩ := gathered_streamedFeed healthy same
    have gives := Run.polls_of_healthy free' host fuels' (asked' ▸ healthy) atEnd
    rwa [asked', texts', lead, first] at gives
  · intro positive enough
    exact Phase.ended_mem_polls host positive (asked ▸ enough)
  · intro positive enough
    exact Phase.ended_mem_polls host positive (asked' ▸ enough)

end Ways

/-- Three choices, listed backwards in one body and interleaved in the other: the second
one is empty and never heard of in the stream, but it stands before another one. -/
theorem streamed_result_eq_whole_of_gap :
    let texts := ["ab", "", "c"]
    let whole : Reply := ⟨200, [
      Utf8.encode "\x7b\"choices\":[\x7b\"index\":2,\"text\":\"c\"\x7d,",
      Utf8.encode "\x7b\"index\":1,\"text\":\"\"\x7d,",
      Utf8.encode "\x7b\"index\":0,\"text\":\"ab\"\x7d]\x7d"], true⟩
    let streamed : Reply := ⟨200, [
      Utf8.encode "data: \x7b\"choices\":[\x7b\"index\":2,\"text\":\"c\"\x7d,\x7b\"index\":0,\"te",
      Utf8.encode "xt\":\"a\"\x7d]\x7d\ndata: \x7b\"choices\":[\x7b\"text\":\"b\"\x7d]\x7d\n",
      Utf8.encode "data: [DONE]\n"], true⟩
    let w : World Empty Empty := { connectors := [.answering fun _ _ => wholeFeed whole] }
    let w' : World Empty Empty := { connectors := [.answering fun _ _ => streamedFeed streamed] }
    let props : Props := { context := (default : Llm).context }
    let options : GenerationOptions := { stream := some true }
    let played := Run.polls Host.none (List.replicate 8 9) (Run.ofGeneration "answer" {} props w)
    let played' :=
      Run.polls Host.none (List.replicate 8 9) (Run.ofGeneration "answer" options props w')
    Run.Gives "answer" props w played "ab" (.ofTexts texts) ∧
      played.2.world.scene.outputs.lookup? ["answer"] = some (.textList ["ab", "", "c"]) ∧
      Run.Gives "answer" props w' played' "ab" (.ofTexts texts) ∧
      played'.2.world.scene.outputs.lookup? ["answer"] = some (.textList ["ab", "", "c"]) := by
  intro texts whole streamed w w' props options played played'
  have arrived : whole.text? = some ("\x7b\"choices\":[\x7b\"index\":2,\"text\":\"c\"\x7d,"
      ++ "\x7b\"index\":1,\"text\":\"\"\x7d,\x7b\"index\":0,\"text\":\"ab\"\x7d]\x7d") := by
    decide +kernel
  have read : readResponse ("\x7b\"choices\":[\x7b\"index\":2,\"text\":\"c\"\x7d,"
      ++ "\x7b\"index\":1,\"text\":\"\"\x7d,\x7b\"index\":0,\"text\":\"ab\"\x7d]\x7d")
      = .ok [⟨2, "c"⟩, ⟨1, ""⟩, ⟨0, "ab"⟩] := rfl
  have listed : [⟨2, "c"⟩, ⟨1, ""⟩, ⟨0, "ab"⟩].Perm (numbered texts) := by decide
  have feed : streamedFeed streamed = [.item ⟨2, "c"⟩, .item ⟨0, "a"⟩, .item ⟨0, "b"⟩] := by
    decide +kernel
  have healthy : ∀ f, .failed f ∉ streamedFeed streamed := by simp [feed]
  have pieces : bodyDeltas streamed.chunks.flatten = [⟨2, "c"⟩, ⟨0, "a"⟩, ⟨0, "b"⟩] := by
    decide +kernel
  have same : ∀ choice, choiceText choice ((bodyDeltas streamed.chunks.flatten).map .item)
      = texts.getD choice "" := by
    intro choice
    rw [pieces]
    match choice with
    | 0 => rfl
    | 1 => rfl
    | 2 => rfl
    | _ + 3 => rfl
  obtain ⟨given, streamedGiven, alike, ended, streamedEnded⟩ :=
    streamed_result_eq_whole Host.none "answer" props texts whole streamed arrived read listed
      healthy same {} options w w' (List.replicate 8 9) (List.replicate 8 9) rfl rfl rfl rfl
  have positive : ∀ fuel ∈ List.replicate 8 9, 0 < fuel := by simp
  have short : (wholeFeed whole).length = 3 := by
    rw [wholeFeed, arrived]
    simp only [read]
    rfl
  have gives := given (ended positive (short ▸ by decide))
  have last : texts.getLast? ≠ some "" := by decide
  have gives' := streamedGiven (streamedEnded positive (feed ▸ by decide))
  rw [alike.2 (.inr last)] at gives'
  exact ⟨gives, gives.recorded.lookup?_root, gives', gives'.recorded.lookup?_root⟩

/-- The same without the third choice: the one body lists two texts, the stream leaves only
one of them, and that one is recorded alone. -/
theorem streamed_result_ne_whole_of_empty_end :
    let texts := ["a", ""]
    let whole : Reply := ⟨200, [Utf8.encode "\x7b\"choices\":[\x7b\"index\":0,\"text\":\"a\"\x7d,",
      Utf8.encode "\x7b\"index\":1,\"text\":\"\"\x7d]\x7d"], true⟩
    let streamed : Reply := ⟨200, Utf8.encode "data: " :: whole.chunks ++ [Utf8.encode "\n"], true⟩
    let w : World Empty Empty := { connectors := [.answering fun _ _ => wholeFeed whole] }
    let w' : World Empty Empty := { connectors := [.answering fun _ _ => streamedFeed streamed] }
    let props : Props := { context := (default : Llm).context }
    let played := Run.polls Host.none (List.replicate 7 9) (Run.ofGeneration "answer" {} props w)
    let played' := Run.polls Host.none (List.replicate 7 9) (Run.ofGeneration "answer" {} props w')
    wholeFeed whole = (numbered texts).map .item ∧
      bodyDeltas streamed.chunks.flatten = numbered texts ∧
      .ended ∈ played.1 ∧ .ended ∈ played'.1 ∧
      Run.Gives "answer" props w played "a" (.textList ["a", ""]) ∧
      played.2.world.scene.outputs.lookup? ["answer"] = some (.textList ["a", ""]) ∧
      Run.Gives "answer" props w' played' "a" (.text "a") ∧
      played'.2.world.scene.outputs.lookup? ["answer"] = some (.text "a") := by
  intro texts whole streamed w w' props played played'
  have feed : wholeFeed whole = (numbered texts).map .item := by decide +kernel
  have streamedFeed : streamedFeed streamed = [⟨0, "a"⟩].map .item := by decide +kernel
  have positive : ∀ fuel ∈ List.replicate 7 9, 0 < fuel := by simp
  have free : ({} : GenerationOptions).effectiveStop props.nextLiteral = none := rfl
  have asked : completionOf "answer" {} props w = (numbered texts).map .item := feed
  have asked' : completionOf "answer" {} props w' = [⟨0, "a"⟩].map .item := streamedFeed
  have ended : .ended ∈ played.1 :=
    Phase.ended_mem_polls Host.none positive (asked ▸ by decide)
  have ended' : .ended ∈ played'.1 :=
    Phase.ended_mem_polls Host.none positive (asked' ▸ by decide)
  have gives := Run.polls_of_healthy free Host.none (List.replicate 7 9)
    (asked ▸ failed_not_mem_items _) ended
  have gives' := Run.polls_of_healthy free Host.none (List.replicate 7 9)
    (asked' ▸ failed_not_mem_items _) ended'
  rw [asked] at gives
  rw [asked'] at gives'
  refine ⟨feed, by decide +kernel, ended, ended', gives, ?_, gives', ?_⟩
  · exact gives.recorded.lookup?_root
  · exact gives'.recorded.lookup?_root

end Provider

end PromptStream
